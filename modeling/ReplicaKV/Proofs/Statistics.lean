/-
The statistics of a cluster add up.

The counters are kept in three places: a query counts itself, a command counts itself before it is decided, and what it
leads to is counted when it is passed on. The journal of the requests that nodes evaluated says what they should be.

- `committed`, `taken`: the mutations that the requests of a journal led to, and those of them that reached a node.
- `AddsUp c log`: every counter of the cluster is what the journal says, and so are its stores. `Statistics.Reports`: so
  are the statistics that a master reports, in 64 bits.
- `AddsUp.frame`, `AddsUp.acts`: it adds up after one frame, and after any actions. `statistics_add_up` says so of every
  cluster that a simulation can come to.
-/
import ReplicaKV.Proofs.Cluster.Journal

namespace ReplicaKV

/-! ## What a journal adds up to -/

namespace Service

/-- what the request led to -/
def mutations (e : Service) : List Mutation :=
  match e.request, e.before.nodes.get? e.node with
  | .command cmd, some n => e.before.mutations e.node n.store cmd
  | _, _ => []

/-- what a request leads to reaches the nodes that are alive, and the one that decided on it -/
def reaches (e : Service) (k : NodeId) : Bool := k = e.node || (e.before.nodes.get? k).any Node.alive

/-- the node believed itself master -/
def led (e : Service) : Bool := (e.before.nodes.get? e.node).any fun n => n.belief = some e.node

end Service

/-- the mutations of a journal -/
def committed (log : List Service) : List Mutation := log.flatMap Service.mutations

/-- those of them that reached node k -/
def taken (k : NodeId) (log : List Service) : List Mutation := (log.filter (·.reaches k)).flatMap Service.mutations

/-- how many requests of a journal have one of these opcodes -/
def asked (ops : List Opcode) (log : List Service) : Nat := log.countP fun e => e.request.opcode ∈ ops

namespace Tally

/-- one more request is counted -/
structure Counts (t t' : Tally) (e : Service) : Prop where
  sets : t'.sets = t.sets + asked [.set, .confirm] [e]
  deletes : t'.deletes = t.deletes + asked [.delete] [e]
  sequences : t'.sequences = t.sequences + asked [.sequence, .syncedSequence] [e]
  gets : t'.gets = t.gets + asked [.get] [e]
  multiGets : t'.multiGets = t.multiGets + asked [.multiGet] [e]

theorem counts_query (t : Tally) (id : NodeId) (q : Query) (dirty : Bool) (c : Cluster) :
    t.Counts (t.countQuery q) ⟨id, .query q dirty, c⟩ := by
  cases q <;> exact ⟨rfl, rfl, rfl, rfl, rfl⟩

theorem counts_command (t : Tally) (id : NodeId) (cmd : Command) (c : Cluster) :
    t.Counts (t.countCommand cmd) ⟨id, .command cmd, c⟩ := by
  cases cmd with
  | sequence us sync => cases sync <;> exact ⟨rfl, rfl, rfl, rfl, rfl⟩
  | ping | set | confirm | delete | testAndSet | userFunction | getKeyCount | expectProgressPossible | statistics =>
    exact ⟨rfl, rfl, rfl, rfl, rfl⟩

/-- n more mutations at each of the nodes in a list -/
theorem applied_commit (t : Tally) (n : Nat) {ids : List NodeId} (h : ids.Nodup) (k : NodeId) :
    ((t.commit n ids).applied.get? k).getD 0 = (t.applied.get? k).getD 0 + if k ∈ ids then n else 0 := by
  have hall : ∀ (ids : List NodeId), ids.Nodup → ∀ m : SortedMap NodeId Nat,
      ((ids.foldl (fun m id => m.insert id ((m.get? id).getD 0 + n)) m).get? k).getD 0 =
        (m.get? k).getD 0 + if k ∈ ids then n else 0 := by
    intro ids
    induction ids with
    | nil => exact fun _ m => rfl
    | cons id ids ih =>
      intro h m
      obtain ⟨hid, hids⟩ := List.nodup_cons.1 h
      rw [List.foldl_cons, ih hids]
      by_cases hk : k = id
      · subst hk
        simp [SortedMap.get?_insert, hid]
      · simp [SortedMap.get?_insert, hk]
  exact hall ids h t.applied

end Tally

/-- what is reported is what a journal says, counted in 64 bits -/
structure Statistics.Reports (t : Statistics) (log : List Service) : Prop where
  entries : t.entries = .ofNat (committed log).length
  applied : ∀ k, (t.applied.get? k).getD 0 = .ofNat (taken k log).length
  sets : t.sets = .ofNat (asked [.set, .confirm] log)
  deletes : t.deletes = .ofNat (asked [.delete] log)
  sequences : t.sequences = .ofNat (asked [.sequence, .syncedSequence] log)
  gets : t.gets = .ofNat (asked [.get] log)
  multiGets : t.multiGets = .ofNat (asked [.multiGet] log)

namespace Cluster

/-- the counters of a cluster are what the journal says -/
structure AddsUp (c : Cluster) (log : List Service) : Prop where
  /-- as many mutations were committed as the requests led to -/
  entries : c.tally.entries = (committed log).length
  /-- each node applied as many as reached it -/
  applied : ∀ k, (c.tally.applied.get? k).getD 0 = (taken k log).length
  /-- and it is these that its store was made by -/
  stores : ∀ k n, c.nodes.get? k = some n → n.store = Store.applyAll .empty (taken k log)
  sets : c.tally.sets = asked [.set, .confirm] log
  deletes : c.tally.deletes = asked [.delete] log
  sequences : c.tally.sequences = asked [.sequence, .syncedSequence] log
  gets : c.tally.gets = asked [.get] log
  multiGets : c.tally.multiGets = asked [.multiGet] log
  /-- all of it was asked of nodes that believed themselves master, but for dirty reads -/
  led : ∀ e ∈ log, e.led = true ∨ ∃ q, e.request = .query q true

/-! ## One more request -/

section

variable {log log' : List Service} {e : Service} {k : NodeId} {ops : List Opcode}

theorem committed_append : committed (log ++ log') = committed log ++ committed log' := List.flatMap_append

theorem taken_append : taken k (log ++ log') = taken k log ++ taken k log' := by
  rw [taken, List.filter_append, List.flatMap_append]
  rfl

theorem asked_append : asked ops (log ++ log') = asked ops log + asked ops log' := List.countP_append

theorem committed_one (e : Service) : committed [e] = e.mutations := List.flatMap_singleton ..

theorem taken_one (k : NodeId) (e : Service) : taken k [e] = if e.reaches k then e.mutations else [] := by
  cases h : e.reaches k <;> simp [taken, h]

/-- what reached a node is part of what was committed -/
theorem length_taken_le (k : NodeId) (log : List Service) : (taken k log).length ≤ (committed log).length :=
  ((List.filter_sublist ..).flatMap ..).length_le

theorem taken_eq_committed (h : ∀ e ∈ log, e.reaches k = true) : taken k log = committed log := by
  rw [taken, List.filter_eq_self.2 h, committed]

end

/-- from c to c' one more request is counted, and what it led to is committed -/
structure Accounts (c c' : Cluster) (e : Service) : Prop where
  entries : c'.tally.entries = c.tally.entries + e.mutations.length
  applied : ∀ k, (c'.tally.applied.get? k).getD 0 =
    (c.tally.applied.get? k).getD 0 + if e.reaches k then e.mutations.length else 0
  stores : ∀ k, (c'.nodes.get? k).map Node.store =
    (c.nodes.get? k).map fun n => if e.reaches k then n.store.applyAll e.mutations else n.store
  counts : c.tally.Counts c'.tally e
  led : e.led = true ∨ ∃ q, e.request = .query q true

variable {c c' : Cluster} {log : List Service} {e : Service} {id k : NodeId} {n : Node}

theorem AddsUp.add (h : c.AddsUp log) (he : c.Accounts c' e) : c'.AddsUp (log ++ [e]) where
  entries :=
    calc c'.tally.entries = c.tally.entries + e.mutations.length := he.entries
      _ = (committed log).length + (committed [e]).length := by rw [h.entries, committed_one]
      _ = (committed (log ++ [e])).length := by rw [committed_append, List.length_append]
  applied k :=
    calc (c'.tally.applied.get? k).getD 0
      _ = (c.tally.applied.get? k).getD 0 + if e.reaches k then e.mutations.length else 0 := he.applied k
      _ = (taken k log).length + (taken k [e]).length := by rw [h.applied, taken_one]; split_ifs <;> rfl
      _ = (taken k (log ++ [e])).length := by rw [taken_append, List.length_append]
  stores k n' hn' := by
    have hk := he.stores k
    rw [hn', Option.map_some] at hk
    obtain ⟨n, hn, hs⟩ := Option.map_eq_some_iff.1 hk.symm
    calc n'.store = if e.reaches k then n.store.applyAll e.mutations else n.store := hs.symm
      _ = n.store.applyAll (taken k [e]) := by rw [taken_one]; split_ifs <;> rfl
      _ = (Store.applyAll .empty (taken k log)).applyAll (taken k [e]) := by rw [h.stores k n hn]
      _ = Store.applyAll .empty (taken k (log ++ [e])) := by rw [taken_append, Store.applyAll_append]
  sets := by rw [he.counts.sets, h.sets, asked_append]
  deletes := by rw [he.counts.deletes, h.deletes, asked_append]
  sequences := by rw [he.counts.sequences, h.sequences, asked_append]
  gets := by rw [he.counts.gets, h.gets, asked_append]
  multiGets := by rw [he.counts.multiGets, h.multiGets, asked_append]
  led e' he' := by
    rcases List.mem_append.1 he' with hm | hm
    · exact h.led e' hm
    · rw [List.mem_singleton.1 hm]
      exact he.led

/-- neither counters nor stores have changed -/
structure Same (c c' : Cluster) : Prop where
  tally : c'.tally = c.tally
  stores : ∀ k, (c'.nodes.get? k).map Node.store = (c.nodes.get? k).map Node.store

theorem AddsUp.same (h : c.AddsUp log) (hs : c.Same c') : c'.AddsUp log where
  entries := by rw [hs.tally, h.entries]
  applied k := by rw [hs.tally, h.applied]
  stores k n' hn' := by
    have hk := hs.stores k
    rw [hn', Option.map_some] at hk
    obtain ⟨n, hn, hst⟩ := Option.map_eq_some_iff.1 hk.symm
    rw [← hst, h.stores k n hn]
  sets := by rw [hs.tally, h.sets]
  deletes := by rw [hs.tally, h.deletes]
  sequences := by rw [hs.tally, h.sequences]
  gets := by rw [hs.tally, h.gets]
  multiGets := by rw [hs.tally, h.multiGets]
  led := h.led

theorem Same.refl (c : Cluster) : Same c c := ⟨rfl, fun _ => rfl⟩

theorem Same.trans {c'' : Cluster} (h : Same c c') (h' : Same c' c'') : Same c c'' :=
  ⟨h'.tally.trans h.tally, fun k => (h'.stores k).trans (h.stores k)⟩

theorem same_adjust (c : Cluster) (id : NodeId) {f : Node → Node} (hf : ∀ n, (f n).store = n.store) :
    Same c (c.adjust id f) :=
  ⟨rfl, map_adjust c id hf⟩

theorem same_handed (c : Cluster) : Same c c.handed := ⟨rfl, fun _ => rfl⟩

theorem same_setMaster (c : Cluster) (m : Option NodeId) : Same c (c.setMaster m) := by
  refine ⟨rfl, fun k => ?_⟩
  rw [setMaster, SortedMap.get?_mapValues, Option.map_map]
  rfl

theorem same_connect (c : Cluster) (id : NodeId) (clusterId : String) : Same c (c.connect id clusterId).2 := by
  rcases c.connect_cases id clusterId with ⟨e, c', h, rfl | rfl⟩ | ⟨-, h⟩
  · rw [h]
    exact .refl _
  · rw [h]
    exact same_handed c
  · rw [h]
    exact (same_handed c).trans (same_adjust _ id fun _ => rfl)

/-! ## Requests that are evaluated -/

/-- a commit counts mutations, and no requests -/
theorem tally_commit (c : Cluster) (id : NodeId) (ms : List Mutation) :
    ∃ applied, (c.commit id ms).tally =
      { c.tally with entries := c.tally.entries + ms.length, applied := applied } := by
  cases ms with
  | nil => exact ⟨c.tally.applied, rfl⟩
  | cons m ms => exact ⟨_, rfl⟩

/-- a commit reaches the nodes that are alive, and the one that decided on it -/
theorem applied_commit (hn : c.nodes.get? id = some n) (ms : List Mutation) (k : NodeId) :
    ((c.commit id ms).tally.applied.get? k).getD 0 =
      (c.tally.applied.get? k).getD 0 + if k = id || (c.nodes.get? k).any Node.alive then ms.length else 0 := by
  cases ms with
  | nil =>
    rw [List.length_nil, ite_self]
    rfl
  | cons m ms =>
    have hnodup : ((c.nodes.entries.filter fun p => p.1 = id || p.2.alive).map Prod.fst).Nodup :=
      c.nodes.nodup_keys.sublist (List.filter_sublist.map _)
    have hmem : k ∈ (c.nodes.entries.filter fun p => p.1 = id || p.2.alive).map Prod.fst ↔
        (k = id || (c.nodes.get? k).any Node.alive) = true := by
      simp only [List.mem_map, List.mem_filter, Prod.exists, exists_and_right, exists_eq_right,
        ← SortedMap.get?_eq_some_iff]
      cases hk : c.nodes.get? k with
      | some x => simp
      | none =>
        have hne : k ≠ id := by
          rintro rfl
          cases hn.symm.trans hk
        simp [hne]
    exact (Tally.applied_commit c.tally (m :: ms).length hnodup k).trans (by simp only [hmem])

theorem stores_commit (c : Cluster) (id : NodeId) (ms : List Mutation) (k : NodeId) :
    ((c.commit id ms).nodes.get? k).map Node.store =
      (c.nodes.get? k).map fun n => if k = id || n.alive then n.store.applyAll ms else n.store := by
  rw [get?_commit, Option.map_map]
  refine Option.map_congr fun n _ => ?_
  rw [Function.comp_apply]
  split_ifs <;> rfl

/-- a frame that is counted changes nothing else -/
theorem map_counted {α : Type} (c : Cluster) (id : NodeId) {g : Node → α}
    (hg : ∀ n, g { n with requests := n.requests + 1 } = g n) (k : NodeId) :
    ((c.counted id).nodes.get? k).map g = (c.nodes.get? k).map g :=
  map_adjust c id hg k

theorem alive_counted (c : Cluster) (id k : NodeId) :
    ((c.counted id).nodes.get? k).any Node.alive = (c.nodes.get? k).any Node.alive := by
  have h : ((c.counted id).nodes.get? k).map Node.alive = (c.nodes.get? k).map Node.alive :=
    map_counted c id (fun _ => rfl) k
  simpa only [Option.any_map] using congrArg (Option.any fun alive => alive) h

/-- a query at a node that may answer it counts itself, and leads to nothing -/
theorem accounts_query (hn : c.nodes.get? id = some n) {q : Query} {dirty : Bool}
    (hm : n.admits id (.query q dirty) = true) :
    Accounts c ((c.counted id).respond id n (.query q dirty)).2 ⟨id, .query q dirty, c⟩ := by
  have hr : (c.counted id).respond id n (.query q dirty) =
      (n.store.answer q, { c.counted id with tally := c.tally.countQuery q }) := if_pos hm
  have hstores : ∀ k, ((c.counted id).nodes.get? k).map Node.store = (c.nodes.get? k).map Node.store :=
    map_counted c id fun _ => rfl
  have hunwritten := Tally.unwritten_countQuery c.tally q
  have hnone : Service.mutations ⟨id, .query q dirty, c⟩ = [] := rfl
  rw [hr]
  refine ⟨hunwritten.entries, fun k => ?_, fun k => ?_, c.tally.counts_query id q dirty c, ?_⟩
  · simp only [hunwritten.applied, hnone, List.length_nil, ite_self, Nat.add_zero]
  · exact (hstores k).trans (Option.map_congr fun _ _ => (ite_self _).symm)
  · cases dirty with
    | true => exact .inr ⟨q, rfl⟩
    | false =>
      left
      simpa [Service.led, hn, Node.admits] using hm

/-- a command at a master counts itself, and then what it leads to -/
theorem accounts_command (hn : c.nodes.get? id = some n) (hb : n.belief = some id) (cmd : Command) :
    Accounts c ((c.counted id).respond id n (.command cmd)).2 ⟨id, .command cmd, c⟩ := by
  set e : Service := ⟨id, .command cmd, c⟩ with he
  set c₁ := (c.counted id).tallied cmd with hc₁
  have hms : e.mutations = (c.counted id).mutations id n.store cmd := by
    rw [Service.mutations]
    simp only [he, hn]
    exact mutations_eq ..
  have hn₁ : c₁.nodes.get? id = some { n with requests := n.requests + 1 } := by
    rw [hc₁, tallied, counted, adjust, SortedMap.get?_adjust, if_pos rfl, hn]
    rfl
  have hreaches : ∀ k, e.reaches k = (k = id || (c₁.nodes.get? k).any Node.alive) := by
    intro k
    rw [hc₁, tallied, alive_counted]
    rfl
  have hcounts : c.tally.Counts c₁.tally e := c.tally.counts_command id cmd c
  have hunmoved : c₁.tally.entries = c.tally.entries ∧ c₁.tally.applied = c.tally.applied := by
    cases cmd <;> exact ⟨rfl, rfl⟩
  obtain ⟨applied, htally⟩ := tally_commit c₁ id e.mutations
  rw [respond_master _ id n cmd hb, execute_snd, ← hms]
  refine ⟨?_, fun k => ?_, fun k => ?_, ?_, ?_⟩
  · rw [htally, ← hunmoved.1]
  · rw [applied_commit hn₁, hreaches, hunmoved.2]
  · rw [stores_commit]
    refine (map_counted c id (fun _ => rfl) k).trans (Option.map_congr fun m hm => ?_)
    rw [Service.reaches, he, hm]
    rfl
  · rw [htally]
    exact ⟨hcounts.sets, hcounts.deletes, hcounts.sequences, hcounts.gets, hcounts.multiGets⟩
  · left
    simp [Service.led, he, hn, hb]

/-! ## Any actions -/

/-- a response to a request that is not evaluated counts nothing -/
theorem same_respond (c : Cluster) {r : Request} (hm : n.admits id r = false) : Same c (c.respond id n r).2 := by
  cases r with
  | whoMaster => exact same_adjust c id fun _ => rfl
  | version => exact .refl c
  | query | command =>
    rw [(respond_gate (fun h => by cases h) (fun h => by cases h) c id n).2 hm]
    exact .refl c

/-- **Whatever bytes reach a node, the counters go on adding up.** -/
theorem AddsUp.frame (h : c.AddsUp log) (id : NodeId) (bytes : Bytes) :
    (c.act (.frame id bytes)).AddsUp (log ++ (c.service? id bytes).toList) := by
  simp only [act, service?]
  cases hn : c.nodes.get? id with
  | none => simpa using h
  | some n =>
    have hcounted : Same c (c.counted id) := same_adjust c id fun _ => rfl
    cases hr : Request.ofFrame? bytes with
    | none =>
      obtain ⟨text, hreceive⟩ := receive_garbage hr c id n
      simpa [hreceive] using h.same hcounted
    | some r =>
      simp only [receive_request_frame hr]
      cases hm : n.admits id r with
      | false => simpa using h.same (hcounted.trans (same_respond _ hm))
      | true =>
        simp only [if_true, Option.toList_some]
        cases r with
        | whoMaster | version => cases hm
        | query q dirty => exact h.add (accounts_query hn hm)
        | command cmd => exact h.add (accounts_command hn (of_decide_eq_true hm) cmd)

/-- a frame that is sent adds up where it reaches the node, and changes nothing where it does not -/
theorem AddsUp.send (h : c.AddsUp log) (id : NodeId) (bytes : Bytes) :
    (c.act (.send id bytes)).AddsUp (log ++ c.served (.send id bytes)) := by
  rw [served]
  cases hr : c.receives id with
  | true =>
    rw [send_of_receives hr, if_pos rfl]
    exact (h.frame id bytes).same (same_handed _)
  | false =>
    obtain ⟨hq, ht⟩ := send_unreceived hr bytes
    rw [if_neg Bool.false_ne_true, List.append_nil]
    exact h.same ⟨ht, hq.stores⟩

theorem AddsUp.act (h : c.AddsUp log) (a : Action) : (c.act a).AddsUp (log ++ c.served a) := by
  cases a with
  | frame id bytes => exact h.frame id bytes
  | send id bytes => exact h.send id bytes
  | connect id clusterId =>
    rw [served, List.append_nil]
    exact h.same (same_connect c id clusterId)
  | setMaster m =>
    rw [served, List.append_nil]
    exact h.same (same_setMaster c m)
  | setThreads threads =>
    rw [served, List.append_nil]
    exact h.same ⟨rfl, fun _ => rfl⟩
  | close | setBelief | setAlive | failSends =>
    rw [served, List.append_nil]
    exact h.same (same_adjust c _ fun _ => rfl)

theorem AddsUp.acts (h : c.AddsUp log) (as : List Action) : (c.acts as).AddsUp (log ++ c.journal as) := by
  induction as generalizing c log with
  | nil =>
    rw [journal, List.append_nil]
    exact h
  | cons a as ih =>
    rw [journal, ← List.append_assoc]
    exact ih (h.act a)

/-- the counters are reported as they are -/
theorem AddsUp.reports (h : c.AddsUp log) : c.tally.statistics.Reports log where
  entries := congrArg UInt64.ofNat h.entries
  applied k := by
    rw [← h.applied, Tally.statistics, SortedMap.get?_mapValues]
    cases c.tally.applied.get? k <;> rfl
  sets := congrArg UInt64.ofNat h.sets
  deletes := congrArg UInt64.ofNat h.deletes
  sequences := congrArg UInt64.ofNat h.sequences
  gets := congrArg UInt64.ofNat h.gets
  multiGets := congrArg UInt64.ofNat h.multiGets

/-- a master reports the statistics of its cluster -/
theorem respond_statistics (c : Cluster) (hb : n.belief = some id) :
    (c.respond id n (.command .statistics)).1 = .ok c.tally.statistics := by
  rw [respond_master c id n .statistics hb]
  rfl

theorem addsUp_ofNodes (clusterId : String) (ids : List NodeId) : (ofNodes clusterId ids).AddsUp [] where
  entries := rfl
  applied _ := rfl
  stores k n hn := by
    rw [get?_ofNodes] at hn
    split_ifs at hn
    cases hn
    rfl
  sets := rfl
  deletes := rfl
  sequences := rfl
  gets := rfl
  multiGets := rfl
  led := nofun

/-! ## Nodes that are never stopped -/

variable {a : Action} {as : List Action}

theorem Up.commit (hu : c.Up k) (id : NodeId) (ms : List Mutation) : (c.commit id ms).Up k := by
  obtain ⟨n, hn, ha⟩ := hu
  have hafter := get?_commit c id k ms
  rw [hn, Option.map_some] at hafter
  refine ⟨_, hafter, ?_⟩
  split_ifs <;> exact ha

/-- no response stops a node, even if one that was itself stopped decides on it -/
theorem Up.respond (hu : c.Up k) (id : NodeId) (n : Node) (r : Request) : (c.respond id n r).2.Up k := by
  by_cases h : ∃ cmd, r = .command cmd ∧ n.belief = some id
  · obtain ⟨cmd, rfl, hb⟩ := h
    rw [respond_master c id n cmd hb, execute_snd]
    exact ((quiet_tallied c cmd).replays.up hu).commit id _
  · exact (quiet_respond c id n r fun cmd hr hb => h ⟨cmd, hr, hb⟩).replays.up hu

theorem Up.receive (hu : c.Up k) (id : NodeId) (n : Node) (bytes : Bytes) : (c.receive id n bytes).2.Up k := by
  have hcounted := (quiet_counted c id).replays.up hu
  cases hr : Request.ofFrame? bytes with
  | none =>
    obtain ⟨text, hreceive⟩ := receive_garbage hr c id n
    rw [hreceive]
    exact hcounted
  | some r =>
    rw [receive_request_frame hr]
    exact hcounted.respond id n r

theorem Up.act (hu : c.Up k) (hs : a.stops k = false) : (c.act a).Up k := by
  cases a with
  | connect id clusterId => exact (quiet_connect c id clusterId).replays.up hu
  | close id => exact (quiet_close c id).replays.up hu
  | setMaster m =>
    obtain ⟨n, hn, ha⟩ := hu
    exact ⟨{ n with belief := m }, by rw [Cluster.act, setMaster, SortedMap.get?_mapValues, hn]; rfl, ha⟩
  | setBelief id m =>
    exact (replays_adjust c id (f := fun n => { n with belief := m }) (fun _ => rfl) fun _ => rfl).up hu
  | failSends id count =>
    exact (replays_adjust c id (f := fun n => { n with failingSends := count }) (fun _ => rfl) fun _ => rfl).up hu
  | setAlive id alive =>
    refine hu.setAlive ?_
    rintro rfl rfl
    simp [Action.stops] at hs
  | setThreads threads => exact hu
  | send id bytes => exact (replays_send c id bytes).up hu
  | frame id bytes =>
    simp only [Cluster.act]
    cases c.nodes.get? id with
    | none => exact hu
    | some n => exact hu.receive id n bytes

theorem before_of_mem_served (he : e ∈ c.served a) : e.before = c := by
  have hservice : ∀ id bytes, e ∈ (c.service? id bytes).toList → e.before = c := by
    intro id bytes h
    rw [Option.mem_toList, service?] at h
    split at h
    · split_ifs at h
      cases h
      rfl
    · cases h
  cases a with
  | frame id bytes => exact hservice id bytes he
  | send id bytes =>
    rw [served] at he
    split_ifs at he
    · exact hservice id bytes he
    · cases he
  | connect | close | setMaster | setBelief | setAlive | failSends | setThreads => cases he

/-- whatever is decided on reaches the nodes that are never stopped -/
theorem reaches_of_mem_journal (hu : c.Up k) (hs : ∀ a ∈ as, a.stops k = false) :
    ∀ e ∈ c.journal as, e.reaches k = true := by
  induction as generalizing c with
  | nil => exact nofun
  | cons a as ih =>
    intro e he
    rcases List.mem_append.1 he with hnow | hlater
    · obtain ⟨n, hn, ha⟩ := hu
      rw [Service.reaches, before_of_mem_served hnow, hn, Option.any_some, ha, Bool.or_true]
    · exact ih (hu.act (hs a List.mem_cons_self)) (fun a' ha' => hs a' (List.mem_cons_of_mem a ha')) e hlater

/-- **Statistics add up.** Whatever is done to a new cluster, its counters and its stores are what the journal says, and so
is what any master reports. No node has applied more mutations than were committed, and one that was never stopped has
applied them all. And whatever happens in a simulation with this cluster is done to it by such actions, which stop no node
but those that are stopped there. -/
theorem statistics_add_up (clusterId : String) (ids : List NodeId) :
    (∀ as : List Action,
      let c := (ofNodes clusterId ids).acts as
      c.AddsUp ((ofNodes clusterId ids).journal as) ∧
        (∀ id n, n.belief = some id → ∃ t : Statistics,
          (c.respond id n (.command .statistics)).1 = .ok t ∧ t.Reports ((ofNodes clusterId ids).journal as)) ∧
        (∀ k, (c.tally.applied.get? k).getD 0 ≤ c.tally.entries) ∧
        ∀ k ∈ ids, (∀ a ∈ as, a.stops k = false) → (c.tally.applied.get? k).getD 0 = c.tally.entries) ∧
    ∀ es : List Simulation.Happening, ∃ as : List Action,
      ((Simulation.initial clusterId ids []).after es).cluster = (ofNodes clusterId ids).acts as ∧
        ∀ k, (∀ e ∈ es, e.stops k = false) → ∀ a ∈ as, a.stops k = false := by
  constructor
  · intro as c
    have h : c.AddsUp ((ofNodes clusterId ids).journal as) := (addsUp_ofNodes clusterId ids).acts as
    refine ⟨h, fun id n hb => ⟨_, respond_statistics c hb, h.reports⟩, ?_, ?_⟩
    · intro k
      rw [h.applied, h.entries]
      exact length_taken_le k _
    · intro k hk hs
      have hfresh : (ofNodes clusterId ids).Up k := ⟨.fresh, by rw [get?_ofNodes, if_pos hk], rfl⟩
      have hreached := reaches_of_mem_journal hfresh hs
      calc (c.tally.applied.get? k).getD 0 = (taken k ((ofNodes clusterId ids).journal as)).length := h.applied k
        _ = (committed ((ofNodes clusterId ids).journal as)).length := by rw [taken_eq_committed hreached]
        _ = c.tally.entries := h.entries.symm
  · intro es
    obtain ⟨as, hc, hs⟩ := (Simulation.initial clusterId ids []).after_comes es
    refine ⟨as, hc, fun k hk a ha => ?_⟩
    cases hstops : a.stops k with
    | false => rfl
    | true =>
      obtain ⟨e, he, hstop⟩ := List.any_eq_true.1 (hs a ha k hstops)
      rw [hk e he] at hstop
      cases hstop

/-- node d is stopped and misses a sequence, and a write that is under way there makes it decide on its own; later it
answers a dirty read. Requests that fail or change nothing are counted, and one that b turns away is not. Node a, which
never stopped, has applied all the mutations, and d half of them -/
theorem statistics_add_up_two_masters :
    let key := "k".toUTF8
    let as : List Action := [.setBelief "a" (some "a"), .frame "a" (Request.encode (.command (.set key "v".toUTF8))),
      .setAlive "d" false,
      .frame "a" (Request.encode (.command (.sequence [.set "j".toUTF8 "x".toUTF8, .delete key] false))),
      .frame "a" (Request.encode (.command (.sequence [.assertExists key] true))),
      .frame "a" (Request.encode (.command (.delete key))),
      .setBelief "d" (some "d"), .frame "d" (Request.encode (.command (.set key "w".toUTF8))), .setAlive "d" true,
      .setBelief "d" none, .frame "d" (Request.encode (.query (.get key) true)),
      .frame "a" (Request.encode (.command (.confirm key "w".toUTF8))),
      .frame "a" (Request.encode (.query (.multiGet [key]) false)),
      .frame "b" (Request.encode (.command (.set key "u".toUTF8)))]
    let es : List Simulation.Happening := [.operate 2 (.setAlive "d" false), .operate 2 (.setAlive "d" true)]
    let c := (ofNodes "c" ["a", "b", "d"]).acts as
    ("a" ∈ ["a", "b", "d"] ∧ (∀ x ∈ as, x.stops "a" = false) ∧
      (c.tally.applied.get? "a").getD 0 = c.tally.entries) ∧
    (c.tally.entries = 4 ∧ (c.tally.applied.get? "d").getD 0 = 2 ∧ c.tally.sets = 3 ∧ c.tally.deletes = 1 ∧
      c.tally.sequences = 2 ∧ c.tally.gets = 1 ∧ c.tally.multiGets = 1) ∧
    (∀ e ∈ es, e.stops "a" = false) ∧ ∃ as : List Action,
      ((Simulation.initial "c" ["a", "b", "d"] []).after es).cluster = (ofNodes "c" ["a", "b", "d"]).acts as ∧
        ∀ x ∈ as, x.stops "a" = false := by
  intro key as es
  obtain ⟨hacts, hsimulated⟩ := statistics_add_up "c" ["a", "b", "d"]
  have hnever : ∀ x ∈ as, x.stops "a" = false := by decide
  have hnone : ∀ e ∈ es, e.stops "a" = false := by decide
  have hall := (hacts as).2.2.2 "a" (by decide) hnever
  have hrun : ((ofNodes "c" ["a", "b", "d"]).acts as).tally.entries = 4 ∧
      (((ofNodes "c" ["a", "b", "d"]).acts as).tally.applied.get? "d").getD 0 = 2 ∧
      ((ofNodes "c" ["a", "b", "d"]).acts as).tally.sets = 3 ∧
      ((ofNodes "c" ["a", "b", "d"]).acts as).tally.deletes = 1 ∧
      ((ofNodes "c" ["a", "b", "d"]).acts as).tally.sequences = 2 ∧
      ((ofNodes "c" ["a", "b", "d"]).acts as).tally.gets = 1 ∧
      ((ofNodes "c" ["a", "b", "d"]).acts as).tally.multiGets = 1 := by decide +kernel
  obtain ⟨as', hcluster, hstops⟩ := hsimulated es
  -- nothing more of the run is looked at
  generalize (ofNodes "c" ["a", "b", "d"]).acts as = c at hall hrun ⊢
  exact ⟨⟨by decide, hnever, hall⟩, hrun, hnone, as', hcluster, hstops "a" hnone⟩

end Cluster

end ReplicaKV
