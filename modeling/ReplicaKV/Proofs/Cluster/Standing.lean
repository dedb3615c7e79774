/-
What decides how a node answers, and what the actions on a cluster do to it.

- `Standing`: whether a node is alive, whom it believes in, and its store. `Cluster.standings` are those of all nodes.
- `Timely`: threads answer all packets in time. `Punctual`: they do nothing too late. `NoSlower`: both stay so.
- `Quiet c c'`: nothing that decides an answer has changed; counters may have, and threads are no slower.
- `map_adjust`: what a change at one node leaves alone.
- `send_outcome`: all that a send can do. `send_cases`: it fails, quietly, or the node receives the frame, and is heard or
  not. `receive_request`: it answers the request.
- `Command.writes`: the commands that may change a store. Other requests leave the cluster quiet (`respond_still`).
- `quiet_respond`, `execute_ok`, `execute_error`: only a command that a master carries out changes a standing, and then
  that of the master and of every live node, by the same mutations (`takeIn`).
-/
import ReplicaKV.Proofs.Network.Calls

namespace ReplicaKV

/-- what decides how a node answers -/
structure Standing where
  alive : Bool
  belief : Option NodeId
  store : Store

def Node.standing (n : Node) : Standing := ⟨n.alive, n.belief, n.store⟩

/-- a standing at node k once the mutations that node id decided on have been passed on -/
def Standing.takeIn (id : NodeId) (ms : List Mutation) (k : NodeId) (st : Standing) : Standing :=
  if k = id || st.alive then { st with store := st.store.applyAll ms } else st

/-- may the command change a store? -/
def Command.writes : Command → Bool
  | set _ _ | confirm _ _ | delete _ | testAndSet _ _ _ | sequence _ _ => true
  | ping _ _ | userFunction _ _ | getKeyCount | expectProgressPossible | statistics => false

/-- the request changes no store, whoever receives it -/
def Request.Still (r : Request) : Prop := ∀ cmd, r = .command cmd → cmd.writes = false

theorem Request.still_whoMaster : Request.whoMaster.Still := fun _ h => by cases h

theorem Request.still_version : Request.version.Still := fun _ h => by cases h

theorem Store.applyAll_append (s : Store) (ms ms' : List Mutation) :
    s.applyAll (ms ++ ms') = (s.applyAll ms).applyAll ms' :=
  List.foldl_append

theorem Standing.takeIn_nil (id k : NodeId) (st : Standing) : st.takeIn id [] k = st := by
  rw [takeIn]; split_ifs <;> rfl

namespace Cluster

variable {c c' c'' : Cluster} {id : NodeId} {n : Node}

def standings (c : Cluster) : SortedMap NodeId Standing := c.nodes.mapValues fun _ n => n.standing

theorem get?_standings (c : Cluster) (id : NodeId) : c.standings.get? id = (c.nodes.get? id).map Node.standing :=
  SortedMap.get?_mapValues c.nodes _ id

theorem standing_of_node (h : c.nodes.get? id = some n) : c.standings.get? id = some n.standing := by
  rw [get?_standings, h]; rfl

theorem node_of_standing {st : Standing} (h : c.standings.get? id = some st) :
    ∃ n, c.nodes.get? id = some n ∧ n.standing = st := by
  rw [get?_standings] at h
  exact Option.map_eq_some_iff.1 h

/-- no send is about to fail -/
def Reliable (c : Cluster) : Prop := ∀ id n, c.nodes.get? id = some n → n.failingSends = 0

instance (c : Cluster) : Decidable c.Reliable :=
  decidable_of_iff (∀ p ∈ c.nodes.entries, p.2.failingSends = 0)
    ⟨fun h id n hn => h (id, n) (SortedMap.get?_eq_some_iff.1 hn),
      fun h p hp => h p.1 p.2 (SortedMap.get?_eq_some_iff.2 hp)⟩

/-! ## Threads -/

/-- the threads of the nodes answer every packet in time -/
def Timely (c : Cluster) : Prop := ∀ h ∈ c.threads, h = .answered

/-- no thread does what a packet asks for when its answer is no longer waited for -/
def Punctual (c : Cluster) : Prop := .late ∉ c.threads

instance (c : Cluster) : Decidable c.Timely := inferInstanceAs (Decidable (∀ h ∈ c.threads, h = .answered))

instance (c : Cluster) : Decidable c.Punctual := inferInstanceAs (Decidable (.late ∉ c.threads))

/-- nothing becomes of packets that might not have become of them before -/
def NoSlower (c c' : Cluster) : Prop := ∀ h ∈ c'.threads, h ∈ c.threads ∨ h = .answered

theorem NoSlower.refl (c : Cluster) : NoSlower c c := fun _ h => .inl h

theorem NoSlower.trans (h : NoSlower c c') (h' : NoSlower c' c'') : NoSlower c c'' :=
  fun x hx => (h' x hx).elim (h x) .inr

theorem NoSlower.timely (h : NoSlower c c') (hp : c.Timely) : c'.Timely :=
  fun x hx => (h x hx).elim (hp x) (·)

theorem NoSlower.punctual (h : NoSlower c c') (hp : c.Punctual) : c'.Punctual := by
  intro hlate
  rcases h _ hlate with hl | hl
  · exact hp hl
  · cases hl

theorem noSlower_handed (c : Cluster) : NoSlower c c.handed := fun _ h => .inl (List.mem_of_mem_drop h)

theorem handling_cases (c : Cluster) : c.handling ∈ c.threads ∨ c.handling = .answered := by
  rw [handling]
  cases c.threads with
  | nil => exact .inr rfl
  | cons h hs => exact .inl List.mem_cons_self

theorem Timely.handling (h : c.Timely) : c.handling = .answered := c.handling_cases.elim (h _) (·)

theorem Timely.punctual (h : c.Timely) : c.Punctual := fun hl => nomatch h _ hl

theorem Punctual.handling (h : c.Punctual) : c.handling ≠ .late := by
  intro hl
  rcases c.handling_cases with hm | ha
  · exact h (hl ▸ hm)
  · rw [hl] at ha
    cases ha

/-- a packet is answered in time or too late, or it is never taken -/
theorem hand_cases (c : Cluster) (id : NodeId) (made : Bytes × Cluster) :
    (c.handling = .answered ∧ c.hand id made = (.ok made.1, made.2.handed)) ∨
      (c.handling = .late ∧ c.hand id made = (.error (unanswered id), made.2.handed)) ∨
        c.handling.taken = false ∧ ∃ e, c.hand id made = (.error e, c.handed) := by
  unfold hand
  cases c.handling with
  | answered => exact .inl ⟨rfl, rfl⟩
  | late => exact .inr (.inl ⟨rfl, rfl⟩)
  | dropped | refused => exact .inr (.inr ⟨rfl, _, rfl⟩)

/-! ## Quiet clusters -/

/-- nothing that decides an answer has changed -/
structure Quiet (c c' : Cluster) : Prop where
  id : c'.id = c.id
  standings : c'.standings = c.standings
  applied : c'.tally.applied = c.tally.applied
  reliable : c.Reliable → c'.Reliable
  threads : NoSlower c c'

theorem Quiet.refl (c : Cluster) : Quiet c c := ⟨rfl, rfl, rfl, fun h => h, .refl c⟩

theorem Quiet.trans (h : Quiet c c') (h' : Quiet c' c'') : Quiet c c'' :=
  ⟨h'.id.trans h.id, h'.standings.trans h.standings, h'.applied.trans h.applied, fun hr => h'.reliable (h.reliable hr),
    h.threads.trans h'.threads⟩

theorem quiet_handed (c : Cluster) : Quiet c c.handed := ⟨rfl, rfl, rfl, fun h => h, noSlower_handed c⟩

/-- a node after a quiet step, from the node before it -/
theorem Quiet.node' (h : Quiet c c') (hn : c.nodes.get? id = some n) :
    ∃ n', c'.nodes.get? id = some n' ∧ n'.standing = n.standing :=
  node_of_standing (h.standings.symm ▸ standing_of_node hn)

/-- what a change at one node does not touch is the same at every node -/
theorem map_adjust {α : Type} (c : Cluster) (id : NodeId) {f : Node → Node} {g : Node → α} (hg : ∀ n, g (f n) = g n)
    (k : NodeId) : ((c.adjust id f).nodes.get? k).map g = (c.nodes.get? k).map g := by
  rw [adjust, SortedMap.get?_adjust]
  split_ifs
  · rw [Option.map_map]
    exact Option.map_congr fun n _ => hg n
  · rfl

theorem standings_adjust (c : Cluster) (id : NodeId) {f : Node → Node} (hf : ∀ n, (f n).standing = n.standing) :
    (c.adjust id f).standings = c.standings := by
  apply SortedMap.ext_get?
  intro k
  rw [get?_standings, get?_standings, map_adjust c id hf]

theorem quiet_adjust (c : Cluster) (id : NodeId) {f : Node → Node} (hf : ∀ n, (f n).standing = n.standing)
    (hs : ∀ n, n.failingSends = 0 → (f n).failingSends = 0) : Quiet c (c.adjust id f) := by
  refine ⟨rfl, standings_adjust c id hf, rfl, ?_, .refl c⟩
  intro hr k n hn
  rw [adjust, SortedMap.get?_adjust] at hn
  split_ifs at hn
  · obtain ⟨n₀, hn₀, rfl⟩ := Option.map_eq_some_iff.1 hn
    exact hs n₀ (hr k n₀ hn₀)
  · exact hr k n hn

/-! ## Connections -/

/-- a connection fails, and at most a packet was handed over; or it is counted -/
theorem connect_cases (c : Cluster) (id : NodeId) (clusterId : String) :
    (∃ e c', c.connect id clusterId = (.error e, c') ∧ (c' = c ∨ c' = c.handed)) ∨
      c.handling = .answered ∧
        c.connect id clusterId = (.ok (), c.handed.adjust id fun n => { n with opened := n.opened + 1 }) := by
  unfold connect
  split
  · exact .inl ⟨_, c, rfl, .inl rfl⟩
  · split_ifs
    · exact .inl ⟨_, c, rfl, .inl rfl⟩
    · rcases c.hand_cases id (c.greet (Prologue.encode clusterId), c) with
        ⟨ha, h⟩ | ⟨-, h⟩ | ⟨-, e, h⟩
      · simp only [h]
        split
        · exact .inr ⟨ha, rfl⟩
        · exact .inl ⟨_, _, rfl, .inr rfl⟩
        · exact .inl ⟨_, _, rfl, .inr rfl⟩
      · simp only [h]
        exact .inl ⟨_, _, rfl, .inr rfl⟩
      · simp only [h]
        exact .inl ⟨_, _, rfl, .inr rfl⟩

theorem quiet_connect (c : Cluster) (id : NodeId) (clusterId : String) : Quiet c (c.connect id clusterId).2 := by
  rcases c.connect_cases id clusterId with ⟨e, c', h, rfl | rfl⟩ | ⟨-, h⟩
  · rw [h]
    exact .refl _
  · rw [h]
    exact quiet_handed c
  · rw [h]
    exact (quiet_handed c).trans (quiet_adjust _ id (fun _ => rfl) fun _ h => h)

theorem quiet_close (c : Cluster) (id : NodeId) : Quiet c (c.close id) :=
  quiet_adjust c id (fun _ => rfl) fun _ h => h

/-- the cluster once node id has counted a frame -/
def counted (c : Cluster) (id : NodeId) : Cluster := c.adjust id fun n => { n with requests := n.requests + 1 }

theorem quiet_counted (c : Cluster) (id : NodeId) : Quiet c (c.counted id) :=
  quiet_adjust c id (fun _ => rfl) fun _ h => h

/-- the node can be reached, and the next send to it does not fail -/
def Reaches (c : Cluster) (id : NodeId) (n : Node) : Prop :=
  c.nodes.get? id = some n ∧ n.alive = true ∧ n.failingSends = 0

theorem send_reached (h : c.Reaches id n) (frame : Bytes) : c.send id frame = c.hand id (c.receive id n frame) := by
  obtain ⟨hn, ha, hf⟩ := h
  simp only [send, hn, ha, hf, Bool.not_true, Bool.false_eq_true, if_false, Nat.lt_irrefl]

/-- every send is handed to the thread of the node, or finds no live node, or spends a failure -/
theorem send_outcome (c : Cluster) (id : NodeId) (frame : Bytes) :
    (∃ n, c.Reaches id n ∧ c.send id frame = c.hand id (c.receive id n frame)) ∨
      (∃ e, c.send id frame = (.error e, c) ∧ ∀ n, c.nodes.get? id = some n → n.alive = false) ∨
      ∃ e n, c.nodes.get? id = some n ∧ n.alive = true ∧ 0 < n.failingSends ∧
        c.send id frame = (.error e, c.failSends id (n.failingSends - 1)) := by
  cases hn : c.nodes.get? id with
  | none => exact .inr (.inl ⟨_, by rw [send, hn], nofun⟩)
  | some n =>
    cases ha : n.alive with
    | false =>
      refine .inr (.inl ⟨⟨.connectionReset, s!"node {id} is down"⟩, ?_, fun n' h => by cases h; exact ha⟩)
      simp only [send, hn, ha, Bool.not_false, if_true]
    | true =>
      by_cases hf : 0 < n.failingSends
      · refine .inr (.inr ⟨⟨.brokenPipe, s!"injected send failure to {id}"⟩, n, rfl, ha, hf, ?_⟩)
        simp only [send, hn, ha, Bool.not_true, Bool.false_eq_true, if_false, if_pos hf]
      · have hreach : c.Reaches id n := ⟨hn, ha, Nat.eq_zero_of_not_pos hf⟩
        exact .inl ⟨n, hreach, send_reached hreach frame⟩

/-- a send fails without a trace, or the node receives the frame and is heard, or it does and is not -/
theorem send_cases (c : Cluster) (id : NodeId) (frame : Bytes) :
    (∃ e c', c.send id frame = (.error e, c') ∧ Quiet c c' ∧ c'.tally = c.tally ∧
        ∀ n, c.Reaches id n → c.handling.taken = false) ∨
      (∃ n, c.Reaches id n ∧ c.handling = .answered ∧
        c.send id frame = (.ok (c.receive id n frame).1, (c.receive id n frame).2.handed)) ∨
      ∃ n, c.Reaches id n ∧ c.handling = .late ∧
        c.send id frame = (.error (unanswered id), (c.receive id n frame).2.handed) := by
  rcases c.send_outcome id frame with ⟨n, hr, hs⟩ | ⟨e, hs, hdown⟩ | ⟨e, n, hn, -, hf, hs⟩
  · rw [hs]
    rcases c.hand_cases id (c.receive id n frame) with ⟨hh, h⟩ | ⟨hh, h⟩ | ⟨hh, e, h⟩
    · exact .inr (.inl ⟨n, hr, hh, h⟩)
    · exact .inr (.inr ⟨n, hr, hh, h⟩)
    · exact .inl ⟨e, c.handed, h, quiet_handed c, rfl, fun _ _ => hh⟩
  · refine .inl ⟨e, c, hs, .refl c, rfl, ?_⟩
    rintro n ⟨hn, ha, -⟩
    rw [hdown n hn] at ha
    cases ha
  · have hquiet : Quiet c (c.failSends id (n.failingSends - 1)) := by
      -- a cluster with a send that is about to fail is not reliable
      refine ⟨rfl, standings_adjust c id fun _ => rfl, rfl, fun hr => ?_, .refl c⟩
      rw [hr id n hn] at hf
      exact absurd hf (Nat.lt_irrefl 0)
    refine .inl ⟨e, _, hs, hquiet, rfl, ?_⟩
    rintro n' ⟨hn', -, hf'⟩
    cases hn.symm.trans hn'
    omega

/-- the cluster after a send: a send fails without a trace, or the node receives the frame, heard or not -/
theorem send_received (c : Cluster) (id : NodeId) (frame : Bytes) :
    (Quiet c (c.send id frame).2 ∧ (c.send id frame).2.tally = c.tally ∧
        ∀ n, c.Reaches id n → c.handling.taken = false) ∨
      ∃ n, c.Reaches id n ∧ c.handling.taken = true ∧ (c.send id frame).2 = (c.receive id n frame).2.handed := by
  rcases c.send_cases id frame with ⟨e, c', h, hun⟩ | ⟨n, hr, hh, h⟩ | ⟨n, hr, hh, h⟩
  · rw [h]
    exact .inl hun
  · rw [h, hh]
    exact .inr ⟨n, hr, rfl, rfl⟩
  · rw [h, hh]
    exact .inr ⟨n, hr, rfl, rfl⟩

/-- a fair request is answered as itself -/
theorem receive_request {r : Request} (hr : r.Fair) (c : Cluster) (id : NodeId) (n : Node) :
    c.receive id n r.encode =
      (Reply.encode r.shape ((c.counted id).respond id n r).1, ((c.counted id).respond id n r).2) := by
  obtain ⟨r', h, -⟩ := Request.decode_encode hr.fits r.rest_encode
  rw [hr.plain] at h
  simp only [receive, h]
  rfl

/-! ## Requests -/

/-- a request that no master carries out is quiet -/
theorem quiet_respond (c : Cluster) (id : NodeId) (n : Node) (r : Request)
    (h : ∀ cmd, r = .command cmd → n.belief ≠ some id) : Quiet c (c.respond id n r).2 := by
  cases r with
  | whoMaster => exact quiet_adjust c id (fun _ => rfl) fun _ h => h
  | version => exact .refl c
  | query q dirty =>
    simp only [respond]
    split_ifs
    · refine ⟨rfl, rfl, ?_, fun h => h, .refl c⟩
      cases q <;> rfl
    · exact .refl c
  | command cmd =>
    have hr : c.respond id n (.command cmd) = (.error (notMaster n), c) := if_neg (h cmd rfl)
    rw [hr]
    exact .refl c

theorem respond_master (c : Cluster) (id : NodeId) (n : Node) (cmd : Command) (h : n.belief = some id) :
    c.respond id n (.command cmd) = c.execute id n.store cmd :=
  if_pos h

/-- the cluster once a command has been counted -/
def tallied (c : Cluster) (cmd : Command) : Cluster := { c with tally := c.tally.countCommand cmd }

theorem quiet_tallied (c : Cluster) (cmd : Command) : Quiet c (c.tallied cmd) := by
  refine ⟨rfl, rfl, ?_, fun h => h, .refl c⟩
  cases cmd <;> rfl

theorem execute_ok {cmd : Command} {s : Store} {ms : List Mutation} {v : cmd.shape.Value}
    (h : (c.tallied cmd).evaluate id s cmd = .ok (ms, v)) :
    c.execute id s cmd = (.ok v, (c.tallied cmd).commit id ms) := by
  unfold tallied at h
  simp only [execute, h]
  rfl

theorem execute_error {cmd : Command} {s : Store} {r : Refusal}
    (h : (c.tallied cmd).evaluate id s cmd = .error r) : c.execute id s cmd = (.error r, c.tallied cmd) := by
  unfold tallied at h
  simp only [execute, h]
  rfl

/-- a command that does not write leads to no mutations -/
theorem evaluate_still {s : Store} {cmd : Command} {ms : List Mutation} {v : cmd.shape.Value}
    (hw : cmd.writes = false) (h : c.evaluate id s cmd = .ok (ms, v)) : ms = [] := by
  cases cmd with
  | ping clientId clusterId =>
    simp only [evaluate] at h
    split_ifs at h
    cases h; rfl
  | userFunction name argument =>
    simp only [evaluate] at h
    split_ifs at h
    cases h; rfl
  | getKeyCount | expectProgressPossible | statistics => cases h; rfl
  | set | confirm | delete | testAndSet | sequence => cases hw

theorem id_commit (c : Cluster) (id : NodeId) (ms : List Mutation) : (c.commit id ms).id = c.id := by
  rw [commit]; split_ifs <;> rfl

theorem threads_commit (c : Cluster) (id : NodeId) (ms : List Mutation) : (c.commit id ms).threads = c.threads := by
  rw [commit]; split_ifs <;> rfl

theorem get?_commit (c : Cluster) (id k : NodeId) (ms : List Mutation) :
    (c.commit id ms).nodes.get? k = (c.nodes.get? k).map fun n =>
      if k = id || n.alive then { n with store := n.store.applyAll ms } else n := by
  cases ms with
  | nil =>
    have hid :
        (fun n : Node => if k = id || n.alive then { n with store := n.store.applyAll [] } else n) = fun n => n := by
      funext n; split_ifs <;> rfl
    rw [hid, Option.map_id']
    rfl
  | cons m ms => exact SortedMap.get?_mapValues c.nodes _ k

/-- what a master decided on is taken in by itself and by every live node -/
theorem standings_commit (c : Cluster) (id : NodeId) (ms : List Mutation) :
    (c.commit id ms).standings = c.standings.mapValues (Standing.takeIn id ms) := by
  apply SortedMap.ext_get?
  intro k
  rw [get?_standings, get?_commit, SortedMap.get?_mapValues, get?_standings, Option.map_map, Option.map_map]
  apply Option.map_congr
  intro n _
  by_cases hk : (k = id || n.alive) = true
  · simp only [Function.comp_apply, Standing.takeIn, Node.standing, if_pos hk]
    exact (if_pos hk).symm
  · simp only [Function.comp_apply, Standing.takeIn, Node.standing, if_neg hk]
    exact (if_neg hk).symm

theorem reliable_commit (id : NodeId) (ms : List Mutation) (h : c.Reliable) : (c.commit id ms).Reliable := by
  intro k n hn
  rw [get?_commit] at hn
  obtain ⟨n₀, hn₀, rfl⟩ := Option.map_eq_some_iff.1 hn
  have := h k n₀ hn₀
  split_ifs <;> exact this

/-- a request that does not write leaves the cluster quiet -/
theorem respond_still (c : Cluster) (id : NodeId) (n : Node) {r : Request} (hr : r.Still) :
    Quiet c (c.respond id n r).2 := by
  by_cases h : ∃ cmd, r = .command cmd ∧ n.belief = some id
  · obtain ⟨cmd, rfl, hb⟩ := h
    rw [respond_master c id n cmd hb]
    cases he : (c.tallied cmd).evaluate id n.store cmd with
    | error f => rw [execute_error he]; exact quiet_tallied c cmd
    | ok x =>
      obtain ⟨ms, v⟩ := x
      rw [execute_ok he, evaluate_still (hr cmd rfl) he]
      exact quiet_tallied c cmd
  · exact quiet_respond c id n r fun cmd hcmd hb => h ⟨cmd, hcmd, hb⟩

end Cluster

end ReplicaKV
