/-
Clients that share one master share one ordered map.

- `Op.Allowed m`: nobody but the clients writes, reads are strict, no node is stopped and no send is made to fail, threads
  answer in time, and every belief is in m.
- `Shares`: what ties a simulation to the map. `shares_step`: every allowed operation keeps it.
- `shared_map`: after any allowed operations, in any order and by any number of clients, every node holds the map, and
  every valid call about the map is answered as by the map.

The counts on the wire have 32 bits, so the map and the cluster must not outgrow them (`Shared.RoomAlong`). Clocks may
be moved as long as they can tell the moment (`TellsAlong`).
-/
import ReplicaKV.Proofs.SharedMap.Serving

namespace ReplicaKV

open ReplicaKV.Frame
open Cluster (watched)

/-- nobody but the clients writes, nothing is done to nodes or beliefs that takes the master away, and threads answer
every packet in time -/
def Op.Allowed (m : NodeId) : Op → Prop
  | .setMaster b | .setBelief _ b => b = some m
  | .setAlive _ alive => alive = true
  | .failSends _ count => count = 0
  | .setThreads threads => ∀ h ∈ threads, h = .answered
  | .call _ c => c ≠ .allowDirtyReads true
  | .sendOn _ frame =>
    ∀ cmd r, Request.decode (Frame.start (.ofBytes frame)) = .ok (.command cmd) r → cmd.writes = false
  | _ => True

variable {m : NodeId} {store : Store}

namespace Cluster

variable {c c' : Cluster}

/-- a change of nodes that changes no node like the others is quiet -/
theorem Serves.quiet_map (h : c.Serves m store) {g : NodeId → Node → Node} (hid : c'.id = c.id)
    (ht : c'.tally = c.tally) (hthreads : c'.threads = c.threads)
    (hn : ∀ k, c'.nodes.get? k = (c.nodes.get? k).map (g k))
    (hg : ∀ k n, n.alive = true → n.belief = some m →
      (g k n).standing = n.standing ∧ (n.failingSends = 0 → (g k n).failingSends = 0)) : Quiet c c' := by
  have hlike : ∀ k n, c.nodes.get? k = some n → n.alive = true ∧ n.belief = some m := by
    intro k n hk
    have hst := h.alike k n.standing (standing_of_node hk)
    exact ⟨congrArg Standing.alive hst, congrArg Standing.belief hst⟩
  refine ⟨hid, SortedMap.ext_get? ?_, by rw [ht], ?_, fun x hx => .inl (hthreads ▸ hx)⟩
  · intro k
    rw [get?_standings, get?_standings, hn, Option.map_map]
    apply Option.map_congr
    intro n hk
    obtain ⟨ha, hb⟩ := hlike k n hk
    exact (hg k n ha hb).1
  · intro hr k n hk
    rw [hn] at hk
    obtain ⟨n₀, hn₀, rfl⟩ := Option.map_eq_some_iff.1 hk
    obtain ⟨ha, hb⟩ := hlike k n₀ hn₀
    exact (hg k n₀ ha hb).2 (hr k n₀ hn₀)

theorem Serves.quiet_adjust (h : c.Serves m store) (id : NodeId) {f : Node → Node}
    (hf : ∀ n, n.alive = true → n.belief = some m →
      (f n).standing = n.standing ∧ (n.failingSends = 0 → (f n).failingSends = 0)) : Quiet c (c.adjust id f) := by
  refine h.quiet_map (g := fun k n => if k = id then f n else n) rfl rfl rfl ?_ ?_
  · intro k
    rw [Cluster.adjust, SortedMap.get?_adjust]
    split_ifs
    · rfl
    · rw [Option.map_id']
  · intro k n ha hb
    split_ifs
    · exact hf n ha hb
    · exact ⟨rfl, fun h => h⟩

/-- an allowed change from outside changes nothing that decides an answer -/
theorem Serves.quiet_control (h : c.Serves m store) {op : Op} (hop : op.Allowed m) {f : Cluster → Cluster}
    (hf : op.control? = some f) : Quiet c (f c) := by
  cases op with
  | setMaster b =>
    cases hf
    obtain rfl : b = some m := hop
    refine h.quiet_map (g := fun _ n => { n with belief := some m }) rfl rfl rfl
      (fun k => SortedMap.get?_mapValues c.nodes _ k) fun k n _ hb => ⟨?_, fun hs => hs⟩
    rw [Node.standing, Node.standing, hb]
  | setBelief id b =>
    cases hf
    obtain rfl : b = some m := hop
    refine h.quiet_adjust id fun n _ hb => ⟨?_, fun hs => hs⟩
    rw [Node.standing, Node.standing, hb]
  | setAlive id alive =>
    cases hf
    obtain rfl : alive = true := hop
    refine h.quiet_adjust id fun n ha _ => ⟨?_, fun hs => hs⟩
    rw [Node.standing, Node.standing, ha]
  | failSends id count =>
    cases hf
    obtain rfl : count = 0 := hop
    exact h.quiet_adjust id fun n _ _ => ⟨rfl, fun _ => rfl⟩
  | setThreads threads =>
    cases hf
    exact ⟨rfl, rfl, rfl, fun hr => hr, fun x hx => .inr (hop x hx)⟩
  | _ => cases hf

/-- so does a send on a link -/
theorem quiet_sendOn {name : String} {frame : Bytes} (hop : (Op.sendOn name frame).Allowed m) (c : Cluster)
    (id : NodeId) : Quiet c (c.send id frame).2 := by
  have hs := send_evaluates c id frame
  cases he : c.evaluates id frame with
  | none => rw [he] at hs; exact hs
  | some cmd =>
    rw [he] at hs
    obtain ⟨n, -, hb, hafter⟩ := hs
    have hstill : cmd.writes = false := by
      unfold evaluates at he
      cases hn : c.nodes.get? id with
      | none => rw [hn] at he; cases he
      | some n =>
        rw [hn] at he
        simp only at he
        split_ifs at he
        cases hd : Request.decode (Frame.start (.ofBytes frame)) with
        | error e r => rw [hd] at he; cases he
        | ok r r' =>
          rw [hd] at he
          cases r with
          | command cmd' =>
            cases he
            exact hop _ r' hd
          | whoMaster | version | query => cases he
    rw [hafter, ← respond_master (c.counted id) id n cmd hb]
    refine ((quiet_counted c id).trans (respond_still _ id n ?_)).trans (quiet_handed _)
    intro cmd' hcmd
    cases hcmd
    exact hstill

end Cluster

/-- the map has fewer than 2^32 entries, all along -/
def Shared.RoomAlong (shared : Shared) (ops : List Op) : Prop :=
  ∀ done, done <+: ops → (shared.run done).map.size < countLimit

instance (shared : Shared) (ops : List Op) : Decidable (shared.RoomAlong ops) := Simulation.decidableAlong ops

namespace Simulation

variable {s : Simulation} {shared : Shared}

/-- node m serves the map to every client that is there -/
structure Shares (s : Simulation) (m : NodeId) (shared : Shared) : Prop where
  cluster : s.cluster.Serves m shared.map
  clients : ∀ i x, s.client? i = some x → x.Follows s.cluster.id m
  present : shared.present = s.clients.map Option.isSome

namespace Shares

theorem there (h : s.Shares m shared) (i : Nat) : shared.present[i]? = some true ↔ ∃ x, s.client? i = some x := by
  rw [h.present, List.getElem?_map, client?]
  rcases s.clients[i]? with _ | _ | x <;> simp

/-- a quiet step, after which a client may have gone -/
theorem quiet (h : s.Shares m shared) {s' : Simulation} {op : Op} (hq : s.cluster.Quiet s'.cluster)
    (hc : s'.clients = op.remaining s.clients) (habsent : ∀ i c, op = .call i c → s.client? i = none) :
    s'.Shares m (shared.step op) := by
  have hmap : (shared.step op).map = shared.map := by
    cases op with
    | call i c =>
      have hnot : ¬shared.present[i]? = some true := by
        intro hi
        obtain ⟨x, hx⟩ := (h.there i).1 hi
        rw [habsent i c rfl] at hx
        cases hx
      rw [Shared.step, if_neg hnot]
    | _ => rfl
  have hpresent : (shared.step op).present = s'.clients.map Option.isSome := by
    rw [hc]
    cases op with
    | call i c =>
      have hr : Op.remaining s.clients (.call i c) = s.clients := rfl
      rw [hr, ← h.present, Shared.step]
      split_ifs <;> rfl
    | dropClient i => rw [Op.remaining, List.map_set, ← h.present]; rfl
    | _ => exact h.present
  refine ⟨hmap ▸ h.cluster.quiet hq, ?_, hpresent⟩
  intro i x hx
  have hold := h.clients i x (client?_of_remaining hc hx)
  rwa [← hq.id] at hold

end Shares

theorem Shares.serving (h : s.Shares m shared) {i : Nat} {x : Client} (hx : s.client? i = some x) :
    Scene.Serving m shared.map (s.scene x).logged :=
  ⟨h.cluster, h.clients i x hx⟩

/-- every allowed operation does with the stores what it does with the map -/
theorem shares_step (h : s.Shares m shared) (hroom : shared.map.size < countLimit) (hclock : s.clock.tellsMoment = true)
    {fuel : Nat} (hfuel : 1 ≤ fuel) {op : Op} (hop : op.Allowed m) : (s.step fuel op).2.Shares m (shared.step op) := by
  rcases step_cases fuel s op with ⟨i, c, x, rfl, hx, -⟩ | ⟨f, hf, hs⟩ | ⟨name, frame, id, rfl, hs, hcl, -⟩ | hi
  · obtain ⟨hserving, -⟩ := (h.serving hx).call hroom hclock hfuel hop
    have hid : ((s.scene x).logged.call watched fuel c).2.net.world.id = s.cluster.id :=
      (Cluster.steady_network.recorded.call fuel c (s.scene x).logged).2.id
    rw [step_call hx, Shared.step, if_pos ((h.there i).2 ⟨x, hx⟩)]
    generalize (s.scene x).logged.call watched fuel c = y at hserving hid ⊢
    obtain ⟨out, s'⟩ := y
    refine ⟨hserving.cluster, ?_, ?_⟩
    · intro j y hy
      rcases client?_set s i j _ hy with ⟨-, hv⟩ | ⟨-, hy⟩
      · cases hv
        exact hserving.client
      · have hold := h.clients j y hy
        rwa [← hid] at hold
    · -- the client that made the call is still there
      obtain ⟨hlt, htrue⟩ := List.getElem?_eq_some_iff.1 ((h.there i).2 ⟨x, hx⟩)
      have hset := List.set_getElem_self hlt
      rw [htrue] at hset
      show shared.present = (s.clients.set i (some s'.client)).map Option.isSome
      rw [List.map_set, ← h.present]
      exact hset.symm
  · have hsame : op.remaining s.clients = s.clients := by
      cases op with
      | dropClient => cases hf
      | _ => rfl
    have hno : ∀ i c, op = .call i c → s.client? i = none := by
      rintro i c rfl
      cases hf
    rcases hs with hs | hs
    · rw [hs]
      exact h.quiet (.refl _) hsame.symm hno
    · rw [hs]
      exact h.quiet (h.cluster.quiet_control hop hf) hsame.symm hno
  · refine h.quiet ?_ hcl nofun
    rw [hs]
    exact Cluster.quiet_sendOn hop s.cluster id
  · exact h.quiet hi.quiet hi.clients hi.absent

/-- a new cluster in which every node believes in m, and clients that have done nothing yet -/
def led (clusterId : String) (ids : List NodeId) (m : NodeId) (clients : List (Config × List Nat)) : Simulation :=
  start ((Cluster.ofNodes clusterId ids).setMaster (some m)) (clients.map fun p => some (.new p.1 p.2))

/-- clients of the cluster that know m -/
def Members (clusterId : String) (m : NodeId) (clients : List (Config × List Nat)) : Prop :=
  ∀ p ∈ clients, p.1.clusterId = clusterId ∧ m ∈ p.1.nodeIds

/-- the ids of the cluster and of its nodes fit the frames that carry them -/
def Names (clusterId : String) (ids : List NodeId) : Prop :=
  12 + clusterId.utf8ByteSize ≤ sizeLimit ∧ ∀ id ∈ ids, 9 + id.utf8ByteSize ≤ sizeLimit

section

variable {clusterId : String} {ids : List NodeId} {clients : List (Config × List Nat)}

theorem get?_led (k : NodeId) : (led clusterId ids m clients).cluster.nodes.get? k =
    if k ∈ ids then some { Node.fresh with belief := some m } else none := by
  have h : (led clusterId ids m clients).cluster.nodes.get? k =
      ((Cluster.ofNodes clusterId ids).nodes.get? k).map fun n => { n with belief := some m } :=
    SortedMap.get?_mapValues _ _ k
  rw [h, Cluster.get?_ofNodes]
  split_ifs <;> rfl

theorem size_led : (led clusterId ids m clients).cluster.nodes.size ≤ ids.length := by
  apply SortedMap.size_le_of_keys
  intro k hk
  obtain ⟨n, hn⟩ := SortedMap.mem_keys_iff.1 hk
  rw [get?_led] at hn
  split_ifs at hn with hid
  exact hid

theorem serves_led (hm : m ∈ ids) (hnames : Names clusterId ids) (hcount : ids.length < countLimit) :
    (led clusterId ids m clients).cluster.Serves m .empty := by
  have hfresh : ∀ id st, (led clusterId ids m clients).cluster.standings.get? id = some st →
      id ∈ ids ∧ st = ⟨true, some m, .empty⟩ := by
    intro id st hst
    obtain ⟨n, hn, rfl⟩ := Cluster.node_of_standing hst
    rw [get?_led] at hn
    split_ifs at hn with hid
    cases hn
    exact ⟨hid, rfl⟩
  have hset : (Op.setMaster (some m)).control? = some fun c => c.setMaster (some m) := rfl
  refine ⟨fun id st hst => (hfresh id st hst).2, ?_, ?_, nofun, ⟨hnames.1, ?_⟩,
    (Cluster.small_ofNodes clusterId ids).control hset, (Cluster.tallied_ofNodes clusterId ids).control hset,
    size_led.trans_lt hcount⟩
  · have hn : (led clusterId ids m clients).cluster.nodes.get? m = some { Node.fresh with belief := some m } := by
      rw [get?_led, if_pos hm]
    exact Cluster.leads_of_node hn rfl rfl
  · intro id n hn
    rw [get?_led] at hn
    split_ifs at hn
    cases hn
    rfl
  · intro k p hp
    rw [Cluster.posts, SortedMap.get?_mapValues] at hp
    obtain ⟨st, hst, rfl⟩ := Option.map_eq_some_iff.1 hp
    obtain ⟨hk, rfl⟩ := hfresh k st hst
    refine ⟨hnames.2 k hk, ?_⟩
    intro b hb
    cases hb
    exact hnames.2 m hm

theorem shares_led (hm : m ∈ ids) (hnames : Names clusterId ids) (hcount : ids.length < countLimit)
    (hclients : Members clusterId m clients) :
    (led clusterId ids m clients).Shares m (.initial clients.length) := by
  refine ⟨serves_led hm hnames hcount, ?_, ?_⟩
  · intro i x hx
    have hx' : ((clients.map fun p => some (Client.new p.1 p.2))[i]?).join = some x := hx
    rw [List.getElem?_map] at hx'
    cases hp : clients[i]? with
    | none => rw [hp] at hx'; cases hx'
    | some p =>
      rw [hp] at hx'
      cases hx'
      obtain ⟨hcluster, hnode⟩ := hclients p (List.mem_of_getElem? hp)
      exact ⟨hcluster, hnode, .inl rfl, rfl, fun _ _ h => nomatch h⟩
  · show List.replicate clients.length true = (clients.map fun p => some (Client.new p.1 p.2)).map Option.isSome
    rw [List.map_map]
    exact List.map_const'.symm

/-- the clock tells the moment, all along -/
def TellsAlong (fuel : Nat) (s : Simulation) (ops : List Op) : Prop :=
  ∀ done, done <+: ops → (s.run fuel done).clock.tellsMoment = true

instance (fuel : Nat) (s : Simulation) (ops : List Op) : Decidable (TellsAlong fuel s ops) := decidableAlong ops

theorem shares_run (h : s.Shares m shared) {fuel : Nat} (hfuel : 1 ≤ fuel) (ops : List Op)
    (hops : ∀ op ∈ ops, op.Allowed m) (hroom : shared.RoomAlong ops) (hclock : TellsAlong fuel s ops) :
    (s.run fuel ops).Shares m (shared.run ops) := by
  induction ops using List.reverseRecOn with
  | nil => exact h
  | append_singleton ops op ih =>
    have hpre : ops <+: ops ++ [op] := List.prefix_append _ _
    have hs := ih (fun o ho => hops o (List.mem_append_left _ ho)) (fun done hd => hroom done (hd.trans hpre))
      fun done hd => hclock done (hd.trans hpre)
    have hop : op.Allowed m := hops op (List.mem_append_right _ (List.mem_singleton_self op))
    rw [run_concat, Shared.run_concat]
    exact shares_step hs (hroom ops hpre) (hclock ops hpre) hfuel hop

/-- **Clients that share one master share one ordered map.** In a new cluster all of whose nodes believe in m, with
any clients that know m: after any allowed operations, as long as threads answer in time, every node holds the map, and
every valid call about the map, by a client that is there, is answered as by the map, if the reply is not too large. A
write needs no such condition. -/
theorem shared_map (hm : m ∈ ids) (hnames : Names clusterId ids) (hcount : ids.length < countLimit)
    (hclients : Members clusterId m clients) {fuel : Nat} (hfuel : 1 ≤ fuel) (ops : List Op)
    (hops : ∀ op ∈ ops, op.Allowed m) (hroom : (Shared.initial clients.length).RoomAlong ops)
    (hclock : TellsAlong fuel (led clusterId ids m clients) ops) :
    let sim := (led clusterId ids m clients).run fuel ops
    let shared := (Shared.initial clients.length).run ops
    (∀ id n, sim.cluster.nodes.get? id = some n → n.store = shared.map) ∧
      ∀ i c a store, shared.present[i]? = some true → c.valid = true → Shared.perform shared.map c = some (a, store) →
        (c.write? = none → a.Fits) → (sim.step fuel (.call i c)).1 = a := by
  intro sim shared
  have h : sim.Shares m shared := shares_run (shares_led hm hnames hcount hclients) hfuel ops hops hroom hclock
  refine ⟨?_, ?_⟩
  · intro id n hn
    exact congrArg Standing.store (h.cluster.alike id n.standing (Cluster.standing_of_node hn))
  · intro i c a store hi hv hp hfits
    obtain ⟨x, hx⟩ := (h.there i).1 hi
    have hreads : c ≠ .allowDirtyReads true := by
      rintro rfl
      cases hp
    rw [step_call hx]
    exact ((h.serving hx).call (hroom ops (List.prefix_refl ops)) (hclock ops (List.prefix_refl ops)) hfuel hreads).2
      a store hv hp hfits

/-- one client stores something and goes; another one, that has closed what it had open, finds it -/
theorem shared_map_two_clients :
    let clients := [(Config.ofTwoNodes, []), (Config.ofTwoNodes, [])]
    let ops := [.call 1 .getKeyCount, .call 0 (.set "k".toUTF8 "v".toUTF8), .dropClient 0, .call 1 .dropConnections]
    let sim := (led "c" ["a", "b"] "b" clients).run 1 ops
    (∀ id n, sim.cluster.nodes.get? id = some n → n.store = ((Shared.initial 2).run ops).map) ∧
      (sim.step 1 (.call 1 (.query (.get "k".toUTF8)))).1 = .value .bytes "v".toUTF8 := by
  intro clients ops sim
  have hnames : Names "c" ["a", "b"] := ⟨by decide +kernel, by decide +kernel⟩
  have hclients : Members "c" "b" clients := by
    unfold Members
    decide +kernel
  have hops : ∀ op ∈ ops, op.Allowed "b" := by simp [ops, Op.Allowed]
  have hroom : (Shared.initial clients.length).RoomAlong ops := by decide +kernel
  have hclock : TellsAlong 1 (led "c" ["a", "b"] "b" clients) ops := by decide +kernel
  obtain ⟨hstores, hanswers⟩ :=
    shared_map (by decide) hnames (by decide) hclients (Nat.le_refl 1) ops hops hroom hclock
  refine ⟨hstores, hanswers 1 _ _ ((Shared.initial 2).run ops).map (by decide +kernel) (by decide +kernel) ?_ ?_⟩
  · rfl
  · intro _
    exact (by decide +kernel : (Reply.body .bytes (.ok "v".toUTF8)).size ≤ sizeLimit)

end

end Simulation

end ReplicaKV
