/-
Replies never get out of step with requests.

- `deeds`, `history`: what a client of a simulation has done on the network, in all of its calls, last first.
- `blind_inStep`: a call from a scene in which nothing is left to read keeps the log in step.
- `Accounted`: a client's channels are the connections that its history leaves open, and the history is in step.
- `accounted_step`, `replies_in_step`: so it is after any operations, and nothing is left to read between calls.
-/
import ReplicaKV.Proofs.Simulation
import ReplicaKV.Proofs.Network.Trace

namespace ReplicaKV

open Cluster (watched)

namespace Scene

/-- the scene on a network that remembers what was done before -/
def remembering {W : Type} (s : Scene W) (log : List (Deed W)) : Scene (Recorded W) := ⟨s.client, s.clock, ⟨s.net, log⟩⟩

/-- requests from scenes in which nothing is left to read keep the log in step -/
theorem blind_inStep (b : Bool) :
    Blind watched (Suits b) fun s s' => Kept b s ∧ InStep Cluster.network s.net.log →
      Kept b s' ∧ InStep Cluster.network s'.net.log where
  refl _ h := h
  trans _ _ _ h h' hs := h' (h hs)
  exchange id r _ hr hs := ⟨exchange_kept hr id hs.1, inStep_exchange hs.1.ready.clean hs.2 id r.encode r.shape⟩
  whoMaster := (blind_kept b).whoMaster
  closeAll s hs := ⟨(blind_kept b).closeAll s hs.1, (silent_closeAll Cluster.network s).inStep hs.2⟩
  setMaster s m hs := ⟨(blind_kept b).setMaster s m hs.1, hs.2⟩
  aside s draws clock hs := ⟨(blind_kept b).aside s draws clock hs.1, hs.2⟩

theorem inStep_call {s : Scene (Recorded Cluster)} (fuel : Nat) (c : Call) (hk : Kept c.write?.isNone s)
    (h : InStep Cluster.network s.net.log) : InStep Cluster.network (s.call watched fuel c).2.net.log :=
  ((blind_inStep _).upheld.call fuel c (fun _ => suits_sends)
    (fun _ _ s' hs => ⟨Calm.kept (calm_aside s' _ _ rfl rfl) hs.1, hs.2⟩)
    (fun _ _ s' _ hs => ⟨Calm.kept (calm_aside s' _ _ rfl rfl) hs.1, hs.2⟩) s ⟨hk, h⟩).2

end Scene

namespace Simulation

variable {s : Simulation} {i : Nat} {log : List (Deed Cluster)}

/-- what client number i has done on the network once an operation is over, with what it had done before -/
def deeds (fuel i : Nat) (s : Simulation) (log : List (Deed Cluster)) (op : Op) : List (Deed Cluster) :=
  match s.client? i with
  | none => log
  | some x =>
    match op with
    | .call j c => if j = i then (((s.scene x).remembering log).call watched fuel c).2.net.log else log
    | .dropClient j => if j = i then (((s.scene x).remembering log).closeAll watched).net.log else log
    | _ => log

/-- what client number i has done on the network in a list of operations, last first -/
def history (fuel i : Nat) (s : Simulation) (ops : List Op) : List (Deed Cluster) :=
  (ops.foldl (fun p op => ((p.1.step fuel op).2, deeds fuel i p.1 p.2 op)) (s, [])).2

theorem history_concat (fuel i : Nat) (s : Simulation) (ops : List Op) (op : Op) :
    history fuel i s (ops ++ [op]) = deeds fuel i (s.run fuel ops) (history fuel i s ops) op := by
  have hrun : ∀ (ops : List Op) (p : Simulation × List (Deed Cluster)),
      (ops.foldl (fun p op => ((p.1.step fuel op).2, deeds fuel i p.1 p.2 op)) p).1 = p.1.run fuel ops := by
    intro ops
    induction ops with
    | nil => exact fun _ => rfl
    | cons op ops ih => exact fun p => ih _
  rw [history, List.foldl_append, ← hrun ops (s, [])]
  rfl

/-- the channels of client number i are the connections that the log leaves open; there are none once the client is gone;
and every request in the log ended as what was done before it says -/
structure Accounted (i : Nat) (s : Simulation) (log : List (Deed Cluster)) : Prop where
  tabled : ∀ x, s.client? i = some x → ((s.scene x).remembering log).Tabled
  gone : s.client? i = none → ∀ id, openTo id log = false
  inStep : InStep Cluster.network log

/-- the client that an operation is about -/
def actor? : Op → Option Nat
  | .call j _ | .dropClient j => some j
  | _ => none

/-- an operation leaves other clients as they are -/
theorem client?_step (fuel : Nat) {op : Op} (h : actor? op ≠ some i) : (s.step fuel op).2.client? i = s.client? i := by
  have hset : ∀ (j : Nat) (v : Option Client), j ≠ i → ((s.clients.set j v)[i]?).join = s.client? i := by
    intro j v hj
    rw [List.getElem?_set_ne hj]
    rfl
  rcases step_cases fuel s op with ⟨j, c, x, rfl, -, hs⟩ | ⟨f, -, hs | hs⟩ | ⟨name, frame, id, -, -, hcl, -⟩ | hi
  · rw [hs]
    exact hset j _ fun hj => h (congrArg some hj)
  · rw [hs]
  · rw [hs]
    rfl
  · rw [client?, hcl]
    rfl
  · rw [client?, hi.clients]
    cases op with
    | dropClient j => exact hset j none fun hj => h (congrArg some hj)
    | _ => rfl

/-- a client that is not there does nothing -/
theorem step_absent (fuel : Nat) {op : Op} (h : actor? op = some i) (hnone : s.client? i = none) :
    (s.step fuel op).2 = s := by
  cases op with
  | call j c =>
    cases h
    simp only [step, hnone]
  | dropClient j =>
    cases h
    simp only [step, hnone]
  | _ => cases h

theorem deeds_other (fuel : Nat) {op : Op} (h : actor? op ≠ some i) : deeds fuel i s log op = log := by
  unfold deeds
  cases s.client? i with
  | none => rfl
  | some x =>
    cases op with
    | call j c => exact if_neg fun hj => h (congrArg some hj)
    | dropClient j => exact if_neg fun hj => h (congrArg some hj)
    | _ => rfl

theorem Accounted.of_client {s' : Simulation} (h : Accounted i s log) (hc : s'.client? i = s.client? i) :
    Accounted i s' log where
  tabled x hx := h.tabled x (hc ▸ hx)
  gone hnone := h.gone (hc ▸ hnone)
  inStep := h.inStep

/-- a call keeps the account of its client -/
theorem Accounted.call (h : Accounted i s log) (ht : s.Tidy) (hc : s.cluster.Roomy) {x : Client}
    (hx : s.client? i = some x) (fuel : Nat) (c : Call) :
    Accounted i (s.step fuel (.call i c)).2 (deeds fuel i s log (.call i c)) := by
  have hdeeds : deeds fuel i s log (.call i c) = (((s.scene x).remembering log).call watched fuel c).2.net.log := by
    simp only [deeds, hx, if_true]
  have hcall : (s.scene x).call Cluster.network fuel c =
      Scene.through Recorded.world (((s.scene x).remembering log).call watched fuel c) :=
    Scene.call_map Cluster.network.seen_recorded fuel c ((s.scene x).remembering log)
  have hstep : (s.step fuel (.call i c)).2 =
      s.afterScene i ((((s.scene x).remembering log).call watched fuel c).2.map Recorded.world) := by
    simp only [step, hx, hcall]
  have hkept : Scene.Kept c.write?.isNone ((s.scene x).remembering log) :=
    ⟨⟨ht.clean i x hx, hc.named, ht.small⟩, fun _ => hc.countable ht.tallied⟩
  have htabled := Scene.tabled_call Cluster.network fuel c (h.tabled x hx)
  have hclient := client?_afterScene hx ((((s.scene x).remembering log).call watched fuel c).2.map Recorded.world)
  rw [hdeeds, hstep]
  refine ⟨?_, ?_, Scene.inStep_call fuel c hkept h.inStep⟩
  · intro y hy
    rw [hclient] at hy
    cases hy
    exact htabled
  · intro hnone
    rw [hclient] at hnone
    cases hnone

/-- a client that goes closes its connections -/
theorem Accounted.drop (h : Accounted i s log) {x : Client} (hx : s.client? i = some x) (fuel : Nat) :
    Accounted i (s.step fuel (.dropClient i)).2 (deeds fuel i s log (.dropClient i)) := by
  have hdeeds : deeds fuel i s log (.dropClient i) = (((s.scene x).remembering log).closeAll watched).net.log := by
    simp only [deeds, hx, if_true]
  have hsilent := Scene.silent_closeAll Cluster.network ((s.scene x).remembering log)
  have hclient : (s.step fuel (.dropClient i)).2.client? i = none := by
    simp only [step, hx]
    rw [client?, List.getElem?_set, if_pos rfl]
    split_ifs <;> rfl
  rw [hdeeds]
  refine ⟨?_, ?_, hsilent.inStep h.inStep⟩
  · intro y hy
    rw [hclient] at hy
    cases hy
  · exact fun _ id => (hsilent.tabled (h.tabled x hx) id).symm

/-- every operation keeps the account of every client -/
theorem accounted_step (fuel : Nat) (op : Op) (h : Accounted i s log) (ht : s.Tidy) (hc : s.cluster.Roomy) :
    Accounted i (s.step fuel op).2 (deeds fuel i s log op) := by
  by_cases hactor : actor? op = some i
  · cases hx : s.client? i with
    | none =>
      have hdeeds : deeds fuel i s log op = log := by simp only [deeds, hx]
      rw [hdeeds, step_absent fuel hactor hx]
      exact h
    | some x =>
      cases op with
      | call j c =>
        cases hactor
        exact h.call ht hc hx fuel c
      | dropClient j =>
        cases hactor
        exact h.drop hx fuel
      | _ => cases hactor
  · rw [deeds_other fuel hactor]
    exact h.of_client (client?_step fuel hactor)

theorem accounted_run (fuel : Nat) (ops : List Op) (h : Accounted i s []) (ht : s.Tidy) (hc : RoomAlong fuel s ops) :
    Accounted i (s.run fuel ops) (history fuel i s ops) := by
  induction ops using List.reverseRecOn with
  | nil => exact h
  | append_singleton ops op ih =>
    have hpre : ops <+: ops ++ [op] := List.prefix_append _ _
    have hdone : RoomAlong fuel s ops := fun done hd => hc done (hd.trans hpre)
    rw [run_concat, history_concat]
    exact accounted_step fuel op (ih hdone) (tidy_run fuel ops ht hdone) (hc ops hpre)

theorem accounted_initial (clusterId : String) (ids : List NodeId) (clients : List (Config × List Nat)) (i : Nat) :
    Accounted i (initial clusterId ids clients) [] := by
  refine ⟨?_, fun _ _ => rfl, inStep_nil _⟩
  intro x hx
  have hx' : ((clients.map fun p => some (Client.new p.1 p.2))[i]?).join = some x := hx
  rw [List.getElem?_map] at hx'
  cases hp : clients[i]? with
  | none => rw [hp] at hx'; cases hx'
  | some p =>
    rw [hp] at hx'
    cases hx'
    exact fun _ => rfl

/-- **Replies never get out of step.** After any operations on a new cluster and its clients, as long as the counts on
the wire have room: the channels that a client holds are exactly its open connections, nothing is left to read on any of
them, and every request that the client ever made ended as what it did last says. So the value or the failure that a
request ended in was read from what its node answered to this frame when it was sent, and from nothing else. -/
theorem replies_in_step (clusterId : String) (ids : List NodeId) (clients : List (Config × List Nat)) (fuel : Nat)
    (ops : List Op) (hroom : RoomAlong fuel (initial clusterId ids clients) ops) (i : Nat) :
    let sim := (initial clusterId ids clients).run fuel ops
    let log := history fuel i (initial clusterId ids clients) ops
    (∀ x, sim.client? i = some x → ∀ id, (x.channels.get? id).isSome = openTo id log) ∧
      (∀ x, sim.client? i = some x → ∀ id ch, x.channels.get? id = some ch → ch.left = 0) ∧
      (sim.client? i = none → ∀ id, openTo id log = false) ∧
      InStep Cluster.network log := by
  intro sim log
  have htidy := tidy_initial clusterId ids clients
  have h := accounted_run fuel ops (accounted_initial clusterId ids clients i) htidy hroom
  exact ⟨h.tabled, (tidy_run fuel ops htidy hroom).clean i, h.gone, h.inStep⟩

/-- a client that is refused by a node that is master no more, and whose next send to it fails -/
theorem replies_in_step_through_faults :
    let ops := [.setMaster (some "a"), .call 0 .getKeyCount, .setMaster (some "b"), .call 0 .statistics,
      .failSends "a" 1, .call 0 .getKeyCount]
    let start := initial "c" ["a", "b"] [(.ofTwoNodes, [])]
    RoomAlong 2 start ops ∧ (history 2 0 start ops).length = 19 ∧
      (∀ x, (start.run 2 ops).client? 0 = some x → ∀ id, (x.channels.get? id).isSome = openTo id (history 2 0 start ops)) ∧
      (∀ x, (start.run 2 ops).client? 0 = some x → ∀ id ch, x.channels.get? id = some ch → ch.left = 0) ∧
      ((start.run 2 ops).client? 0 = none → ∀ id, openTo id (history 2 0 start ops) = false) ∧
      InStep Cluster.network (history 2 0 start ops) := by
  intro ops start
  have hrun : RoomAlong 2 start ops ∧ (history 2 0 start ops).length = 19 := by decide +kernel
  exact ⟨hrun.1, hrun.2, replies_in_step "c" ["a", "b"] [(.ofTwoNodes, [])] 2 ops hrun.1 0⟩

end Simulation

end ReplicaKV
