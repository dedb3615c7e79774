/-
What can be done to a cluster, whoever does it.

- `Action`: connections, sends, frames that reach a node, and the changes from outside. `Cluster.act`: what each does,
  and `Cluster.acts` what any list of them leads to.
- `Comes may c c'`: actions lead from c to c', and they stop no node but those that may be stopped.
- `comes_network`, `step_comes`: every action of a client on the cluster and every operation of a simulation is a list
  of such actions. So whatever holds after any of them holds in any simulation (`after_comes`).
-/
import ReplicaKV.Proofs.Replicas

namespace ReplicaKV

namespace Cluster

/-- something that is done to a cluster -/
inductive Action where
  | connect (id : NodeId) (clusterId : String)
  | close (id : NodeId)
  /-- a frame is sent; it need not reach the node -/
  | send (id : NodeId) (bytes : Bytes)
  /-- a frame reaches a node, even if the node was stopped on the way -/
  | frame (id : NodeId) (bytes : Bytes)
  | setMaster (m : Option NodeId)
  | setBelief (id : NodeId) (m : Option NodeId)
  | setAlive (id : NodeId) (alive : Bool)
  | failSends (id : NodeId) (count : Nat)
  | setThreads (threads : List Handling)

/-- the action stops the node -/
def Action.stops (id : NodeId) : Action → Bool
  | setAlive id' false => id' = id
  | _ => false

def act (c : Cluster) : Action → Cluster
  | .connect id clusterId => (c.connect id clusterId).2
  | .close id => c.close id
  | .send id bytes => (c.send id bytes).2
  | .frame id bytes =>
    match c.nodes.get? id with
    | none => c
    | some n => (c.receive id n bytes).2
  | .setMaster m => c.setMaster m
  | .setBelief id m => c.setBelief id m
  | .setAlive id alive => c.setAlive id alive
  | .failSends id count => c.failSends id count
  | .setThreads threads => c.setThreads threads

/-- the cluster after a list of actions -/
def acts (c : Cluster) (as : List Action) : Cluster := as.foldl act c

theorem acts_append (c : Cluster) (as as' : List Action) : c.acts (as ++ as') = (c.acts as).acts as' :=
  List.foldl_append

/-- actions lead from c to c', and stop only nodes that may be stopped -/
def Comes (may : NodeId → Bool) (c c' : Cluster) : Prop :=
  ∃ as, c' = c.acts as ∧ ∀ a ∈ as, ∀ id, a.stops id = true → may id = true

variable {may may' : NodeId → Bool} {c c' c'' : Cluster}

namespace Comes

theorem refl (may : NodeId → Bool) (c : Cluster) : Comes may c c := ⟨[], rfl, nofun⟩

theorem trans (h : Comes may c c') (h' : Comes may c' c'') : Comes may c c'' := by
  obtain ⟨as, rfl, hs⟩ := h
  obtain ⟨as', rfl, hs'⟩ := h'
  refine ⟨as ++ as', (acts_append ..).symm, ?_⟩
  intro a ha
  exact (List.mem_append.1 ha).elim (hs a) (hs' a)

theorem mono (h : Comes may c c') (hm : ∀ id, may id = true → may' id = true) : Comes may' c c' := by
  obtain ⟨as, hc, hs⟩ := h
  exact ⟨as, hc, fun a ha id hid => hm id (hs a ha id hid)⟩

theorem one {a : Action} (hc : c' = c.act a) (hs : ∀ id, a.stops id = true → may id = true) : Comes may c c' :=
  ⟨[a], hc, fun _ ha => List.mem_singleton.1 ha ▸ hs⟩

/-- an action that stops no node -/
theorem harmless {a : Action} (hc : c' = c.act a) (hs : ∀ id, a.stops id = false) : Comes may c c' :=
  .one hc fun id h => by rw [hs id] at h; cases h

end Comes

/-- every action of a client on the network is a list of actions -/
theorem comes_network (may : NodeId → Bool) : network.Keeps (Comes may) where
  refl := .refl may
  trans _ _ _ := .trans
  connect id _ clusterId c := .harmless (a := .connect id clusterId) rfl fun _ => rfl
  send id frame c := by rw [network_send]; exact .harmless (a := .send id frame) rfl fun _ => rfl
  close id c := .harmless (a := .close id) rfl fun _ => rfl
  note _ c := .refl may c

end Cluster

namespace Simulation

open Cluster (Comes)

variable {may : NodeId → Bool}

theorem comes_closed (may : NodeId → Bool) (s : Simulation) (name : String) :
    Comes may s.cluster (s.closed name).cluster := by
  unfold closed
  split
  · exact .refl may _
  · split_ifs
    · exact .harmless (a := .close _) rfl fun _ => rfl
    · exact .refl may _

theorem comes_withLink (s : Simulation) (name : String) {f : Link → Answer × Simulation}
    (hf : ∀ l, Comes may s.cluster (f l).2.cluster) : Comes may s.cluster (s.withLink name f).2.cluster := by
  unfold withLink
  split
  · exact .refl may _
  · exact hf _

theorem comes_control (s : Simulation) (id : NodeId) {f : Cluster → Cluster} (hf : Comes may s.cluster (f s.cluster)) :
    Comes may s.cluster (s.control id f).2.cluster := by
  rcases control_cases s id f with h | h
  · rw [h]
    exact .refl may _
  · rw [h]
    exact hf

/-- **Every operation is a list of actions**, and stops no node but the one that it says. -/
theorem step_comes (fuel : Nat) (s : Simulation) (op : Op) :
    Comes (fun id => (Happening.operate fuel op).stops id) s.cluster (s.step fuel op).2.cluster := by
  have hsame := Comes.refl (fun id => (Happening.operate fuel op).stops id) s.cluster
  have hnet := Cluster.comes_network fun id => (Happening.operate fuel op).stops id
  cases op with
  | call i c =>
    simp only [step]
    cases s.client? i with
    | none => exact hsame
    | some x => exact (hnet.call fuel c (s.scene x)).2
  | dropClient i =>
    simp only [step]
    cases s.client? i with
    | none => exact hsame
    | some x => exact (hnet.closeAll (s.scene x)).2
  | setMaster m => exact .harmless (a := .setMaster m) rfl fun _ => rfl
  | setBelief id m => exact comes_control s id (.harmless (a := .setBelief id m) rfl fun _ => rfl)
  | setAlive id alive =>
    refine comes_control s id (.one (a := .setAlive id alive) rfl fun _ h => ?_)
    cases alive <;> exact h
  | failSends id count => exact comes_control s id (.harmless (a := .failSends id count) rfl fun _ => rfl)
  | setThreads threads => exact .harmless (a := .setThreads threads) rfl fun _ => rfl
  | openLink name id clusterId =>
    have hconnect := hnet.connect id ⟨"", 0⟩ clusterId s.cluster
    simp only [step]
    simp only [Cluster.network] at hconnect
    generalize s.cluster.connect id clusterId = x at hconnect ⊢
    rcases x with ⟨e | u, c⟩
    · exact hconnect
    · exact hconnect.trans (comes_closed _ { s with cluster := c } name)
  | sendOn name frame =>
    refine comes_withLink s name fun l => ?_
    split_ifs
    · exact hsame
    · have hsend : Comes (fun id => (Happening.operate fuel (.sendOn name frame)).stops id) s.cluster
          (s.cluster.send l.node frame).2 := .harmless (a := .send l.node frame) rfl fun _ => rfl
      generalize s.cluster.send l.node frame = x at hsend ⊢
      rcases x with ⟨e | bytes, c⟩ <;> exact hsend
  | counters id =>
    simp only [step]
    cases s.cluster.nodes.get? id <;> exact hsame
  | contents | advance => exact hsame
  | decodeFrom name shape =>
    refine comes_withLink s name fun l => ?_
    split <;> exact hsame
  | readFrom name n =>
    refine comes_withLink s name fun l => ?_
    split_ifs <;> exact hsame
  | closeLink name => exact comes_closed _ s name
  | dropLink name => exact comes_closed _ s name

/-- whatever happens in a simulation comes of actions on its cluster -/
theorem after_comes (s : Simulation) (es : List Happening) :
    Comes (fun id => es.any (Happening.stops id)) s.cluster (s.after es).cluster := by
  induction es using List.reverseRecOn with
  | nil => exact .refl _ _
  | append_singleton es e ih =>
    have hbefore : ∀ id, es.any (Happening.stops id) = true → (es ++ [e]).any (Happening.stops id) = true := by
      intro id h
      rw [List.any_append, h, Bool.true_or]
    have hlast : ∀ id, e.stops id = true → (es ++ [e]).any (Happening.stops id) = true := by
      intro id h
      rw [List.any_append, List.any_cons, h, Bool.true_or, Bool.or_true]
    rw [after_concat]
    refine (ih.mono hbefore).trans ?_
    cases e with
    | operate fuel op => exact (step_comes fuel _ op).mono hlast
    | arrive config draws => exact .refl _ _

end Simulation

end ReplicaKV
