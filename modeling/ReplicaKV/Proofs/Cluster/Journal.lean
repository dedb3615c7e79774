/-
What the nodes of a cluster evaluate, action by action, and that the log of a client tells of all of it.

- `Service`: a request that a node evaluated, and the cluster at that moment. `Cluster.journal`: those of a list of
  actions. `commands`: the commands among them.
- `receives`: does a frame that is sent reach the node? `send_of_receives`, `send_unreceived`: what a send does then, and
  what it does otherwise.
- `did`: the actions that a log tells of. `call_played`: played again from the cluster before a call, they lead to the
  cluster after it, and the commands of their journal are those that the log tells of (`evaluations`).
-/
import ReplicaKV.Proofs.Cluster.Actions
import ReplicaKV.Proofs.Cluster.Gate

namespace ReplicaKV

/-- a request that a node evaluated, and the cluster at that moment -/
structure Service where
  node : NodeId
  request : Request
  before : Cluster

/-- the command that was carried out, if the request is one -/
def Service.evaluation? : Service → Option Evaluation
  | ⟨id, .command cmd, c⟩ => some ⟨id, cmd, c⟩
  | ⟨_, _, _⟩ => none

/-- the commands that were carried out, first to last -/
def commands (log : List Service) : List Evaluation := log.filterMap Service.evaluation?

namespace Cluster

/-! ## The journal -/

/-- the request that is evaluated when a frame reaches node id -/
def service? (c : Cluster) (id : NodeId) (frame : Bytes) : Option Service :=
  match c.nodes.get? id, Request.ofFrame? frame with
  | some n, some r => if n.admits id r then some ⟨id, r, c⟩ else none
  | _, _ => none

/-- does the thread of node id take a frame that is sent to it now? -/
def receives (c : Cluster) (id : NodeId) : Bool :=
  (c.nodes.get? id).any fun n => n.alive && n.failingSends = 0 && c.handling.taken

/-- the requests that are evaluated in an action: one at most -/
def served (c : Cluster) : Action → List Service
  | .frame id bytes => (c.service? id bytes).toList
  | .send id bytes => if c.receives id then (c.service? id bytes).toList else []
  | .connect _ _ | .close _ | .setMaster _ | .setBelief _ _ | .setAlive _ _ | .failSends _ _ | .setThreads _ => []

/-- the requests that are evaluated in a list of actions, first to last -/
def journal (c : Cluster) : List Action → List Service
  | [] => []
  | a :: as => c.served a ++ (c.act a).journal as

theorem journal_append (c : Cluster) (as as' : List Action) :
    c.journal (as ++ as') = c.journal as ++ (c.acts as).journal as' := by
  induction as generalizing c with
  | nil => rfl
  | cons a as ih =>
    rw [List.cons_append, journal, ih, journal, List.append_assoc]
    rfl

variable {c : Cluster} {id : NodeId} {n : Node}

/-! ## Sends -/

theorem receives_iff : c.receives id = true ↔ (∃ n, c.Reaches id n) ∧ c.handling.taken = true := by
  unfold receives Reaches
  cases c.nodes.get? id with
  | none => simp
  | some n => simp [and_assoc]

/-- a frame that is taken reaches the node, and a packet has been handed over -/
theorem send_of_receives (h : c.receives id = true) (bytes : Bytes) :
    c.act (.send id bytes) = (c.act (.frame id bytes)).handed := by
  obtain ⟨⟨n, hreach⟩, htaken⟩ := receives_iff.1 h
  rcases c.send_received id bytes with ⟨-, -, hun⟩ | ⟨n', hreach', -, hs⟩
  · rw [hun n hreach] at htaken
    cases htaken
  · simp only [act, hs, hreach'.1]

/-- a frame that is not taken leaves no trace -/
theorem send_unreceived (h : c.receives id = false) (bytes : Bytes) :
    Quiet c (c.act (.send id bytes)) ∧ (c.act (.send id bytes)).tally = c.tally := by
  rcases c.send_received id bytes with ⟨hq, ht, -⟩ | ⟨n, hreach, ht, -⟩
  · exact ⟨hq, ht⟩
  · rw [receives_iff.2 ⟨⟨n, hreach⟩, ht⟩] at h
    cases h

/-- the command that a send leads to is the one in the journal -/
theorem commands_served_send (c : Cluster) (id : NodeId) (frame : Bytes) :
    commands (c.served (.send id frame)) =
      ((c.evaluates id frame).map fun cmd => (⟨id, cmd, c⟩ : Evaluation)).toList := by
  rw [served]
  cases hn : c.nodes.get? id with
  | none =>
    have hr : c.receives id = false := by rw [receives, hn]; rfl
    have he : c.evaluates id frame = none := by rw [evaluates, hn]
    rw [hr, he]
    rfl
  | some n =>
    have hr : c.receives id = (n.alive && n.failingSends = 0 && c.handling.taken) := by rw [receives, hn]; rfl
    simp only [hr, service?, evaluates, hn, Request.ofFrame?]
    cases n.alive && n.failingSends = 0 && c.handling.taken with
    | false => rfl
    | true =>
      simp only [if_true, Bool.true_and, decide_eq_true_eq]
      cases Request.decode (Frame.start (.ofBytes frame)) with
      | error e rest => simp only [ite_self]; rfl
      | ok r rest =>
        cases r with
        | command cmd =>
          simp only [Node.admits, decide_eq_true_eq]
          split_ifs <;> rfl
        | whoMaster | version => simp only [Node.admits, ite_self]; rfl
        | query q dirty =>
          simp only [ite_self]
          split_ifs <;> rfl

end Cluster

/-! ## What a log tells of -/

/-- what a client did to the cluster, if it did something -/
def Deed.action? : Deed Cluster → Option Cluster.Action
  | .connected id clusterId _ => some (.connect id clusterId)
  | .sent id frame _ _ => some (.send id frame)
  | .closed id => some (.close id)
  | .ended _ => none

/-- all that was done, first to last -/
def did (log : List (Deed Cluster)) : List Cluster.Action := log.reverse.filterMap Deed.action?

open Cluster (watched)

/-- played again, what was done between r and r' leads from one cluster to the other, and the log tells of the commands
in it -/
def Recorded.Played (r r' : Recorded Cluster) : Prop :=
  ∃ new, r'.log = new ++ r.log ∧ r'.world = r.world.acts (did new) ∧
    evaluations new = (commands (r.world.journal (did new))).reverse

namespace Recorded.Played

variable {r r' r'' : Recorded Cluster}

theorem refl (r : Recorded Cluster) : Played r r := ⟨[], rfl, rfl, rfl⟩

theorem trans (h : Played r r') (h' : Played r' r'') : Played r r'' := by
  obtain ⟨new, hlog, hworld, he⟩ := h
  obtain ⟨new', hlog', hworld', he'⟩ := h'
  have hdid : did (new' ++ new) = did new ++ did new' := by
    rw [did, List.reverse_append, List.filterMap_append]
    rfl
  refine ⟨new' ++ new, by rw [hlog', hlog, List.append_assoc], ?_, ?_⟩
  · rw [hdid, Cluster.acts_append, ← hworld, hworld']
  · rw [hdid, Cluster.journal_append, ← hworld, commands, List.filterMap_append, List.reverse_append]
    exact (List.filterMap_append ..).trans (congrArg₂ _ he' he)

/-- one deed, of one action -/
theorem one {d : Deed Cluster} {a : Cluster.Action} (hd : d.action? = some a) (hlog : r'.log = d :: r.log)
    (hworld : r'.world = r.world.act a) (he : d.evaluation?.toList = commands (r.world.served a)) : Played r r' := by
  have hdid : did [d] = [a] := by
    rw [did, List.reverse_singleton, List.filterMap_cons_some hd]
    rfl
  have hjournal : r.world.journal [a] = r.world.served a := List.append_nil _
  refine ⟨[d], hlog, by rw [hdid, hworld]; rfl, ?_⟩
  rw [hdid, hjournal, ← he]
  cases hx : d.evaluation? with
  | none => rw [evaluations, List.filterMap_cons_none hx]; rfl
  | some e => rw [evaluations, List.filterMap_cons_some hx]; rfl

end Recorded.Played

/-- **Whatever is done on the network is an action on the cluster.** -/
theorem Cluster.played_watched : watched.Keeps Recorded.Played where
  refl := .refl
  trans _ _ _ := .trans
  connect id l clusterId r := .one (a := .connect id clusterId) rfl rfl rfl rfl
  send id frame r := by
    refine .one (a := .send id frame) rfl rfl ?_ ?_
    · simp only [Network.recorded_send, network_send]
      rfl
    · rw [commands_served_send]
      rfl
  close id r := .one (a := .close id) rfl rfl rfl rfl
  note n r := ⟨[.ended n], rfl, rfl, rfl⟩

/-- what a call did, played again -/
theorem Scene.call_played (fuel : Nat) (call : Call) (s : Scene Cluster) :
    let r := (s.logged.call watched fuel call).2.net
    r.world = s.net.acts (did r.log) ∧ evaluations r.log = (commands (s.net.journal (did r.log))).reverse := by
  intro r
  obtain ⟨new, hlog, hworld, he⟩ := (Cluster.played_watched.call fuel call s.logged).2
  have hnew : r.log = new := hlog.trans (List.append_nil new)
  rw [hnew]
  exact ⟨hworld, he⟩

end ReplicaKV
