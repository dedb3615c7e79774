/-
A write is carried out at most once, and has no half effects.

Whatever was done to the cluster and its clients before, a call that writes may make many attempts over many rounds, at
several nodes. The journal of the nodes says what was carried out meanwhile (`Cluster.journal`, `commands`).

- `AtMostOnce`: the command was carried out at most once, at a node that believed itself master. A value means that it
  was carried out, and taken in by that node and every live one; a failure means that no store has changed, and a
  failure that is retried, or an argument that is refused, means that it was not carried out at all.
- `write_at_most_once`: this is so for every call that writes, in every simulation that began with a new cluster, if the
  threads of the nodes answer in time or not at all (`Punctual`). One that does what it is asked for when nobody waits for
  its answer any longer makes the client ask again, and does it twice.

The counts on the wire have 32 bits. What is shown of earlier calls, that they leave nothing to read for later ones,
needs that no store has outgrown them (`RoomAlong`).
-/
import ReplicaKV.Proofs.Cluster.Journal

namespace ReplicaKV

open Cluster (watched)

/-- what e led to is the answer, and has been taken in by the node of e and by every live node -/
def Evaluation.Applied (e : Evaluation) (before after : Cluster) (answer : Answer) : Prop :=
  ∃ st ms v, before.standings.get? e.node = some st ∧ e.before.evaluate e.node st.store e.command = .ok (ms, v) ∧
    answer = .value e.command.shape v ∧ after.standings = before.standings.mapValues (Standing.takeIn e.node ms)

/-- what became of a write: the cluster before and after it, what was carried out, and the answer -/
structure AtMostOnce (cmd : Command) (before after : Cluster) (done : List Evaluation) (answer : Answer) : Prop where
  once : done.length ≤ 1
  /-- only this command was carried out, and only by a node that believed itself master at that moment -/
  led : ∀ e ∈ done, e.command = cmd ∧ e.before.Leads e.node
  value : ∀ shape v, answer = .value shape v → ∃ e, done = [e] ∧ e.Applied before after answer
  failure : ∀ f, answer = .failure f → after.standings = before.standings
  /-- a lost master or a refused argument -/
  spared : ∀ f, answer = .failure f → f.losesMaster = true ∨ (∃ reason, f = .invalidArgument reason) → done = []
  unfinished : answer = .unfinished → after.standings = before.standings ∧ done = []

namespace Scene

/-- a write from a scene in which nothing is left to read -/
theorem command_at_most_once {s : Scene (Recorded Cluster)} {cmd : Command} (hp : s.net.world.Punctual)
    (hw : cmd.writes = true) (fuel : Nat) (hs : s.Ready) (hlog : evaluations s.net.log = []) :
    AtMostOnce cmd s.net.world (s.command watched fuel cmd).2.net.world
      (evaluations (s.command watched fuel cmd).2.net.log) (.ofOutcome (s.command watched fuel cmd).1) := by
  have hcases := command_write hp hw fuel hs
  generalize s.command watched fuel cmd = x at hcases ⊢
  obtain ⟨out, s'⟩ := x
  rcases hcases with ⟨hno, hcalm⟩ | ⟨out', id, c, hout, h⟩
  · -- nothing was carried out
    have hdone : evaluations s'.net.log = [] := (hcalm.evaluations hp).trans hlog
    have hsame : s'.net.world.standings = s.net.world.standings := hcalm.quiet.standings
    refine ⟨by rw [hdone]; exact Nat.zero_le 1, ?_, ?_, fun _ _ => hsame,
      fun _ _ _ => hdone, fun _ => ⟨hsame, hdone⟩⟩
    · intro e he
      rw [hdone] at he
      cases he
    · intro shape v hv
      rcases out with _ | f | w
      · cases hv
      · cases hv
      · exact absurd rfl (hno w)
  · -- it was carried out once, in the last round
    have hdone : evaluations s'.net.log = [⟨id, cmd, c⟩] := by rw [h.log, hlog]
    obtain rfl : out = some out' := hout
    refine ⟨by rw [hdone]; exact Nat.le_refl 1, ?_, ?_, ?_, ?_, ?_⟩
    · intro e he
      rw [hdone] at he
      rw [List.mem_singleton.1 he]
      exact ⟨rfl, h.leads⟩
    · intro shape v hv
      obtain ⟨st, hst, ⟨ms, w, he, rfl, hafter⟩ | ⟨r, f, -, rfl, -, -⟩⟩ := h.result
      · exact ⟨_, hdone, st, ms, w, hst, he, rfl, hafter⟩
      · cases hv
    · intro f hf
      obtain ⟨st, -, ⟨ms, w, -, rfl, -⟩ | ⟨r, f', -, -, -, hafter⟩⟩ := h.result
      · cases hf
      · exact hafter
    · intro f hf hspared
      rcases out' with f' | w
      · cases hf
        obtain ⟨hlost, hargument⟩ := h.failure rfl
        rcases hspared with hl | ⟨reason, hr⟩
        · rw [hl] at hlost
          cases hlost
        · exact absurd hr (hargument reason)
      · cases hf
    · intro hu
      rcases out' with f' | w <;> cases hu

end Scene

namespace Simulation

/-- **A write is carried out at most once, and has no half effects.** After any operations on a new cluster and its
clients, whatever they did to beliefs, nodes, sends, threads and connections: any client that makes a call that writes,
however long it is retried, while no thread does what it is asked for too late. What the call did, played again, leads to
the cluster that it left, and what was carried out is what the journal of the nodes says of it. -/
theorem write_at_most_once (clusterId : String) (ids : List NodeId) (clients : List (Config × List Nat)) (fuel : Nat)
    (ops : List Op) (hroom : RoomAlong fuel (initial clusterId ids clients) ops) {i : Nat} {x : Client} {c : Call}
    {cmd : Command} (hx : ((initial clusterId ids clients).run fuel ops).client? i = some x)
    (hw : c.write? = some cmd) (hpunctual : ((initial clusterId ids clients).run fuel ops).cluster.Punctual)
    (rounds : Nat) :
    let sim := (initial clusterId ids clients).run fuel ops
    let logged := (sim.scene x).logged.call watched rounds c
    let answer := (sim.step rounds (.call i c)).1
    let after := (sim.step rounds (.call i c)).2
    answer = .ofOutcome logged.1 ∧ after = sim.afterScene i (logged.2.map Recorded.world) ∧
      after.cluster = sim.cluster.acts (did logged.2.net.log) ∧
      AtMostOnce cmd sim.cluster after.cluster (commands (sim.cluster.journal (did logged.2.net.log))) answer := by
  intro sim logged answer after
  have htidy : sim.Tidy := tidy_run fuel ops (tidy_initial clusterId ids clients) hroom
  have hready : (sim.scene x).logged.Ready :=
    ⟨htidy.clean i x hx, (hroom ops (List.prefix_refl ops)).named, htidy.small⟩
  have hstep := step_call (s := sim) hx rounds c
  have hanswer : answer = .ofOutcome logged.1 := congrArg Prod.fst hstep
  have hafter : after = sim.afterScene i (logged.2.map Recorded.world) := congrArg Prod.snd hstep
  obtain ⟨-, hout, hscene⟩ := Scene.call_of_write watched hw rounds (sim.scene x).logged
  have h := Scene.command_at_most_once hpunctual (Call.writes_of_write hw) rounds hready rfl
  rw [← hout, ← hscene] at h
  -- the log of the call tells of one command at most, so last first is first to last
  obtain ⟨hplayed, htold⟩ := Scene.call_played rounds c (sim.scene x)
  have hone : ∀ done : List Evaluation, done.length ≤ 1 → done.reverse = done := by
    rintro (_ | ⟨e, _ | ⟨e', done⟩⟩) hle
    · rfl
    · rfl
    · exact absurd hle (by simp)
  have hdone : commands (sim.cluster.journal (did logged.2.net.log)) = evaluations logged.2.net.log :=
    (List.reverse_eq_iff.1 htold.symm).trans (hone _ h.once)
  refine ⟨hanswer, hafter, ?_, ?_⟩
  · rw [hafter]
    exact hplayed
  · rw [hdone, hanswer, hafter]
    exact h

/-- a client deletes what it stored at a, after b has become master and while the next send to b fails -/
theorem write_at_most_once_redirected :
    let ops := [.setMaster (some "a"), .call 0 (.set "k".toUTF8 "v".toUTF8), .setMaster (some "b"), .failSends "b" 1]
    let sim := (initial "c" ["a", "b"] [(.ofTwoNodes, [])]).run 2 ops
    ∃ x, sim.client? 0 = some x ∧ x.master = some "a" ∧
      let after := (sim.step 2 (.call 0 (.delete "k".toUTF8))).2
      let logged := (sim.scene x).logged.call watched 2 (.delete "k".toUTF8)
      after.cluster = sim.cluster.acts (did logged.2.net.log) ∧
      AtMostOnce (.delete "k".toUTF8) sim.cluster after.cluster
        (commands (sim.cluster.journal (did logged.2.net.log))) (sim.step 2 (.call 0 (.delete "k".toUTF8))).1 := by
  intro ops sim
  have hrun : RoomAlong 2 (initial "c" ["a", "b"] [(.ofTwoNodes, [])]) ops ∧
      (sim.client? 0).map Client.master = some (some "a") ∧ sim.cluster.Punctual := by decide +kernel
  obtain ⟨hroom, hsome, hpunctual⟩ := hrun
  obtain ⟨x, hx, hm⟩ := Option.map_eq_some_iff.1 hsome
  exact ⟨x, hx, hm, (write_at_most_once "c" ["a", "b"] [(.ofTwoNodes, [])] 2 ops hroom hx rfl hpunctual 2).2.2⟩

/-- a thread that answers too late deletes what it was asked to delete, and is asked again: the client is told that there
is nothing to delete -/
example :
    let ops := [.setMaster (some "a"), .call 0 (.set "k".toUTF8 "v".toUTF8), .setThreads [.late]]
    let sim := (initial "c" ["a", "b"] [(.ofTwoNodes, [])]).run 2 ops
    (sim.client? 0).map (fun x =>
      let logged := (sim.scene x).logged.call watched 2 (.delete "k".toUTF8)
      ((commands (sim.cluster.journal (did logged.2.net.log))).length, logged.1 matches some (.error (.notFound _)))) =
        some (2, true) := by
  decide +kernel

end Simulation

end ReplicaKV
