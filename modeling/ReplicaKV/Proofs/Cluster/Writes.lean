/-
Commands that change stores, and what becomes of one on its way through a client's retries.

- `send_evaluates`: what a node does with any bytes is what the log tells of it.
- `Once`: a master carried the command out, once; its mutations are taken in and its answer is told, or it refused.
- `exchange_write`, `rounds_write`, `command_write`: a write is not carried out and all is calm, or it is carried out
  once, over all attempts and rounds. A failure that is retried means that nothing was carried out. All this needs threads
  that are never late: one that is carries a write out, and the client, who does not hear of it, sends it again.
-/
import ReplicaKV.Proofs.Cluster.Discovery
import ReplicaKV.Simulation

namespace ReplicaKV

open ReplicaKV.Frame

namespace Command

theorem not_lists {cmd : Command} (h : cmd.writes = true) : ¬(Request.command cmd).Lists := by
  cases cmd <;> simp [writes, Request.Lists] at h ⊢

end Command

/-- the command of a call that writes -/
def Call.write? : Call → Option Command
  | set k v => some (.set k v)
  | confirm k v => some (.confirm k v)
  | delete k => some (.delete k)
  | testAndSet k expected wanted => some (.testAndSet k expected wanted)
  | sequence us sync => some (.sequence us sync)
  | _ => none

theorem Call.writes_of_write {c : Call} {cmd : Command} (h : c.write? = some cmd) : cmd.writes = true := by
  cases c <;> cases h <;> rfl

namespace Cluster

variable {c c' : Cluster} {id : NodeId} {n : Node}

/-- a write is decided by the store alone -/
theorem evaluate_writes {cmd : Command} (hw : cmd.writes = true) (c c' : Cluster) (id id' : NodeId) (s : Store) :
    c.evaluate id s cmd = c'.evaluate id' s cmd := by
  cases cmd with
  | set | confirm | delete | testAndSet | sequence => rfl
  | ping | userFunction | getKeyCount | expectProgressPossible | statistics => cases hw

/-- whatever bytes are sent, a command is carried out where the log says so, and nowhere else -/
theorem send_evaluates (c : Cluster) (id : NodeId) (frame : Bytes) :
    match c.evaluates id frame with
    | none => Quiet c (c.send id frame).2
    | some cmd => ∃ n, c.Reaches id n ∧ n.belief = some id ∧
        (c.send id frame).2 = ((c.counted id).execute id n.store cmd).2.handed := by
  rcases c.send_received id frame with ⟨hq, -, hun⟩ | ⟨n, hreach, htaken, hs⟩
  · rw [evaluates_of_unreached hun]
    exact hq
  · have hquiet : ∀ r, (∀ cmd, r = .command cmd → n.belief ≠ some id) →
        Quiet c ((c.counted id).respond id n r).2.handed := fun r hr =>
      ((quiet_counted c id).trans (quiet_respond _ id n r hr)).trans (quiet_handed _)
    rw [hs]
    simp only [evaluates, hreach.1, hreach.2.1, hreach.2.2, htaken, decide_true, Bool.true_and, decide_eq_true_eq,
      receive]
    cases Request.decode (Frame.start (.ofBytes frame)) with
    | error e r' =>
      simp only [ite_self]
      exact (quiet_counted c id).trans (quiet_handed _)
    | ok r r' =>
      by_cases hb : n.belief = some id
      · cases r with
        | command cmd =>
          simp only [if_pos hb]
          refine ⟨n, hreach, hb, ?_⟩
          rw [← respond_master (c.counted id) id n cmd hb]
          rfl
        | whoMaster => simp only [if_pos hb]; exact hquiet .whoMaster fun _ h => by cases h
        | version => simp only [if_pos hb]; exact hquiet .version fun _ h => by cases h
        | query q dirty => simp only [if_pos hb]; exact hquiet (.query q dirty) fun _ h => by cases h
      · simp only [if_neg hb]
        exact hquiet r fun _ _ => hb

/-- the answer to a write that succeeds fits a frame -/
theorem write_fits {s : Store} {cmd : Command} {ms : List Mutation} {v : cmd.shape.Value} (hw : cmd.writes = true)
    (hs : s.Small) (h : c.evaluate id s cmd = .ok (ms, v)) : (Reply.body cmd.shape (.ok v)).size ≤ sizeLimit := by
  rw [← list_size, Reply.list_body_ok, List.length_append, length_lowBytes]
  cases cmd with
  | set | confirm | delete | sequence =>
    show 4 + ([] : List UInt8).length ≤ sizeLimit
    decide
  | testAndSet k expected wanted =>
    simp only [evaluate] at h
    cases h
    show 4 + (Frame.optional blob (s.get? k)).length ≤ sizeLimit
    cases hv : s.get? k with
    | none => decide
    | some old =>
      have := hs.value hv
      rw [length_optional_some]
      omega
  | ping | userFunction | getKeyCount | expectProgressPossible | statistics => cases hw

end Cluster

open Cluster (watched)

namespace Scene

/-! ## A write on its way -/

/-- node id, which leads at cluster c, carried the command out, once: its mutations are taken in and its answer is
told, or it refused, nothing is taken in, and the refusal is told unless it could not be read -/
structure Once (s : Scene (Recorded Cluster)) (cmd : Command) (out : Except Failure cmd.shape.Value)
    (s' : Scene (Recorded Cluster)) (id : NodeId) (c : Cluster) : Prop where
  before : s.net.world.Quiet c
  leads : c.Leads id
  log : evaluations s'.net.log = ⟨id, cmd, c⟩ :: evaluations s.net.log
  result : ∃ st, s.net.world.standings.get? id = some st ∧
    ((∃ ms v, c.evaluate id st.store cmd = .ok (ms, v) ∧ out = .ok v ∧
        s'.net.world.standings = s.net.world.standings.mapValues (Standing.takeIn id ms)) ∨
      ∃ r f, c.evaluate id st.store cmd = .error r ∧ out = .error f ∧
        (f = .ofRefusal r ∨ ∃ reason, f = .protocol reason) ∧ s'.net.world.standings = s.net.world.standings)

variable {s s' s'' : Scene (Recorded Cluster)} {cmd : Command}

namespace Once

variable {out : Except Failure cmd.shape.Value} {id : NodeId} {c : Cluster}

theorem of_calm (hp : s.net.world.Punctual) (hs : Calm s s') (h : Once s' cmd out s'' id c) :
    Once s cmd out s'' id c where
  before := hs.quiet.trans h.before
  leads := h.leads
  log := h.log.trans (congrArg _ (hs.evaluations hp))
  result := by
    rw [← hs.quiet.standings]
    exact h.result

/-- what a master refuses says nothing about the master -/
theorem failure (h : Once s cmd out s' id c) {f : Failure} (hf : out = .error f) :
    f.losesMaster = false ∧ ∀ reason, f ≠ .invalidArgument reason := by
  obtain ⟨st, -, ⟨ms, v, -, hv, -⟩ | ⟨r, f', he, hf', hr, -⟩⟩ := h.result
  · rw [hv] at hf
    cases hf
  · obtain rfl : f' = f := Except.error.inj (hf'.symm.trans hf)
    rcases hr with rfl | ⟨reason, rfl⟩
    · refine ⟨(Cluster.evaluate_error he).keeps_master, ?_⟩
      intro reason hbad
      unfold Failure.ofRefusal at hbad
      split at hbad <;> cases hbad
    · exact ⟨rfl, fun _ h => nomatch h⟩

end Once

namespace Served

variable {id : NodeId} {c : Cluster} {n : Node} {out : Except Failure cmd.shape.Value}

/-- a master that was reached carried the command out -/
theorem once (h : Served s id (.command cmd) out s' c n) (hp : s.net.world.Punctual) (hw : cmd.writes = true)
    (hs : s.Ready) (hc : Reply.Counted cmd.shape ((c.counted id).respond id n (.command cmd)).1) (hb : n.belief = some id) :
    Once s cmd out s' id c := by
  have hresp := Cluster.respond_master (c.counted id) id n cmd hb
  have hlog := h.evaluations hp
  simp only [Cluster.carriedOut, if_pos hb, List.singleton_append] at hlog
  have hev := Cluster.evaluate_writes hw ((c.counted id).tallied cmd) c id id n.store
  have hquiet : s.net.world.Quiet ((c.counted id).tallied cmd) :=
    h.quiet.trans (Cluster.quiet_tallied _ cmd)
  refine ⟨h.before, Cluster.leads_of_node h.reaches.1 h.reaches.2.1 hb, hlog, n.standing, h.standing, ?_⟩
  cases he : c.evaluate id n.store cmd with
  | ok x =>
    obtain ⟨ms, v⟩ := x
    have hok : (c.counted id).respond id n (.command cmd) = (.ok v, ((c.counted id).tallied cmd).commit id ms) := by
      rw [hresp]
      exact Cluster.execute_ok (hev.trans he)
    refine .inl ⟨ms, v, he, ?_, ?_⟩
    · have hfit := Cluster.write_fits hw (hs.small.store h.standing) he
      have := (h.told (by rw [hok]; exact hfit)).1
      rwa [hok] at this
    · calc s'.net.world.standings
        _ = ((c.counted id).respond id n (.command cmd)).2.standings := h.after.standings
        _ = (((c.counted id).tallied cmd).commit id ms).standings := by rw [hok]
        _ = s.net.world.standings.mapValues (Standing.takeIn id ms) := by
          rw [Cluster.standings_commit, hquiet.standings]
  | error r =>
    have herr : (c.counted id).respond id n (.command cmd) = (.error r, (c.counted id).tallied cmd) := by
      rw [hresp]
      exact Cluster.execute_error (hev.trans he)
    have hafter : s'.net.world.standings = s.net.world.standings := by
      calc s'.net.world.standings
        _ = ((c.counted id).respond id n (.command cmd)).2.standings := h.after.standings
        _ = ((c.counted id).tallied cmd).standings := by rw [herr]
        _ = s.net.world.standings := hquiet.standings
    have hout := (h.settled hc).2
    rw [herr] at hout
    rcases hout with hout | ⟨reason, hout⟩
    · exact .inr ⟨r, _, he, hout, .inl rfl, hafter⟩
    · exact .inr ⟨r, _, he, hout, .inr ⟨reason, rfl⟩, hafter⟩

/-- a node that is no master refuses -/
theorem refused (h : Served s id (.command cmd) out s' c n)
    (hc : Reply.Counted cmd.shape ((c.counted id).respond id n (.command cmd)).1) (hb : n.belief ≠ some id) :
    ∃ f, out = .error f := by
  have hrefused : (c.counted id).respond id n (.command cmd) = (.error (Cluster.notMaster n), c.counted id) :=
    if_neg hb
  have hout := (h.settled hc).2
  rw [hrefused] at hout
  rcases hout with hout | ⟨reason, hout⟩
  · exact ⟨_, hout⟩
  · exact ⟨_, hout⟩

end Served

/-- a write is not carried out, and fails; or it is carried out once -/
theorem exchange_write (hp : s.net.world.Punctual) (hw : cmd.writes = true) (hr : (Request.command cmd).Fair)
    (hs : s.Ready) (id : NodeId) :
    ((∃ f, (s.exchange watched id (Request.encode (.command cmd)) cmd.shape).1 = .error f) ∧
        Calm s (s.exchange watched id (Request.encode (.command cmd)) cmd.shape).2) ∨
      ∃ c, Once s cmd (s.exchange watched id (Request.encode (.command cmd)) cmd.shape).1
        (s.exchange watched id (Request.encode (.command cmd)) cmd.shape).2 id c := by
  rcases exchange_cases hr (.inl hp) hs.clean id with ⟨f, hf, -, hcalm⟩ | ⟨c, n, h⟩
  · exact .inl ⟨⟨f, hf⟩, hcalm⟩
  · have hc := h.counted hs hr fun hl => absurd hl (Command.not_lists hw)
    by_cases hb : n.belief = some id
    · exact .inr ⟨c, h.once hp hw hs hc hb⟩
    · exact .inl ⟨h.refused hc hb, h.calm hc fun _ _ => hb⟩

theorem exchangeWithMaster_write (hp : s.net.world.Punctual) (hw : cmd.writes = true)
    (hr : (Request.command cmd).Fair) (hs : s.Ready) :
    ((∃ f, (s.exchangeWithMaster watched (Request.encode (.command cmd)) cmd.shape).1 = .error f) ∧
        Calm s (s.exchangeWithMaster watched (Request.encode (.command cmd)) cmd.shape).2) ∨
      ∃ id c, Once s cmd (s.exchangeWithMaster watched (Request.encode (.command cmd)) cmd.shape).1
        (s.exchangeWithMaster watched (Request.encode (.command cmd)) cmd.shape).2 id c := by
  obtain ⟨hcalm, -⟩ := findMaster_calm hs.attentive
  unfold exchangeWithMaster
  generalize s.findMaster watched = x at hcalm ⊢
  rcases x with ⟨e | m, s₁⟩
  · exact .inl ⟨⟨e, rfl⟩, hcalm⟩
  · rcases exchange_write (hcalm.punctual hp) hw hr (hcalm.ready hs) m with ⟨hf, hcalm'⟩ | ⟨c, h⟩
    · exact .inl ⟨hf, hcalm.trans hcalm'⟩
    · exact .inr ⟨m, c, h.of_calm hp hcalm⟩

/-- over all rounds a write is not carried out, or it is carried out once, in the last one -/
theorem rounds_write (hp : s.net.world.Punctual) (hw : cmd.writes = true) (hr : (Request.command cmd).Fair)
    (b : Backoff) (deadline : Duration) (fuel i : Nat) (hs : s.Ready) :
    let x := s.rounds watched b deadline (exchangeWithMaster watched (Request.encode (.command cmd)) cmd.shape) fuel i
    ((∀ v, x.1 ≠ some (.ok v)) ∧ Calm s x.2) ∨ ∃ out id c, x.1 = some out ∧ Once s cmd out x.2 id c := by
  induction fuel generalizing i s with
  | zero => exact .inl ⟨(fun _ h => by cases h), .refl s⟩
  | succ fuel ih =>
    have ht := exchangeWithMaster_write hp hw hr hs
    simp only [rounds_succ]
    generalize s.exchangeWithMaster watched (Request.encode (.command cmd)) cmd.shape = x at ht ⊢
    rcases x with ⟨e | v, s₁⟩
    · rcases ht with ⟨-, hcalm⟩ | ⟨id, c, h⟩
      · cases hl : e.losesMaster with
        | false =>
          simp only [hl, Bool.false_eq_true, if_false]
          exact .inl ⟨(fun _ h => by cases h), hcalm⟩
        | true =>
          -- nothing has been carried out, and nothing is after the reset and the pause
          have hreset : Calm s (s₁.reset watched).askTime :=
            (hcalm.trans (calm_reset s₁)).trans (calm_aside _ _ _ rfl rfl)
          simp only [hl, if_true]
          split_ifs
          · exact .inl ⟨(fun _ h => by cases h), hreset⟩
          · exact .inl ⟨(fun _ h => by cases h), hreset⟩
          · have hslept : Calm s ((s₁.reset watched).askTime.sleep (b.pause i)) :=
              hreset.trans (calm_aside _ _ _ rfl rfl)
            rcases ih (hslept.punctual hp) (min (i + 1) 0xffffffff) (hslept.ready hs) with
              ⟨hno, hcalm'⟩ | ⟨out, id, c, hout, h⟩
            · exact .inl ⟨hno, hslept.trans hcalm'⟩
            · exact .inr ⟨out, id, c, hout, h.of_calm hp hslept⟩
      · have hl := (h.failure rfl).1
        simp only [hl, Bool.false_eq_true, if_false]
        exact .inr ⟨_, id, c, rfl, h⟩
    · rcases ht with ⟨⟨f, hf⟩, -⟩ | ⟨id, c, h⟩
      · cases hf
      · exact .inr ⟨_, id, c, rfl, h⟩

/-- **A write is not carried out and all is calm, or it is carried out once**, where no thread is late. -/
theorem command_write (hp : s.net.world.Punctual) (hw : cmd.writes = true) (fuel : Nat) (hs : s.Ready) :
    ((∀ v, (s.command watched fuel cmd).1 ≠ some (.ok v)) ∧ Calm s (s.command watched fuel cmd).2) ∨
      ∃ out id c, (s.command watched fuel cmd).1 = some out ∧ Once s cmd out (s.command watched fuel cmd).2 id c := by
  unfold command
  cases cmd.misuse with
  | some m => exact .inl ⟨(fun _ h => by cases h), .refl s⟩
  | none =>
    simp only
    unfold sendChecked
    cases he : (Request.command cmd).encodeChecked with
    | error m => exact .inl ⟨(fun _ h => by cases h), .refl s⟩
    | ok frame =>
      obtain ⟨hfit, rfl⟩ := Request.fits_of_checked he
      have hasked : Calm s s.askTime := calm_aside _ _ _ rfl rfl
      simp only [persist]
      split_ifs
      · exact .inl ⟨(fun _ h => by cases h), hasked⟩
      · rcases rounds_write (hasked.punctual hp) hw ⟨hfit, rfl⟩ (.ofConfig s.client.config)
          (s.askTime.clock.momentAfter (Backoff.ofConfig s.client.config).budget) fuel 0 (hasked.ready hs) with
          ⟨hno, hcalm⟩ | ⟨out, id, c, hout, h⟩
        · exact .inl ⟨hno, hasked.trans hcalm⟩
        · exact .inr ⟨out, id, c, hout, h.of_calm hp hasked⟩

/-- a call that writes is its command -/
theorem call_of_write {W : Type} (net : Network W) {c : Call} (h : c.write? = some cmd) (fuel : Nat) (s : Scene W) :
    c.shape = cmd.shape ∧ Answer.ofOutcome (s.call net fuel c).1 = .ofOutcome (s.command net fuel cmd).1 ∧
      (s.call net fuel c).2 = (s.command net fuel cmd).2 := by
  cases c <;> cases h <;> exact ⟨rfl, rfl, rfl⟩

end Scene

end ReplicaKV
