/-
What a request to a node does, attempt by attempt, on every network.

- `Paused`: the pause before an attempt. `Failed`, `Sent`: what an attempt does and leaves that fails, or succeeds.
- `attempt_done`: every attempt does one or the other.
- `attemptStart`, `attemptEnd`: the scene in which each attempt is made, pause and all, and what it comes to.
- `attempts_walk`: attempts are made until one succeeds, or as many as may be.
- `Beside`: what is not the business of a request to a node. `poisoned`: the outcomes after which a channel is unusable.
- `dispatch_attempts`: the attempts of a request, its one reply, and what is left of its channel and of the master.
-/
import ReplicaKV.Proofs.MasterCache
import ReplicaKV.Proofs.Failover

namespace ReplicaKV

theorem Duration.times_le (d : Duration) (n : Nat) : (d.times n).nanos ≤ d.nanos * n := by
  rw [times]
  split_ifs with h
  · exact Nat.le_of_lt h
  · exact Nat.le_refl _

/-- can the channel no longer be used after this outcome? -/
def poisoned {α : Type} : Except Failure α → Bool
  | .ok _ => false
  | .error f => f.poisons

theorem Failure.ofReadFault_poisons (id : NodeId) (e : Fault) : (ofReadFault id e).poisons = true := by
  rw [ofReadFault]; split <;> rfl

namespace Scene

variable {W : Type}

/-! ## Pauses -/

/-- before attempt i there is one pause, of at most i times the scale, for which a draw may be made; before the first
attempt there is none -/
def Paused (scale : Duration) (i : Nat) (s s' : Scene W) : Prop :=
  if i = 0 then s' = s
  else ∃ d draws, d.nanos ≤ i * scale.nanos ∧ s' = ⟨{ s.client with draws := draws }, s.clock.sleep d, s.net⟩

theorem pauseLimit_le (s : Scene W) (i : Nat) : s.pauseLimit i ≤ i * s.client.config.settings.backoffScale.nanos := by
  rw [Nat.mul_comm]
  exact (Nat.min_le_left _ _).trans (Duration.times_le _ _)

theorem paused_waited (i : Nat) (s : Scene W) :
    Paused s.client.config.settings.backoffScale i s (s.waited i) := by
  rw [Paused, waited]
  split_ifs
  · rfl
  · rw [pause]
    split_ifs
    · exact ⟨.zero, s.client.draws, Nat.zero_le _, rfl⟩
    · exact ⟨_, _, (Nat.min_le_right _ _).trans (s.pauseLimit_le i), rfl⟩

/-! ## One attempt -/

section

variable {net : Network W} {id : NodeId} {l : Location} {frame : Bytes} {s s' : Scene (Recorded W)}

/-- w is the network once there is a channel to the node: a connection was made if there was none before -/
def Linked (net : Network W) (id : NodeId) (l : Location) (s : Scene (Recorded W)) (w : W) : Prop :=
  match s.client.channels.get? id with
  | some _ => w = s.net.world
  | none => net.connect id l s.client.config.clusterId s.net.world = (.ok (), w)

/-- what is done to have a channel to the node: one connection, if there is none -/
def linking (id : NodeId) (s : Scene (Recorded W)) : List (Deed W) :=
  match s.client.channels.get? id with
  | some _ => []
  | none => [.connected id s.client.config.clusterId (.ok ())]

/-- an attempt fails with e -/
structure Failed (net : Network W) (id : NodeId) (l : Location) (frame : Bytes) (s : Scene (Recorded W)) (e : Fault)
    (s' : Scene (Recorded W)) : Prop where
  /-- there was no channel and no connection; or the frame could not be sent, and the channel was closed -/
  done : (s.client.channels.get? id = none ∧
        (net.connect id l s.client.config.clusterId s.net.world).1 = .error e ∧
        s'.net.log = .connected id s.client.config.clusterId (.error e) :: s.net.log) ∨
      ∃ w, s.Linked net id l w ∧ (net.send id frame w).1 = .error e ∧
        s'.net.log = .closed id :: .sent id frame w (.error e) :: (s.linking id ++ s.net.log)
  /-- the client has no channel to the node now, and no master -/
  client : s'.client = { s.client with channels := s.client.channels.erase id, master := none }
  clock : s'.clock = s.clock

/-- an attempt succeeds: the frame is sent, and what is delivered for it stands on channel ch -/
structure Sent (net : Network W) (id : NodeId) (l : Location) (frame : Bytes) (s : Scene (Recorded W)) (ch : Stream)
    (s' : Scene (Recorded W)) : Prop where
  done : ∃ w d, s.Linked net id l w ∧ (net.send id frame w).1 = .ok d ∧
    ch = ((s.client.channels.get? id).getD .empty).deliver d.bytes d.ending ∧
    s'.net.log = .sent id frame w (.ok d) :: (s.linking id ++ s.net.log)
  client : s'.client = { s.client with channels := s.client.channels.insert id ch }
  clock : s'.clock = s.clock

/-- there is no channel and no connection can be made, or the client has a channel -/
theorem channel_done (net : Network W) (id : NodeId) (l : Location) (s : Scene (Recorded W)) :
    (s.client.channels.get? id = none ∧ ∃ e w, net.connect id l s.client.config.clusterId s.net.world = (.error e, w) ∧
        s.channel net.recorded id l =
          (.error e, { s with net := s.net.add (.connected id s.client.config.clusterId (.error e)) w })) ∨
      ∃ w, s.Linked net id l w ∧
        let ch := (s.client.channels.get? id).getD .empty
        s.channel net.recorded id l = (.ok ch,
          ⟨{ s.client with channels := s.client.channels.insert id ch }, s.clock, ⟨w, s.linking id ++ s.net.log⟩⟩) := by
  unfold channel Linked linking
  cases hch : s.client.channels.get? id with
  | some ch =>
    right
    refine ⟨s.net.world, rfl, ?_⟩
    simp only [Option.getD_some, SortedMap.insert_self hch]
    rfl
  | none =>
    simp only [Network.recorded_connect]
    cases hc : net.connect id l s.client.config.clusterId s.net.world with
    | mk r w =>
      rcases r with e | u
      · exact .inl ⟨trivial, e, w, rfl, rfl⟩
      · exact .inr ⟨w, rfl, rfl⟩

/-- every attempt fails or succeeds -/
theorem attempt_done (net : Network W) (id : NodeId) (l : Location) (frame : Bytes) (s : Scene (Recorded W)) :
    let made := s.attempt net.recorded id l frame
    (∃ e, made.1 = .error e ∧ Failed net id l frame s e (made.2.gaveUp net.recorded id)) ∨
      ∃ ch, made.1 = .ok ch ∧ Sent net id l frame s ch made.2 := by
  unfold attempt
  rcases channel_done net id l s with ⟨hnone, e, w, hconnect, hch⟩ | ⟨w, hlinked, hch⟩
  · rw [hch]
    refine .inl ⟨e, rfl, ?_⟩
    simp only [gaveUp, evict, hnone]
    refine ⟨.inl ⟨hnone, congrArg Prod.fst hconnect, rfl⟩, ?_, rfl⟩
    rw [SortedMap.erase_of_absent hnone]
    rfl
  · rw [hch]
    simp only [Network.recorded_send]
    cases hsend : net.send id frame w with
    | mk r w' =>
      have hr : (net.send id frame w).1 = r := congrArg Prod.fst hsend
      rcases r with e | d
      · refine .inl ⟨e, rfl, ?_⟩
        simp only [gaveUp, evict, SortedMap.get?_insert, Std.compare_self, if_true]
        refine ⟨.inr ⟨w, hlinked, hr, rfl⟩, ?_, rfl⟩
        simp only [setMaster, SortedMap.erase_insert]
      · refine .inr ⟨_, rfl, ⟨w, d, hlinked, hr, rfl, rfl⟩, ?_, rfl⟩
        simp only [setChannel, SortedMap.insert_insert]

theorem failed_of_error {e : Fault} (h : (s.attempt net.recorded id l frame).1 = .error e) :
    Failed net id l frame s e ((s.attempt net.recorded id l frame).2.gaveUp net.recorded id) := by
  rcases attempt_done net id l frame s with ⟨e', he, hfailed⟩ | ⟨ch, hch, -⟩
  · cases he.symm.trans h
    exact hfailed
  · cases hch.symm.trans h

theorem sent_of_ok {ch : Stream} (h : (s.attempt net.recorded id l frame).1 = .ok ch) :
    Sent net id l frame s ch (s.attempt net.recorded id l frame).2 := by
  rcases attempt_done net id l frame s with ⟨e, he, -⟩ | ⟨ch', hch, hsent⟩
  · cases he.symm.trans h
  · cases hch.symm.trans h
    exact hsent

end

/-! ## One attempt after another -/

section

variable (net : Network W) (id : NodeId) (l : Location) (frame : Bytes) (s : Scene W)

/-- the scene after i attempts, if they failed -/
def attemptStart : Nat → Scene W
  | 0 => s
  | i + 1 => (((attemptStart i).waited i).attempt net id l frame).2.gaveUp net id

/-- what attempt i comes to, counted from zero, if those before it failed -/
def attemptEnd (i : Nat) : Except Fault Stream × Scene W :=
  ((s.attemptStart net id l frame i).waited i).attempt net id l frame

/-- the first f attempts fail -/
def FailsFirst (f : Nat) : Prop := ∀ i < f, ∃ e, (s.attemptEnd net id l frame i).1 = .error e

end

section

variable {net : Network W} {id : NodeId} {l : Location} {frame : Bytes} {s : Scene W}

theorem FailsFirst.succ {i : Nat} (h : s.FailsFirst net id l frame i) {e : Fault}
    (he : (s.attemptEnd net id l frame i).1 = .error e) : s.FailsFirst net id l frame (i + 1) :=
  Nat.forall_lt_succ_right.2 ⟨h, e, he⟩

/-- nothing more is sent after an attempt that succeeds -/
theorem attempts_of_ok {ch : Stream} {more i : Nat} (h : ((s.waited i).attempt net id l frame).1 = .ok ch) :
    s.attempts net id l frame more i = (.ok ch, ((s.waited i).attempt net id l frame).2) := by
  rw [attempts_eq]
  generalize (s.waited i).attempt net id l frame = x at h ⊢
  rcases x with ⟨r, s₁⟩
  obtain rfl : r = .ok ch := h
  rfl

theorem attempts_of_error {e : Fault} {i : Nat} (h : ((s.waited i).attempt net id l frame).1 = .error e) (more : Nat) :
    s.attempts net id l frame more i =
      match more with
      | 0 => (.error e, ((s.waited i).attempt net id l frame).2.gaveUp net id)
      | more + 1 => (((s.waited i).attempt net id l frame).2.gaveUp net id).attempts net id l frame more (i + 1) := by
  rw [attempts_eq]
  generalize (s.waited i).attempt net id l frame = x at h ⊢
  rcases x with ⟨r, s₁⟩
  obtain rfl : r = .error e := h
  rfl

/-- attempts are made until one succeeds, or as many as may be -/
theorem attempts_walk (more : Nat) {i : Nat} (h : s.FailsFirst net id l frame i) :
    let made := (s.attemptStart net id l frame i).attempts net id l frame more i
    (∃ f ≤ i + more, s.FailsFirst net id l frame f ∧ ∃ ch, (s.attemptEnd net id l frame f).1 = .ok ch ∧
        made = (.ok ch, (s.attemptEnd net id l frame f).2)) ∨
      s.FailsFirst net id l frame (i + more + 1) ∧ ∃ e, (s.attemptEnd net id l frame (i + more)).1 = .error e ∧
        made = (.error e, s.attemptStart net id l frame (i + more + 1)) := by
  induction more generalizing i with
  | zero =>
    cases hend : (s.attemptEnd net id l frame i).1 with
    | ok ch => exact .inl ⟨i, Nat.le_refl i, h, ch, hend, attempts_of_ok hend⟩
    | error e => exact .inr ⟨h.succ hend, e, rfl, attempts_of_error hend 0⟩
  | succ more ih =>
    cases hend : (s.attemptEnd net id l frame i).1 with
    | ok ch => exact .inl ⟨i, Nat.le_add_right _ _, h, ch, hend, attempts_of_ok hend⟩
    | error e =>
      intro made
      have hmade : made = (s.attemptStart net id l frame (i + 1)).attempts net id l frame more (i + 1) :=
        attempts_of_error hend (more + 1)
      have hrest := ih (h.succ hend)
      rw [← hmade, Nat.add_right_comm i 1 more] at hrest
      exact hrest

end

/-! ## What a request leaves alone -/

section

variable {net : Network W} {id : NodeId} {l : Location} {frame : Bytes} {s s' s'' : Scene W}

/-- the settings, the choice of dirty reads and the channels to other nodes stay -/
structure Beside (id : NodeId) (s s' : Scene W) : Prop where
  config : s'.client.config = s.client.config
  dirtyReads : s'.client.dirtyReads = s.client.dirtyReads
  dirtyNode : s'.client.dirtyNode = s.client.dirtyNode
  others : ∀ k, k ≠ id → s'.client.channels.get? k = s.client.channels.get? k

theorem Beside.refl (id : NodeId) (s : Scene W) : Beside id s s := ⟨rfl, rfl, rfl, fun _ _ => rfl⟩

theorem Beside.trans (h : Beside id s s') (h' : Beside id s' s'') : Beside id s s'' :=
  ⟨h'.config.trans h.config, h'.dirtyReads.trans h.dirtyReads, h'.dirtyNode.trans h.dirtyNode,
    fun k hk => (h'.others k hk).trans (h.others k hk)⟩

theorem beside_setChannel (id : NodeId) (ch : Stream) (s : Scene W) : Beside id s (s.setChannel id ch) := by
  refine ⟨rfl, rfl, rfl, ?_⟩
  intro k hk
  rw [setChannel, SortedMap.get?_insert, if_neg (by rwa [Std.compare_eq_iff_eq])]

theorem beside_gaveUp (net : Network W) (id : NodeId) (s : Scene W) : Beside id s (s.gaveUp net id) := by
  rw [gaveUp, evict]
  split
  · exact ⟨rfl, rfl, rfl, fun _ _ => rfl⟩
  · refine ⟨rfl, rfl, rfl, ?_⟩
    intro k hk
    simp only [setMaster, SortedMap.get?_erase, Std.compare_eq_iff_eq, if_neg hk]

theorem beside_waited (id : NodeId) (i : Nat) (s : Scene W) : Beside id s (s.waited i) := by
  obtain ⟨draws, clock, hw⟩ := waited_eq i s
  rw [hw]
  exact ⟨rfl, rfl, rfl, fun _ _ => rfl⟩

theorem beside_attempt (net : Network W) (id : NodeId) (l : Location) (frame : Bytes) (s : Scene W) :
    Beside id s (s.attempt net id l frame).2 :=
  attempt_keeps (.refl id) (fun _ _ _ => .trans) (fun _ => ⟨rfl, rfl, rfl, fun _ _ => rfl⟩)
    (fun _ => ⟨rfl, rfl, rfl, fun _ _ => rfl⟩) (fun s ch => beside_setChannel id ch s) s

end

/-! ## The reply -/

section

variable {α : Type} {net : Network W} {id : NodeId} {decode : Decoder α} {ch : Stream} {s : Scene W}

/-- the reply is read and its channel kept, or the channel is given up -/
theorem readReply_done (net : Network W) (id : NodeId) (decode : Decoder α) (ch : Stream) (s : Scene W) :
    let made := s.readReply net id decode ch
    (poisoned made.1 = false ∧ ∃ ch', made.2 = s.setChannel id ch') ∨
      poisoned made.1 = true ∧ made.2 = s.gaveUp net id := by
  unfold readReply
  rcases decode ch with ⟨(r | e) | v, ch'⟩
  · exact .inl ⟨ofRefusal_poisons r, ch', rfl⟩
  · exact .inr ⟨Failure.ofReadFault_poisons id e, rfl⟩
  · exact .inl ⟨rfl, ch', rfl⟩

/-- a channel that was given up is no longer in the table -/
theorem channels_gaveUp (net : Network W) (id : NodeId) (s : Scene W) :
    (s.gaveUp net id).client.channels.get? id = none := by
  rw [gaveUp, evict]
  cases h : s.client.channels.get? id with
  | none => exact h
  | some ch => simp only [setMaster, SortedMap.get?_erase, Std.compare_self, if_true]

/-- what reading a reply does and leaves -/
structure Read (id : NodeId) (s : Scene (Recorded W)) (made : Except Failure α × Scene (Recorded W)) : Prop where
  done : made.2.net.log = if poisoned made.1 then .closed id :: s.net.log else s.net.log
  channel : (made.2.client.channels.get? id).isSome = true ↔ poisoned made.1 = false
  master : made.2.client.master = if poisoned made.1 then none else s.client.master
  clock : made.2.clock = s.clock

/-- the channel is closed, once, if the reply on it cannot be read -/
theorem read_readReply {net : Network W} {s : Scene (Recorded W)} (hch : s.client.channels.get? id = some ch) :
    Read id s (s.readReply net.recorded id decode ch) := by
  rcases readReply_done net.recorded id decode ch s with ⟨hp, ch', hr⟩ | ⟨hp, hr⟩
  · refine ⟨?_, ?_, ?_, ?_⟩
    · rw [hp, hr]
      rfl
    · rw [hp, hr]
      simp only [setChannel, SortedMap.get?_insert, Std.compare_self, if_true, Option.isSome_some]
    · rw [hp, hr]
      rfl
    · rw [hr]
      rfl
  · refine ⟨?_, ?_, ?_, ?_⟩
    · rw [hp, hr]
      simp only [gaveUp, evict, hch]
      rfl
    · rw [hp, hr, channels_gaveUp]
      simp only [Option.isSome_none, Bool.false_eq_true, Bool.true_eq_false]
    · rw [hp, hr]
      rfl
    · rw [hr, clock_gaveUp]

end

/-! ## A whole request -/

theorem beside_attemptStart (net : Network W) (id : NodeId) (l : Location) (frame : Bytes) (s : Scene W) (i : Nat) :
    Beside id s (s.attemptStart net id l frame i) := by
  induction i with
  | zero => exact .refl id s
  | succ i ih =>
    exact ((ih.trans (beside_waited id i _)).trans (beside_attempt net id l frame _)).trans (beside_gaveUp net id _)

/-- a failed attempt leaves no channel to the node, and no master -/
theorem attemptStart_bare (net : Network W) (id : NodeId) (l : Location) (frame : Bytes) (s : Scene W) (i : Nat)
    (hi : 0 < i) : (s.attemptStart net id l frame i).client.channels.get? id = none ∧
      (s.attemptStart net id l frame i).client.master = none := by
  cases i with
  | zero => cases hi
  | succ i => exact ⟨channels_gaveUp _ _ _, rfl⟩

/-- what a request to a node leaves alone, whatever comes of it -/
theorem beside_dispatch (net : Network W) (id : NodeId) (l : Location) (frame : Bytes) {α : Type} (decode : Decoder α)
    (s : Scene W) : Beside id s (s.dispatch net id l frame decode).2 := by
  refine dispatch_keeps (R := Beside id) (fun _ _ _ => .trans) (beside_waited id) (beside_attempt net id l frame)
    (beside_gaveUp net id) ?_ s
  intro s ch s' _
  exact readReply_keeps (fun s ch => beside_setChannel id ch s) (beside_gaveUp net id) decode ch s'

/-- a request is sent by the first attempt that succeeds, and its reply is read; or every attempt fails -/
theorem dispatch_walk (net : Network W) (id : NodeId) (l : Location) (frame : Bytes) {α : Type} (decode : Decoder α)
    (s : Scene W) :
    let most := s.client.config.settings.maxAttempts.toNat
    let made := s.dispatch net id l frame decode
    (∃ f < most, s.FailsFirst net id l frame f ∧ ∃ ch, (s.attemptEnd net id l frame f).1 = .ok ch ∧
        made = (s.attemptEnd net id l frame f).2.readReply net id decode ch) ∨
      0 < most ∧ s.FailsFirst net id l frame most ∧ ∃ e, (s.attemptEnd net id l frame (most - 1)).1 = .error e ∧
        made = (.error (.transport id e), s.attemptStart net id l frame most) := by
  intro most made
  have hpos : 0 < most := by
    rw [Nat.pos_iff_ne_zero]
    intro h0
    exact s.client.config.maxAttempts_ne_zero (UInt32.toNat_inj.1 h0)
  have hnone : s.FailsFirst net id l frame 0 := fun _ h => nomatch h
  have hmade : made = _ := dispatch_eq net id l frame decode s
  have hwalk := attempts_walk (most - 1) hnone
  rw [Nat.zero_add, Nat.sub_add_cancel hpos] at hwalk
  rcases hwalk with ⟨f, hf, hfails, ch, hch, hsent⟩ | ⟨hfails, e, he, hfailed⟩
  · refine .inl ⟨f, by omega, hfails, ch, hch, ?_⟩
    change s.attempts net id l frame (most - 1) 0 = _ at hsent
    rw [hmade, hsent]
  · refine .inr ⟨hpos, hfails, e, he, ?_⟩
    change s.attempts net id l frame (most - 1) 0 = _ at hfailed
    rw [hmade, hfailed]

/-- **The attempts of a request.** On any network, in any state, a client puts a frame to a node. It may make a number
of attempts, at least one, and the first f of them fail. If these are all, then the result is the fault of the last one.
If not, exactly one more is made: it succeeds, and the decoder, whatever it reads and makes of it, is run once, on the
channel on which the frame was just sent. What each attempt does and leaves is that of `Failed` and of `Sent`, and the
pauses are those of `Paused`; only the first attempt can find a channel. A channel whose reply cannot be read is closed.
In the end there is a channel to the node if and only if the outcome does not poison it; the master stays if no attempt
failed and the outcome does not poison the channel, and is forgotten otherwise; nothing else that a client knows has
changed. -/
theorem dispatch_attempts (net : Network W) (id : NodeId) (l : Location) (frame : Bytes) {α : Type} (decode : Decoder α)
    (s : Scene (Recorded W)) :
    let most := s.client.config.settings.maxAttempts.toNat
    let scale := s.client.config.settings.backoffScale
    let made := s.dispatch net.recorded id l frame decode
    0 < most ∧ ∃ f ≤ most, ∃ before : Nat → Scene (Recorded W), before 0 = s ∧
      (∀ i < f, ∃ s₁ e, Paused scale i (before i) s₁ ∧ Failed net id l frame s₁ e (before (i + 1)) ∧
        (i + 1 = most → made = (.error (.transport id e), before most))) ∧
      (∀ i ≤ f, 0 < i → (before i).client.channels.get? id = none ∧ (before i).client.master = none) ∧
      (f < most → ∃ s₁ ch s₂, Paused scale f (before f) s₁ ∧ Sent net id l frame s₁ ch s₂ ∧
        made = s₂.readReply net.recorded id decode ch ∧ made.2.clock = s₂.clock ∧
        made.2.net.log = if poisoned made.1 then .closed id :: s₂.net.log else s₂.net.log) ∧
      ((made.2.client.channels.get? id).isSome = true ↔ poisoned made.1 = false) ∧
      made.2.client.master = (if f = 0 ∧ poisoned made.1 = false then s.client.master else none) ∧
      Beside id s made.2 := by
  intro most scale made
  have hbeside : Beside id s made.2 := beside_dispatch net.recorded id l frame decode s
  set before := s.attemptStart net.recorded id l frame
  have hscale : ∀ i, (before i).client.config.settings.backoffScale = scale := fun i =>
    congrArg (fun c => c.settings.backoffScale) (beside_attemptStart net.recorded id l frame s i).config
  have hpaused : ∀ i, Paused scale i (before i) ((before i).waited i) := fun i => hscale i ▸ paused_waited i (before i)
  have hbare := attemptStart_bare net.recorded id l frame s
  rcases dispatch_walk net.recorded id l frame decode s with
    ⟨f, hf, hfails, ch, hch, hmade⟩ | ⟨hpos, hfails, e, he, hmade⟩
  · have hsent : Sent net id l frame ((before f).waited f) ch (s.attemptEnd net.recorded id l frame f).2 :=
      sent_of_ok hch
    change made = _ at hmade
    set s₂ := (s.attemptEnd net.recorded id l frame f).2
    have hstored : s₂.client.channels.get? id = some ch := by
      rw [hsent.client]
      simp only [SortedMap.get?_insert, Std.compare_self, if_true]
    have hread : Read id s₂ made := hmade ▸ read_readReply hstored
    have hmaster : s₂.client.master = if f = 0 then s.client.master else none := by
      obtain ⟨draws, clock, hw⟩ := waited_eq f (before f)
      rw [hsent.client, hw]
      cases f <;> rfl
    refine ⟨Nat.zero_lt_of_lt hf, f, Nat.le_of_lt hf, before, rfl, ?_, fun i _ => hbare i, ?_, hread.channel, ?_,
      hbeside⟩
    · intro i hi
      obtain ⟨e, he⟩ := hfails i hi
      exact ⟨_, e, hpaused i, failed_of_error he, fun hlast => by omega⟩
    · exact fun _ => ⟨_, ch, s₂, hpaused f, hsent, hmade, hread.clock, hread.done⟩
    · rw [hread.master, hmaster]
      cases poisoned made.1 <;> simp
  · change made = _ at hmade
    obtain ⟨habsent, hforgot⟩ := hbare most hpos
    refine ⟨hpos, most, Nat.le_refl _, before, rfl, ?_, fun i _ => hbare i, fun h => absurd h (Nat.lt_irrefl _), ?_, ?_,
      hbeside⟩
    · intro i hi
      obtain ⟨e', he'⟩ := hfails i hi
      refine ⟨_, e', hpaused i, failed_of_error he', ?_⟩
      intro hlast
      obtain rfl : i = most - 1 := by omega
      cases he'.symm.trans he
      exact hmade
    · have hp : poisoned made.1 = true := by
        rw [hmade]
        rfl
      rw [hp, hmade, habsent]
      simp only [Option.isSome_none, Bool.false_eq_true, Bool.true_eq_false]
    · rw [hmade, hforgot, if_neg fun h => Nat.ne_of_gt hpos h.1]

end Scene

end ReplicaKV
