/-
What the log of a network tells about the connections and the replies of a client, on every network.

- `openTo id log`: a connection to the node was made, and not closed since. `Tabled s`: the channels that a client holds
  are its open connections, no fewer and no more.
- `heard`: what a client makes of a delivery that it reads by itself.
- `Notice.Follows net n log`: a request ended as what was done last says. It failed with the fault of its connection or
  its send; or it was sent, and ended in what the client heard in the delivery for that very send.
- `exchange_trace`: a request to a node of the client's is noted once. Where nothing is left to read before it, it ends
  as what was done last says.
- `tabled_blind`: channels are open connections across every call. `InStep net log`: every request in the log ended as
  what was done before it says.
-/
import ReplicaKV.Proofs.Network.Record

namespace ReplicaKV

variable {W : Type}

/-- the note of how a request ended, if the deed is one -/
def Deed.notice? : Deed W → Option Notice
  | ended n => some n
  | connected _ _ _ | sent _ _ _ _ | closed _ => none

/-- is a connection to the node open, once all this was done? -/
def openTo (id : NodeId) : List (Deed W) → Bool
  | [] => false
  | .connected k _ (.ok ()) :: earlier => k = id || openTo id earlier
  | .closed k :: earlier => k ≠ id && openTo id earlier
  | .connected _ _ (.error _) :: earlier | .sent _ _ _ _ :: earlier | .ended _ :: earlier => openTo id earlier

/-- what a client makes of a delivery of node id that it reads by itself -/
def heard (id : NodeId) (shape : Shape) (d : Delivery) : Except Failure shape.Value :=
  match Reply.decode shape (Frame.start ⟨d.bytes, 0, d.ending⟩) with
  | .ok (.ok v) _ => .ok v
  | .ok (.error refusal) _ => .error (.ofRefusal refusal)
  | .error e _ => .error (.ofReadFault id e)

/-- a request ended as what was done last says -/
inductive Notice.Follows (net : Network W) (n : Notice) : List (Deed W) → Prop
  /-- there was no connection -/
  | unconnected {e : Fault} {clusterId : String} {earlier : List (Deed W)}
    (failed : n.outcome = .error (.transport n.node e)) : Follows net n (.connected n.node clusterId (.error e) :: earlier)
  /-- the frame could not be sent -/
  | unsent {e : Fault} {before : W} {earlier : List (Deed W)} (sent : (net.send n.node n.frame before).1 = .error e)
    (failed : n.outcome = .error (.transport n.node e)) :
    Follows net n (.closed n.node :: .sent n.node n.frame before (.error e) :: earlier)
  /-- the frame was sent, and what was delivered for it was read -/
  | answered {d : Delivery} {before : W} {earlier : List (Deed W)} (sent : (net.send n.node n.frame before).1 = .ok d)
    (told : n.outcome = heard n.node n.shape d) :
    Follows net n (.sent n.node n.frame before (.ok d) :: earlier)
  /-- the frame was sent, and what was delivered for it could not be read -/
  | unreadable {d : Delivery} {before : W} {earlier : List (Deed W)}
    (sent : (net.send n.node n.frame before).1 = .ok d) (told : n.outcome = heard n.node n.shape d) :
    Follows net n (.closed n.node :: .sent n.node n.frame before (.ok d) :: earlier)

/-- every request in the log ended as what was done before it says -/
def InStep (net : Network W) (log : List (Deed W)) : Prop :=
  ∀ later n earlier, log = later ++ .ended n :: earlier → n.Follows net earlier

section

variable {net : Network W} {log : List (Deed W)}

theorem inStep_nil (net : Network W) : InStep net ([] : List (Deed W)) := fun later n earlier h => by simp at h

/-- deeds that are no notes keep a log in step -/
theorem InStep.append (h : InStep net log) {new : List (Deed W)} (hnew : ∀ d ∈ new, d.notice? = none) :
    InStep net (new ++ log) := by
  induction new with
  | nil => exact h
  | cons d new ih =>
    intro later n earlier he
    cases later with
    | nil =>
      have hd : d = .ended n := (List.cons.inj he).1
      have := hnew d List.mem_cons_self
      rw [hd] at this
      cases this
    | cons x later => exact ih (fun d hd => hnew d (List.mem_cons_of_mem _ hd)) later n earlier (List.cons.inj he).2

theorem InStep.ended (h : InStep net log) {n : Notice} (hn : n.Follows net log) : InStep net (.ended n :: log) := by
  intro later m earlier he
  cases later with
  | nil =>
    obtain ⟨hd, rfl⟩ := List.cons.inj he
    cases hd
    exact hn
  | cons x later => exact h later m earlier (List.cons.inj he).2

end

namespace Scene

variable {net : Network W} {s s' s'' : Scene (Recorded W)} {id : NodeId} {l : Location} {frame : Bytes} {shape : Shape}

/-- the channels that a client holds are its open connections -/
def Tabled (s : Scene (Recorded W)) : Prop :=
  ∀ id, (s.client.channels.get? id).isSome = openTo id s.net.log

/-! ## Steps without a note -/

/-- no request has ended; channels are open connections, and empty, if they were -/
structure Silent (s s' : Scene (Recorded W)) : Prop where
  log : ∃ new, s'.net.log = new ++ s.net.log ∧ ∀ d ∈ new, d.notice? = none
  tabled : s.Tabled → s'.Tabled
  clean : s.Clean → s'.Clean

theorem Silent.refl (s : Scene (Recorded W)) : Silent s s := ⟨Adds.refl s, (·), (·)⟩

theorem Silent.trans (h : Silent s s') (h' : Silent s' s'') : Silent s s'' :=
  ⟨Adds.trans h.log h'.log, fun ht => h'.tabled (h.tabled ht), fun hc => h'.clean (h.clean hc)⟩

theorem Silent.inStep (h : Silent s s') (hs : InStep net s.net.log) : InStep net s'.net.log := by
  obtain ⟨new, hl, hn⟩ := h.log
  rw [hl]
  exact hs.append hn

/-- what does not touch channels and log is silent -/
theorem silent_aside {c : Client} {k : Clock} (hc : c.channels = s.client.channels) : Silent s ⟨c, k, s.net⟩ :=
  ⟨Adds.nothing rfl, fun ht id => (congrArg (fun m => (m.get? id).isSome) hc).trans (ht id),
    fun h id ch hid => h id ch (hc ▸ hid)⟩

/-- a deed that is no note and touches no connection -/
theorem silent_add {d : Deed W} (hd : d.notice? = none) (hopen : ∀ k log, openTo k (d :: log) = openTo k log) (w : W) :
    Silent s { s with net := s.net.add d w } :=
  ⟨Adds.one rfl hd, fun ht k => (ht k).trans (hopen k _).symm, (·)⟩

theorem silent_waited (i : Nat) (s : Scene (Recorded W)) : Silent s (s.waited i) := by
  obtain ⟨draws, clock, h⟩ := waited_eq i s
  rw [h]
  exact silent_aside rfl

theorem tabled_evict (net : Network W) (id : NodeId) (h : s.Tabled) : (s.evict net.recorded id).Tabled := by
  unfold evict
  cases s.client.channels.get? id with
  | none => exact h
  | some ch =>
    intro k
    simp only [SortedMap.get?_erase, Std.compare_eq_iff_eq, Network.recorded_close, Recorded.add, openTo]
    by_cases hk : k = id
    · simp [hk]
    · simpa [hk, Ne.symm hk] using h k

theorem silent_evict (net : Network W) (id : NodeId) (s : Scene (Recorded W)) : Silent s (s.evict net.recorded id) := by
  refine ⟨?_, tabled_evict net id, fun h => h.evict net.recorded id⟩
  unfold evict
  cases s.client.channels.get? id with
  | none => exact Adds.refl s
  | some ch => exact Adds.one rfl rfl

theorem silent_gaveUp (net : Network W) (id : NodeId) (s : Scene (Recorded W)) :
    Silent s (s.gaveUp net.recorded id) :=
  (silent_evict net id s).trans (silent_aside rfl)

/-- a node to which there is a channel is open to a client that holds its open connections -/
theorem Tabled.stored (h : s.Tabled) {ch ch' : Stream} (hch : s.client.channels.get? id = some ch) :
    (s.setChannel id ch').Tabled := by
  intro k
  simp only [setChannel, SortedMap.get?_insert, Std.compare_eq_iff_eq]
  by_cases hk : k = id
  · have := h id
    rw [hch] at this
    rw [if_pos hk, hk]
    exact this
  · rw [if_neg hk]
    exact h k

/-! ## Attempts -/

/-- there is no channel and none is made, or there is one -/
theorem channel_trace (net : Network W) (id : NodeId) (l : Location) (s : Scene (Recorded W)) :
    (s.client.channels.get? id = none ∧ ∃ e w, s.channel net.recorded id l =
        (.error e, { s with net := s.net.add (.connected id s.client.config.clusterId (.error e)) w })) ∨
      ∃ ch s', s.channel net.recorded id l = (.ok ch, s') ∧ Silent s s' ∧ s'.client.channels.get? id = some ch := by
  unfold channel
  cases hch : s.client.channels.get? id with
  | some ch => exact .inr ⟨ch, s, rfl, .refl s, hch⟩
  | none =>
    simp only [Network.recorded_connect]
    rcases net.connect id l s.client.config.clusterId s.net.world with ⟨e | u, w⟩
    · exact .inl ⟨trivial, e, w, rfl⟩
    · refine .inr ⟨_, _, rfl, ⟨Adds.one rfl rfl, ?_, ?_⟩, ?_⟩
      · intro h k
        simp only [setChannel, SortedMap.get?_insert, Std.compare_eq_iff_eq, Recorded.add, openTo]
        by_cases hk : k = id
        · simp [hk]
        · simpa [hk, Ne.symm hk] using h k
      · intro h
        exact Clean.setChannel (s := { s with net := _ }) h id rfl
      · simp only [setChannel, SortedMap.get?_insert, Std.compare_self, if_true]

/-- an attempt fails, and so would the request if it were the last; or the frame is sent, and what is delivered for it is
on the channel -/
theorem attempt_trace (net : Network W) (id : NodeId) (l : Location) (frame : Bytes) (s : Scene (Recorded W)) :
    (∃ e s', s.attempt net.recorded id l frame = (.error e, s') ∧ Silent s (s'.gaveUp net.recorded id) ∧
        ∀ shape, Notice.Follows net ⟨id, frame, shape, .error (.transport id e)⟩ (s'.gaveUp net.recorded id).net.log) ∨
      ∃ s₁ ch d w, Silent s s₁ ∧ s₁.client.channels.get? id = some ch ∧ net.send id frame s₁.net.world = (.ok d, w) ∧
        s.attempt net.recorded id l frame = (.ok (ch.deliver d.bytes d.ending),
          { s₁ with net := s₁.net.add (.sent id frame s₁.net.world (.ok d)) w }.setChannel id
            (ch.deliver d.bytes d.ending)) := by
  unfold attempt
  rcases channel_trace net id l s with ⟨hnone, e, w, hch⟩ | ⟨ch, s₁, hch, hs, hmem⟩
  · -- no connection: nothing is there to close
    rw [hch]
    refine .inl ⟨e, _, rfl, ?_, ?_⟩
    · exact (silent_add rfl (fun _ _ => rfl) w).trans (silent_gaveUp net id _)
    · intro shape
      simp only [gaveUp, evict, hnone]
      exact .unconnected rfl
  · rw [hch]
    simp only [Network.recorded_send]
    cases hsend : net.send id frame s₁.net.world with
    | mk r w =>
      cases r with
      | error e =>
        refine .inl ⟨e, _, rfl, (hs.trans (silent_add rfl (fun _ _ => rfl) w)).trans (silent_gaveUp net id _), ?_⟩
        intro shape
        simp only [gaveUp, evict, hmem]
        exact .unsent (congrArg Prod.fst hsend) rfl
      | ok d => exact .inr ⟨s₁, ch, d, w, hs, hmem, hsend, rfl⟩

/-! ## Requests -/

/-- what a request to node id leaves in the log before it is noted; nothing is noted meanwhile, and it ended as what was
done last says, if nothing was left to read before it -/
structure Traced (net : Network W) (id : NodeId) (frame : Bytes) (shape : Shape) (s : Scene (Recorded W))
    (x : Except Failure shape.Value × Scene (Recorded W)) : Prop where
  log : ∃ new, x.2.net.log = new ++ s.net.log ∧ ∀ d ∈ new, d.notice? = none
  tabled : s.Tabled → x.2.Tabled
  follows : s.Clean → Notice.Follows net ⟨id, frame, shape, x.1⟩ x.2.net.log

/-- a client that reads a delivery by itself makes of it what it hears -/
theorem readReply_heard {W : Type} (net : Network W) (id : NodeId) (shape : Shape) (d : Delivery) (s : Scene W) :
    (s.readReply net id (Reply.decoder shape) ⟨d.bytes, 0, d.ending⟩).1 = heard id shape d := by
  unfold readReply heard Reply.decoder
  rcases Reply.decode shape (Frame.start ⟨d.bytes, 0, d.ending⟩) with ⟨r | v, r'⟩ | ⟨e, r'⟩ <;> rfl

/-- the reply is read where it stands, or the channel is closed -/
theorem readReply_trace {W : Type} (net : Network W) (id : NodeId) {α : Type} (decode : Decoder α) (ch : Stream)
    (s : Scene W) :
    (∃ ch', (s.readReply net id decode ch).2 = s.setChannel id ch') ∨
      (s.readReply net id decode ch).2 = s.gaveUp net id := by
  unfold readReply
  rcases decode ch with ⟨(r | e) | v, ch'⟩
  · exact .inl ⟨_, rfl⟩
  · exact .inr rfl
  · exact .inl ⟨_, rfl⟩

/-- a frame was sent, and what was delivered for it is on the channel: then it is read -/
theorem answered_trace {s₁ : Scene (Recorded W)} {ch : Stream} {d : Delivery} {w : W} (hs : Silent s s₁)
    (hmem : s₁.client.channels.get? id = some ch) (hsend : net.send id frame s₁.net.world = (.ok d, w)) (shape : Shape) :
    Traced net id frame shape s
      (({ s₁ with net := s₁.net.add (.sent id frame s₁.net.world (.ok d)) w }.setChannel id
        (ch.deliver d.bytes d.ending)).readReply net.recorded id (Reply.decoder shape) (ch.deliver d.bytes d.ending)) := by
  -- the scene after the send, but for the channel
  set s₂ : Scene (Recorded W) := { s₁ with net := s₁.net.add (.sent id frame s₁.net.world (.ok d)) w }
  set ch₂ := ch.deliver d.bytes d.ending with hch₂
  have hsent : Silent s s₂ := hs.trans (silent_add rfl (fun _ _ => rfl) w)
  have hmem₂ : s₂.client.channels.get? id = some ch := hmem
  have hmem₃ : (s₂.setChannel id ch₂).client.channels.get? id = some ch₂ := by
    simp only [setChannel, SortedMap.get?_insert, Std.compare_self, if_true]
  have hdelivered : (net.send id frame s₁.net.world).1 = .ok d := congrArg Prod.fst hsend
  have htold : s.Clean →
      ((s₂.setChannel id ch₂).readReply net.recorded id (Reply.decoder shape) ch₂).1 = heard id shape d := by
    intro hclean
    rw [hch₂, Stream.deliver, if_pos (hsent.clean hclean id ch hmem₂)]
    exact readReply_heard _ id shape d _
  rcases readReply_trace net.recorded id (Reply.decoder shape) ch₂ (s₂.setChannel id ch₂) with ⟨ch', hr⟩ | hr
  · refine ⟨?_, ?_, ?_⟩
    · rw [hr]
      exact hsent.log
    · intro ht
      rw [hr]
      exact ((hsent.tabled ht).stored hmem₂).stored hmem₃
    · intro hclean
      rw [hr]
      exact .answered hdelivered (htold hclean)
  · have hlog : ((s₂.setChannel id ch₂).gaveUp net.recorded id).net.log =
        .closed id :: .sent id frame s₁.net.world (.ok d) :: s₁.net.log := by
      simp only [gaveUp, evict, hmem₃]
      rfl
    refine ⟨?_, ?_, ?_⟩
    · have hclosed : Adds (fun d : Deed W => d.notice? = none) s₂ ((s₂.setChannel id ch₂).gaveUp net.recorded id) :=
        .one hlog rfl
      rw [hr]
      exact Adds.trans hsent.log hclosed
    · intro ht
      rw [hr]
      exact (silent_gaveUp net id _).tabled ((hsent.tabled ht).stored hmem₂)
    · intro hclean
      rw [hr, hlog]
      exact .unreadable hdelivered (htold hclean)

theorem dispatch_trace (net : Network W) (id : NodeId) (l : Location) (frame : Bytes) (shape : Shape)
    (s : Scene (Recorded W)) :
    Traced net id frame shape s (s.dispatch net.recorded id l frame (Reply.decoder shape)) := by
  have hfail : ∀ (s : Scene (Recorded W)) e s', s.attempt net.recorded id l frame = (.error e, s') →
      Silent s (s'.gaveUp net.recorded id) := by
    intro s e s' h
    rcases attempt_trace net id l frame s with ⟨e', s'', h', hs, -⟩ | ⟨s₁, ch, d, w, -, -, -, h'⟩
    · rw [h] at h'
      cases h'
      exact hs
    · rw [h] at h'
      cases h'
  rw [dispatch_eq]
  rcases attempts_last (R := Silent) (fun _ _ _ => .trans) silent_waited hfail
    (s.client.config.settings.maxAttempts.toNat - 1) 0 s with ⟨s₁, e, s₂, hs, ha, h⟩ | ⟨s₁, ch, s₂, hs, ha, h⟩
  · rw [h]
    rcases attempt_trace net id l frame s₁ with ⟨e', s'', h', hs', hfollows⟩ | ⟨s₃, ch, d, w, -, -, -, h'⟩
    · rw [ha] at h'
      cases h'
      have hall := hs.trans hs'
      exact ⟨hall.log, hall.tabled, fun _ => hfollows shape⟩
    · rw [ha] at h'
      cases h'
  · rw [h]
    rcases attempt_trace net id l frame s₁ with ⟨e', s'', h', -, -⟩ | ⟨s₃, ch₃, d, w, hs', hmem, hsend, h'⟩
    · rw [ha] at h'
      cases h'
    · rw [ha] at h'
      cases h'
      exact answered_trace (hs.trans hs') hmem hsend shape

/-- a request to a node of the client's is noted once; nothing else is -/
theorem exchange_trace (net : Network W) (id : NodeId) (frame : Bytes) (shape : Shape) (s : Scene (Recorded W)) :
    (s.exchange net.recorded id frame shape = (.error (.unknownNode id), s) ∧ id ∉ s.client.config.nodeIds) ∨
      id ∈ s.client.config.nodeIds ∧ ∃ s₁ w,
        Traced net id frame shape s ((s.exchange net.recorded id frame shape).1, s₁) ∧
        (s.exchange net.recorded id frame shape).2 =
          { s₁ with net := s₁.net.add (.ended ⟨id, frame, shape, (s.exchange net.recorded id frame shape).1⟩) w } := by
  cases hl : s.client.config.location? id with
  | none =>
    refine .inl ⟨exchange_of_unknown hl frame shape, ?_⟩
    intro hid
    obtain ⟨l, hl'⟩ := Config.location_of_mem_nodeIds hid
    rw [hl] at hl'
    cases hl'
  | some l =>
    refine .inr ⟨Config.mem_nodeIds_of_location hl, ?_⟩
    rw [exchange_of_location hl]
    exact ⟨_, _, dispatch_trace net id l frame shape s, rfl⟩

theorem inStep_exchange (hclean : s.Clean)
    (h : InStep net s.net.log) (id : NodeId) (frame : Bytes) (shape : Shape) :
    InStep net (s.exchange net.recorded id frame shape).2.net.log := by
  rcases exchange_trace net id frame shape s with ⟨he, -⟩ | ⟨-, s₁, w, ht, he⟩
  · rw [he]
    exact h
  · obtain ⟨new, hl, hn⟩ := ht.log
    have hs₁ : InStep net s₁.net.log := by
      rw [hl]
      exact h.append hn
    rw [he]
    exact hs₁.ended (ht.follows hclean)

/-! ## Channels are open connections -/

theorem openTo_closes (k : NodeId) (ids : List NodeId) (log : List (Deed W)) :
    openTo k ((ids.map .closed).reverse ++ log) = (decide (k ∉ ids) && openTo k log) := by
  rw [← List.map_reverse]
  have hall : ∀ l : List NodeId, openTo k (l.map .closed ++ log) = (decide (k ∉ l) && openTo k log) := by
    intro l
    induction l with
    | nil => simp
    | cons id l ih =>
      simp only [List.map_cons, List.cons_append, openTo, ih, List.mem_cons, not_or]
      by_cases hk : k = id
      · simp [hk]
      · simp [hk, Ne.symm hk]
  rw [hall]
  simp only [List.mem_reverse]

theorem silent_closeAll (net : Network W) (s : Scene (Recorded W)) : Silent s (s.closeAll net.recorded) := by
  have hlog : (s.closeAll net.recorded).net.log = (s.client.connected.map .closed).reverse ++ s.net.log :=
    log_closes net _ _
  refine ⟨adds_closeAll (fun _ => rfl) s, ?_, fun _ => clean_closeAll net.recorded s⟩
  intro ht k
  rw [hlog, openTo_closes, ← ht k]
  have hnone : (s.closeAll net.recorded).client.channels.get? k = none := rfl
  cases hch : s.client.channels.get? k with
  | none => simp [hnone]
  | some ch =>
    have hmem : k ∈ s.client.connected := SortedMap.mem_keys_iff.2 ⟨ch, hch⟩
    simp [hnone, hmem]

theorem tabled_exchange (net : Network W) (id : NodeId) (frame : Bytes) (shape : Shape) (h : s.Tabled) :
    (s.exchange net.recorded id frame shape).2.Tabled := by
  rcases exchange_trace net id frame shape s with ⟨he, -⟩ | ⟨-, s₁, w, ht, he⟩
  · rw [he]
    exact h
  · rw [he]
    exact fun k => ht.tabled h k

/-- every call of a client keeps its channels its open connections -/
theorem tabled_blind (net : Network W) :
    Blind net.recorded (fun _ => True) fun s s' : Scene (Recorded W) => s.Tabled → s'.Tabled where
  refl _ h := h
  trans _ _ _ h h' ht := h' (h ht)
  exchange id r _ _ := tabled_exchange net id r.encode r.shape
  whoMaster := trivial
  closeAll s := (silent_closeAll net s).tabled
  setMaster _ _ := (silent_aside rfl).tabled
  aside _ _ _ := (silent_aside rfl).tabled

theorem tabled_call (net : Network W) (fuel : Nat) (c : Call) (h : s.Tabled) :
    (s.call net.recorded fuel c).2.Tabled :=
  (tabled_blind net).upheld.call fuel c (fun _ _ _ => trivial) (fun _ _ _ => (silent_aside rfl).tabled)
    (fun _ _ _ _ => (silent_aside rfl).tabled) s h

end Scene

end ReplicaKV
