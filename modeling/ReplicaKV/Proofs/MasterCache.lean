/-
A client believes in a master only on that master's own word, and only while nothing has gone wrong since. This holds on
every network, whatever connections and sends lead to and whatever bytes come back.

- `Deed.Fails`: a connection or a send failed, or a reply could not be read. `Deed.Asks`: a node was asked who is
  master.
- `Vouched m log`: the last node that was asked is m, it named itself, and nothing has failed since.
- `Tame`: a step of a client that either forgets the master or keeps it and does nothing but harmless deeds.
- `turns_sound`, `cached_master_vouched`: after any calls, a master that the client believes in is one of its nodes and
  vouched for.
-/
import ReplicaKV.Proofs.Network.Calls
import ReplicaKV.Proofs.Network.Record
import ReplicaKV.Proofs.Request.RoundTrip

namespace ReplicaKV

variable {W : Type}

/-! ## Deeds -/

namespace Deed

/-- a connection or a send failed, or a reply could not be read -/
def Fails : Deed W → Prop
  | connected _ _ r => ∃ e, r = .error e
  | sent _ _ _ r => ∃ e, r = .error e
  | closed _ => False
  | ended n => ∃ f, n.outcome = .error f ∧ f.poisons = true

/-- a node was asked who is master, with any outcome -/
def Asks : Deed W → Prop
  | ended n => n.frame = Request.encode .whoMaster
  | connected _ _ _ | sent _ _ _ _ | closed _ => False

def Harmless (d : Deed W) : Prop := ¬d.Fails ∧ ¬d.Asks

theorem harmless_connected (id : NodeId) (clusterId : String) :
    (connected id clusterId (.ok ()) : Deed W).Harmless := by
  refine ⟨?_, fun h => h⟩
  rintro ⟨e, h⟩
  cases h

theorem harmless_sent (id : NodeId) (frame : Bytes) (before : W) (d : Delivery) :
    (sent id frame before (.ok d)).Harmless := by
  refine ⟨?_, fun h => h⟩
  rintro ⟨e, h⟩
  cases h

theorem harmless_closed (id : NodeId) : (closed id : Deed W).Harmless := ⟨fun h => h, fun h => h⟩

theorem harmless_ended {n : Notice} (hf : n.frame ≠ Request.encode .whoMaster)
    (hp : ∀ f, n.outcome = .error f → f.poisons = false) : (ended n : Deed W).Harmless := by
  refine ⟨?_, hf⟩
  intro h
  obtain ⟨f, ho, hpf⟩ := h
  rw [hp f ho] at hpf
  cases hpf

end Deed

/-- m was the last node to be asked who is master, it named itself, and nothing has failed since -/
def Vouched (m : NodeId) (log : List (Deed W)) : Prop :=
  ∃ later earlier, log = later ++ .ended ⟨m, Request.encode .whoMaster, .optText, .ok (some m)⟩ :: earlier ∧
    ∀ d ∈ later, d.Harmless

theorem Vouched.append {m : NodeId} {log new : List (Deed W)} (h : Vouched m log) (hn : ∀ d ∈ new, d.Harmless) :
    Vouched m (new ++ log) := by
  obtain ⟨later, earlier, rfl, hl⟩ := h
  refine ⟨new ++ later, earlier, (List.append_assoc _ _ _).symm, ?_⟩
  intro d hd
  rcases List.mem_append.1 hd with hd | hd
  · exact hn d hd
  · exact hl d hd

namespace Scene

/-- a master that the client believes in is one of its nodes, and vouched for -/
def Sound (s : Scene (Recorded W)) : Prop :=
  ∀ m, s.client.master = some m → m ∈ s.client.config.nodeIds ∧ Vouched m s.net.log

/-! ## Steps that keep the master or forget it -/

/-- the client forgets the master, or keeps it and does nothing but harmless deeds -/
structure Tame (s s' : Scene (Recorded W)) : Prop where
  config : s'.client.config = s.client.config
  master : s'.client.master = none ∨ s'.client.master = s.client.master ∧
    ∃ new, s'.net.log = new ++ s.net.log ∧ ∀ d ∈ new, d.Harmless

namespace Tame

variable {s s' s'' : Scene (Recorded W)}

theorem lost (hc : s'.client.config = s.client.config) (hm : s'.client.master = none) : Tame s s' := ⟨hc, .inl hm⟩

theorem still (hc : s'.client.config = s.client.config) (hm : s'.client.master = s.client.master)
    (hl : s'.net.log = s.net.log) : Tame s s' :=
  ⟨hc, .inr ⟨hm, Adds.nothing hl⟩⟩

theorem one {d : Deed W} (hc : s'.client.config = s.client.config) (hm : s'.client.master = s.client.master)
    (hl : s'.net.log = d :: s.net.log) (hd : d.Harmless) : Tame s s' :=
  ⟨hc, .inr ⟨hm, Adds.one hl hd⟩⟩

theorem trans (h : Tame s s') (h' : Tame s' s'') : Tame s s'' := by
  refine ⟨h'.config.trans h.config, ?_⟩
  rcases h'.master with hm' | ⟨hm', hadds'⟩
  · exact .inl hm'
  · rcases h.master with hm | ⟨hm, hadds⟩
    · exact .inl (hm'.trans hm)
    · exact .inr ⟨hm'.trans hm, Adds.trans hadds hadds'⟩

theorem sound (h : Tame s s') (hs : s.Sound) : s'.Sound := by
  intro m hm
  rcases h.master with hn | ⟨hsame, new, hl, hd⟩
  · rw [hn] at hm; cases hm
  · obtain ⟨hid, hv⟩ := hs m (hsame ▸ hm)
    exact ⟨h.config ▸ hid, hl ▸ hv.append hd⟩

/-- a master that was unknown stays unknown -/
theorem unknown (h : Tame s s') (hs : s.client.master = none) : s'.client.master = none := by
  rcases h.master with hn | ⟨hsame, -⟩
  · exact hn
  · rw [hsame, hs]

end Tame

variable {net : Network W} {s : Scene (Recorded W)}

theorem tame_waited (i : Nat) (s : Scene (Recorded W)) : Tame s (s.waited i) := by
  obtain ⟨draws, clock, h⟩ := waited_eq i s
  rw [h]
  exact .still rfl rfl rfl

theorem tame_gaveUp (id : NodeId) (s : Scene (Recorded W)) : Tame s (s.gaveUp net.recorded id) :=
  .lost (config_gaveUp _ id s) rfl

/-- an open channel is harmless; a connection that fails changes no belief -/
theorem tame_channel (net : Network W) (id : NodeId) (l : Location) (s : Scene (Recorded W)) :
    (s.channel net.recorded id l).2.client.config = s.client.config ∧
      ∀ ch, (s.channel net.recorded id l).1 = .ok ch → Tame s (s.channel net.recorded id l).2 := by
  unfold channel
  cases s.client.channels.get? id with
  | some ch => exact ⟨rfl, fun _ _ => .still rfl rfl rfl⟩
  | none =>
    simp only [Network.recorded_connect]
    rcases net.connect id l s.client.config.clusterId s.net.world with ⟨e | u, w⟩
    · exact ⟨rfl, fun _ h => nomatch h⟩
    · exact ⟨rfl, fun _ _ => .one rfl rfl rfl (Deed.harmless_connected id _)⟩

theorem tame_attempt (net : Network W) (id : NodeId) (l : Location) (frame : Bytes) (s : Scene (Recorded W)) :
    (s.attempt net.recorded id l frame).2.client.config = s.client.config ∧
      ∀ ch, (s.attempt net.recorded id l frame).1 = .ok ch → Tame s (s.attempt net.recorded id l frame).2 := by
  obtain ⟨hc, ht⟩ := tame_channel net id l s
  unfold attempt
  generalize s.channel net.recorded id l = x at hc ht ⊢
  rcases x with ⟨e | ch, s₁⟩
  · exact ⟨hc, fun _ h => nomatch h⟩
  · simp only [Network.recorded_send]
    rcases net.send id frame s₁.net.world with ⟨e | d, w⟩
    · exact ⟨hc, fun _ h => nomatch h⟩
    · exact ⟨hc, fun _ _ => (ht ch rfl).trans (.one rfl rfl rfl (Deed.harmless_sent id frame _ d))⟩

theorem ofRefusal_poisons (r : Refusal) : (Failure.ofRefusal r).poisons = false := by
  rw [Failure.ofRefusal]; split <;> rfl

/-- a reply that cannot be read forgets the master -/
theorem tame_readReply (net : Network W) (id : NodeId) {α : Type} (decode : Decoder α) (ch : Stream)
    (s : Scene (Recorded W)) :
    Tame s (s.readReply net.recorded id decode ch).2 ∧
      ∀ f, (s.readReply net.recorded id decode ch).1 = .error f → f.poisons = true →
        (s.readReply net.recorded id decode ch).2.client.master = none := by
  unfold readReply
  rcases decode ch with ⟨(r | e) | v, ch'⟩
  · refine ⟨.still rfl rfl rfl, ?_⟩
    intro f hf hp
    injection hf with hf
    rw [← hf, ofRefusal_poisons] at hp; cases hp
  · exact ⟨tame_gaveUp id s, fun _ _ _ => rfl⟩
  · exact ⟨.still rfl rfl rfl, fun _ h => nomatch h⟩

theorem tame_dispatch (net : Network W) (id : NodeId) (l : Location) (frame : Bytes) {α : Type} (decode : Decoder α)
    (s : Scene (Recorded W)) :
    Tame s (s.dispatch net.recorded id l frame decode).2 ∧
      ∀ f, (s.dispatch net.recorded id l frame decode).1 = .error f → f.poisons = true →
        (s.dispatch net.recorded id l frame decode).2.client.master = none := by
  have hfail : ∀ (s : Scene (Recorded W)) e s', s.attempt net.recorded id l frame = (.error e, s') →
      Tame s (s'.gaveUp net.recorded id) := by
    intro s e s' h
    have hc := (tame_attempt net id l frame s).1
    rw [h] at hc
    exact .lost ((config_gaveUp _ id s').trans hc) rfl
  rcases dispatch_cases (R := Tame) (fun _ _ _ => Tame.trans) tame_waited hfail decode s with
    ⟨e, s', h, ht, hm⟩ | ⟨s₁, ch, s₂, ht, ha, h⟩
  · rw [h]
    exact ⟨ht, fun _ _ _ => hm⟩
  · have hsent : Tame s₁ s₂ := by
      have := (tame_attempt net id l frame s₁).2 ch
      rw [ha] at this
      exact this rfl
    obtain ⟨h₁, h₂⟩ := tame_readReply net id decode ch s₂
    rw [h]
    exact ⟨(ht.trans hsent).trans h₁, h₂⟩

/-- a request other than the question who is master -/
theorem tame_exchange (id : NodeId) (frame : Bytes) (shape : Shape) (s : Scene (Recorded W))
    (hf : frame ≠ Request.encode .whoMaster) : Tame s (s.exchange net.recorded id frame shape).2 := by
  cases hl : s.client.config.location? id with
  | none => rw [exchange_of_unknown hl]; exact .still rfl rfl rfl
  | some l =>
    obtain ⟨ht, hp⟩ := tame_dispatch net id l frame (Reply.decoder shape) s
    rw [exchange_of_location hl]
    generalize s.dispatch net.recorded id l frame (Reply.decoder shape) = x at ht hp ⊢
    obtain ⟨r, s₁⟩ := x
    by_cases hm : s₁.client.master = none
    · exact .lost ht.config hm
    · -- the failure is not poisonous, or the master would be forgotten
      have hharm : (.ended ⟨id, frame, shape, r⟩ : Deed W).Harmless := by
        refine Deed.harmless_ended hf ?_
        intro f hr
        by_contra hpf
        exact hm (hp f hr (eq_true_of_ne_false hpf))
      exact ht.trans (.one rfl rfl rfl hharm)

/-- what asking who is master does to a client that does not know it: it still does not, and an answer from a node of
the client's is the last deed -/
theorem askMaster_spec (net : Network W) (id : NodeId) (s : Scene (Recorded W)) (hs : s.client.master = none) :
    (s.askMaster net.recorded id).2.client.config = s.client.config ∧
      (s.askMaster net.recorded id).2.client.master = none ∧
      ∀ a, (s.askMaster net.recorded id).1 = .ok a → id ∈ s.client.config.nodeIds ∧
        ∃ earlier, (s.askMaster net.recorded id).2.net.log =
          .ended ⟨id, Request.encode .whoMaster, .optText, .ok a⟩ :: earlier := by
  unfold askMaster
  cases hl : s.client.config.location? id with
  | none => rw [exchange_of_unknown hl]; exact ⟨rfl, hs, fun _ h => nomatch h⟩
  | some l =>
    have ht := (tame_dispatch net id l (Request.encode .whoMaster) (Reply.decoder .optText) s).1
    rw [exchange_of_location hl]
    generalize s.dispatch net.recorded id l (Request.encode .whoMaster) (Reply.decoder .optText) = x at ht ⊢
    obtain ⟨r, s₁⟩ := x
    refine ⟨ht.config, ht.unknown hs, fun a ha => ⟨?_, s₁.net.log, ?_⟩⟩
    · exact Config.mem_nodeIds_of_location hl
    · cases ha; rfl

/-! ## Looking for the master -/

theorem sound_of_unknown (h : s.client.master = none) : s.Sound := fun _ hm => nomatch h.symm.trans hm

/-- a node that names itself last is a sound choice -/
theorem sound_setMaster {m : NodeId} {earlier : List (Deed W)} (hm : m ∈ s.client.config.nodeIds)
    (hl : s.net.log = .ended ⟨m, Request.encode .whoMaster, .optText, .ok (some m)⟩ :: earlier) :
    (s.setMaster (some m)).Sound := by
  intro m' h
  cases h
  exact ⟨hm, [], earlier, hl, by simp⟩

/-- a search that starts from nothing ends with nothing or with a sound choice -/
theorem search_sound (net : Network W) (ids : List NodeId) (s : Scene (Recorded W)) (hs : s.client.master = none) :
    (s.search net.recorded ids).2.client.config = s.client.config ∧ (s.search net.recorded ids).2.Sound := by
  rcases search_cases (R := Modest) .refl (fun _ _ _ => .trans) (fun id s => modest_exchange net.recorded id _ _ s) ids s
    with ⟨m, s₁, s₂, hm, ha, he⟩ | ⟨s', hm, -, he⟩
  · obtain ⟨hc, -, hanswer⟩ := askMaster_spec net m s₁ (hm.unknown hs)
    rw [ha] at hc hanswer
    obtain ⟨hid, earlier, hl⟩ := hanswer _ rfl
    rw [he]
    exact ⟨hc.trans hm.config, sound_setMaster (hc ▸ hid) hl⟩
  · rw [he]
    exact ⟨hm.config, sound_of_unknown (hm.unknown hs)⟩

/-- the settings stay, and a sound scene stays sound -/
def Safe (s s' : Scene (Recorded W)) : Prop := s'.client.config = s.client.config ∧ (s.Sound → s'.Sound)

theorem Tame.safe {s s' : Scene (Recorded W)} (h : Tame s s') : Safe s s' := ⟨h.config, h.sound⟩

theorem safe_findMaster (net : Network W) (s : Scene (Recorded W)) : Safe s (s.findMaster net.recorded).2 := by
  cases hm : s.client.master with
  | some m => rw [findMaster_of_some hm]; exact ⟨rfl, id⟩
  | none =>
    obtain ⟨draws, h⟩ := findMaster_of_none net.recorded hm
    obtain ⟨hc, hs⟩ := search_sound net s.client.shuffledNodes.1
      ⟨{ s.client with draws := draws }, s.clock, s.net⟩ hm
    rw [h]
    exact ⟨hc, fun _ => hs⟩

theorem tame_closeAll (s : Scene (Recorded W)) : Tame s (s.closeAll net.recorded) :=
  ⟨rfl, .inr ⟨rfl, adds_closeAll Deed.harmless_closed s⟩⟩

/-- every step of a client leaves a sound scene sound -/
theorem upheld_safe (net : Network W) : Upheld net.recorded (· ≠ .whoMaster) (Safe (W := W)) where
  refl _ := ⟨rfl, id⟩
  trans _ _ _ h h' := ⟨h'.1.trans h.1, fun hs => h'.2 (h.2 hs)⟩
  exchange id r s hr := (tame_exchange id r.encode r.shape s fun h => hr (Request.eq_whoMaster_of_encode h)).safe
  findMaster := safe_findMaster net
  closeAll s := (tame_closeAll s).safe
  forget _ := Tame.safe (.lost rfl rfl)
  aside _ _ _ := Tame.safe (.still rfl rfl rfl)

/-! ## Any calls -/

/-- some time passes, and then the client makes a call -/
structure Turn where
  passed : Duration
  fuel : Nat
  call : Call

/-- the scene after a turn -/
def turn (net : Network W) (s : Scene W) (t : Turn) : Scene W :=
  (call net t.fuel t.call { s with clock := s.clock.advance t.passed }).2

def turns (net : Network W) (s : Scene W) (ts : List Turn) : Scene W := ts.foldl (turn net) s

theorem turns_recorded (net : Network W) (s : Scene (Recorded W)) (ts : List Turn) :
    (s.turns net.recorded ts).map Recorded.world = (s.map Recorded.world).turns net ts := by
  induction ts generalizing s with
  | nil => rfl
  | cons t ts ih =>
    have ht : (s.turn net.recorded t).map Recorded.world = (s.map Recorded.world).turn net t :=
      congrArg Prod.snd (call_map net.seen_recorded t.fuel t.call { s with clock := s.clock.advance t.passed }).symm
    exact (ih _).trans (congrArg (turns net · ts) ht)

theorem turn_safe (net : Network W) (s : Scene (Recorded W)) (t : Turn) : Safe s (s.turn net.recorded t) := by
  have hc : ∀ r, t.call.Sends r → r ≠ .whoMaster := by
    rintro r hr rfl
    cases hcall : t.call <;> rw [hcall] at hr <;> simp [Call.Sends] at hr
  have h := upheld_safe net
  have hstill : ∀ (s s' : Scene (Recorded W)), s'.client.config = s.client.config →
      s'.client.master = s.client.master → s'.net.log = s.net.log → Safe s s' := fun _ _ h₁ h₂ h₃ =>
    Tame.safe (.still h₁ h₂ h₃)
  refine h.trans _ _ _ (h.aside s s.client.draws (s.clock.advance t.passed)) ?_
  exact h.call t.fuel t.call (fun r hr _ => hc r hr) (fun _ _ _ => hstill _ _ rfl rfl rfl)
    (fun _ _ _ _ => hstill _ _ rfl rfl rfl) _

theorem turns_safe (net : Network W) (s : Scene (Recorded W)) (ts : List Turn) : Safe s (s.turns net.recorded ts) := by
  induction ts generalizing s with
  | nil => exact ⟨rfl, id⟩
  | cons t ts ih => exact (upheld_safe net).trans _ _ _ (turn_safe net s t) (ih _)

/-- **A client believes in a master only on that master's own word.** After any calls of a new client, on any network
and however long they are retried, a master that the client believes in is one of its nodes, was the last node to be
asked who is master, and named itself; and since that answer no connection and no send has failed, and every reply could
be read. The log that says so is that of the calls on the network itself. -/
theorem cached_master_vouched (net : Network W) (config : Config) (draws : List Nat) (clock : Clock) (w : W)
    (ts : List Turn) (m : NodeId)
    (hm : ((Scene.turns net ⟨.new config draws, clock, w⟩ ts).client.master = some m)) :
    let s := (logged ⟨.new config draws, clock, w⟩).turns net.recorded ts
    s.map Recorded.world = Scene.turns net ⟨.new config draws, clock, w⟩ ts ∧
      m ∈ config.nodeIds ∧ Vouched m s.net.log := by
  intro s
  have hs : s.map Recorded.world = Scene.turns net ⟨.new config draws, clock, w⟩ ts := turns_recorded net _ ts
  obtain ⟨hc, hsound⟩ := turns_safe net (logged ⟨.new config draws, clock, w⟩) ts
  have hm' : s.client.master = some m := by rw [← hm, ← hs]; rfl
  obtain ⟨hid, hv⟩ := hsound (sound_of_unknown rfl) m hm'
  have hconfig : s.client.config = config := hc
  exact ⟨hs, hconfig ▸ hid, hv⟩

/-- a client that asks a first, is sent to b, and stores something there -/
theorem cached_master_vouched_redirected :
    let ts : List Turn := [⟨.zero, 1, .whoMaster⟩, ⟨.zero, 1, .set "k".toUTF8 "v".toUTF8⟩]
    let net := Cluster.network
    let w := (Cluster.ofNodes "c" ["a", "b"]).setMaster (some "b")
    (Scene.turns net ⟨.new Config.ofTwoNodes [], .start, w⟩ ts).client.master = some "b" ∧
      "b" ∈ Config.ofTwoNodes.nodeIds ∧
      Vouched "b" ((logged ⟨.new Config.ofTwoNodes [], .start, w⟩).turns net.recorded ts).net.log := by
  intro ts net w
  have hm : (Scene.turns net ⟨.new Config.ofTwoNodes [], .start, w⟩ ts).client.master = some "b" := by decide +kernel
  exact ⟨hm, (cached_master_vouched net Config.ofTwoNodes [] .start w ts "b" hm).2⟩

end Scene

end ReplicaKV
