/-
What calls fail with, on every network.

- `Failure.outside`: the failure came from a node, or from the way to it. The others speak of the client itself: its
  settings, its connections, the arguments of a call.
- `exchange_fails`, `exchangeWithMaster_fails`: a request fails from outside, unless its node is none of the client's.
- `Retried.sendChecked_fails`: what is retried fails as one of its rounds did, or its frame is too large.
- `Call.checked?`: the request of a call whose arguments and frame are checked first. `call_checked`: all of these calls
  have one form. `call_checked_fails`, `call_unchecked_fails`: what they fail with, and what the others fail with.
-/
import ReplicaKV.Proofs.Network.Calls

namespace ReplicaKV

namespace Failure

/-- did the failure come from a node, or from the way to it? -/
def outside : Failure → Bool
  | noMaster | notMaster _ | transport _ _ | notFound _ | assertionFailed _ | server _ _ | protocol _ => true
  | invalidConfig _ | unknownNode _ | invalidArgument _ | notConnected _ => false

theorem outside_ofRefusal (r : Refusal) : (ofRefusal r).outside = true := by
  rw [ofRefusal]; split <;> rfl

theorem outside_ofReadFault (id : NodeId) (e : Fault) : (ofReadFault id e).outside = true := by
  rw [ofReadFault]; split <;> rfl

end Failure

/-- what is wrong with the arguments of a request -/
def Request.misuse : Request → Option Misuse
  | query q _ => q.misuse
  | command c => c.misuse
  | whoMaster | version => none

/-- the request of a call whose arguments and frame are checked before anything else -/
def Call.checked? (x : Client) : Call → Option Request
  | ping clientId => some (.command (.ping clientId x.config.clusterId))
  | getKeyCount => some (.command .getKeyCount)
  | query q => some (.query q x.dirtyReads)
  | set k v => some (.command (.set k v))
  | confirm k v => some (.command (.confirm k v))
  | delete k => some (.command (.delete k))
  | testAndSet k expected wanted => some (.command (.testAndSet k expected wanted))
  | sequence us sync => some (.command (.sequence us sync))
  | userFunction name argument => some (.command (.userFunction name argument))
  | expectProgressPossible | statistics | version _ | whoMaster | allowDirtyReads _ | dirtyReadsAllowed | dirtyNode
  | setDirtyNode _ | dropConnections => none

namespace Scene

variable {W : Type} {net : Network W} {s : Scene W} {f : Failure} {id : NodeId} {frame : Bytes} {shape : Shape}

/-! ## Requests -/

theorem readReply_fails {α : Type} {decode : Decoder α} {ch : Stream}
    (h : (s.readReply net id decode ch).1 = .error f) : f.outside = true := by
  unfold readReply at h
  generalize decode ch = x at h
  rcases x with ⟨(r | e) | v, ch'⟩
  · cases h
    exact Failure.outside_ofRefusal r
  · cases h
    exact Failure.outside_ofReadFault id e
  · cases h

/-- a request fails from outside, unless the client does not know where its node is -/
theorem exchange_fails (h : (s.exchange net id frame shape).1 = .error f) :
    f.outside = true ∨ f = .unknownNode id ∧ id ∉ s.client.config.nodeIds := by
  cases hl : s.client.config.location? id with
  | none =>
    rw [exchange_of_unknown hl] at h
    cases h
    exact .inr ⟨rfl, Config.location_eq_none.1 hl⟩
  | some l =>
    left
    rw [exchange_of_location hl] at h
    rcases dispatch_cases (R := Modest) (fun _ _ _ => .trans) modest_waited modest_failed (Reply.decoder shape) s with
      ⟨e, s', hd, -, -⟩ | ⟨s₁, ch, s₂, -, -, hd⟩
    · rw [hd] at h
      cases h
      rfl
    · rw [hd] at h
      exact readReply_fails h

/-- the client believes in a master that was found -/
theorem master_of_findMaster {m : NodeId} (h : (s.findMaster net).1 = .ok m) :
    (s.findMaster net).2.client.master = some m := by
  cases hm : s.client.master with
  | some m' =>
    rw [findMaster_of_some hm] at h ⊢
    cases h
    exact hm
  | none =>
    obtain ⟨draws, hd⟩ := findMaster_of_none net hm
    rw [hd] at h ⊢
    rcases search_cases (R := Modest) .refl (fun _ _ _ => .trans) (fun id s => modest_exchange net id _ _ s)
      s.client.shuffledNodes.1 ⟨{ s.client with draws := draws }, s.clock, s.net⟩ with
      ⟨m', s₁, s₂, -, -, hs⟩ | ⟨s', -, -, hs⟩
    · rw [hs] at h ⊢
      cases h
      rfl
    · rw [hs] at h
      cases h

/-- the failure is that the master in which the client believes, once it has looked for one, is none of its nodes -/
def Astray (net : Network W) (s : Scene W) (f : Failure) : Prop :=
  ∃ m, f = .unknownNode m ∧ (s.findMaster net).2.client.master = some m ∧
    m ∉ (s.findMaster net).2.client.config.nodeIds

theorem exchangeWithMaster_fails (h : (s.exchangeWithMaster net frame shape).1 = .error f) :
    f.outside = true ∨ s.Astray net f := by
  have hf : ∀ e, (s.findMaster net).1 = .error e → e = .noMaster := fun e he => (findMaster_failed he).1
  have hm : ∀ m, (s.findMaster net).1 = .ok m → (s.findMaster net).2.client.master = some m := fun _ =>
    master_of_findMaster
  unfold exchangeWithMaster at h
  unfold Astray
  generalize s.findMaster net = x at hf hm h ⊢
  rcases x with ⟨e | m, s₁⟩
  · cases h
    rw [hf f rfl]
    exact .inl rfl
  · rcases exchange_fails h with hout | ⟨rfl, hid⟩
    · exact .inl hout
    · exact .inr ⟨m, rfl, hm m rfl, hid⟩

end Scene

/-! ## Retrying -/

namespace Retried

variable {W α : Type} {net : Network W} {I J : Scene W → Prop} {s : Scene W} {P : Failure → Prop} {f : Failure}

/-- nothing need hold before a round -/
theorem always (net : Network W) : Retried net (fun _ => True) fun _ => True :=
  ⟨fun _ _ => trivial, fun _ _ => trivial, fun _ _ _ => trivial⟩

theorem rounds_fails (h : Retried net I J) {action : Act W α} (ha : ∀ s, I s → J (action s).2)
    (hP : ∀ s, I s → ∀ f, (action s).1 = .error f → P f) (b : Backoff) (deadline : Duration) (fuel i : Nat) (hs : I s)
    (hf : (s.rounds net b deadline action fuel i).1 = some (.error f)) : P f := by
  induction fuel generalizing i s with
  | zero => cases hf
  | succ fuel ih =>
    have hj := ha s hs
    have hp := hP s hs
    rw [Scene.rounds_succ] at hf
    generalize action s = x at hj hp hf
    rcases x with ⟨e | v, s₁⟩
    · cases hl : e.losesMaster with
      | false =>
        simp only [hl, Bool.false_eq_true, if_false] at hf
        cases hf
        exact hp _ rfl
      | true =>
        simp only [hl, if_true] at hf
        split_ifs at hf
        · cases hf
          exact hp _ rfl
        · exact ih _ (h.clock _ _ (h.clock _ _ (h.reset s₁ hj))) hf
    · cases hf

theorem sendChecked_fails (h : Retried net I J) (fuel : Nat) (r : Request) {action : Bytes → Act W α}
    (ha : r.body.size ≤ Frame.sizeLimit → ∀ s, I s → J (action r.encode s).2)
    (hP : ∀ s, I s → ∀ f, (action r.encode s).1 = .error f → P f) (hs : I s)
    (hf : (s.sendChecked net fuel r action).1 = some (.error f)) :
    P f ∨ ∃ m, r.encodeChecked = .error m ∧ f = .invalidArgument m.message := by
  unfold Scene.sendChecked at hf
  cases hr : r.encodeChecked with
  | error m =>
    rw [hr] at hf
    cases hf
    exact .inr ⟨m, rfl, rfl⟩
  | ok frame =>
    obtain ⟨hfit, rfl⟩ := Request.fits_of_checked hr
    rw [hr] at hf
    simp only [Scene.persist] at hf
    split_ifs at hf
    exact .inl (h.rounds_fails (ha hfit) hP _ _ _ _ (h.clock _ _ hs) hf)

end Retried

/-! ## Calls -/

namespace Scene

variable {W : Type} {net : Network W} {s : Scene W} {f : Failure} {c : Call}

/-- a call whose arguments are checked: a bad one ends it, or else the request goes the client's way, to the master or
to the node for dirty reads -/
theorem call_checked (net : Network W) (fuel : Nat) {r : Request} (h : c.checked? s.client = some r) :
    ∃ way : Bytes → Act W c.shape.Value,
      ((∀ frame, way frame = exchangeWithMaster net frame c.shape) ∨
        ∀ frame, way frame = exchange net s.client.dirtyNode frame c.shape) ∧
      s.call net fuel c =
        match r.misuse with
        | some m => (some (.error (.invalidArgument m.message)), s)
        | none => s.sendChecked net fuel r way := by
  cases c with
  | query q =>
    cases h
    cases hd : s.client.dirtyReads with
    | false =>
      refine ⟨fun frame => exchangeWithMaster net frame q.shape, .inl fun _ => rfl, ?_⟩
      simp only [call, query, hd, Bool.false_eq_true, if_false]
      rfl
    | true =>
      refine ⟨fun frame => exchange net s.client.dirtyNode frame q.shape, .inr fun _ => rfl, ?_⟩
      simp only [call, query, hd, if_true]
      rfl
  | ping | getKeyCount | set | confirm | delete | testAndSet | sequence | userFunction =>
    cases h
    exact ⟨fun frame => exchangeWithMaster net frame _, .inl fun _ => rfl, rfl⟩
  | expectProgressPossible | statistics | version | whoMaster | allowDirtyReads | dirtyReadsAllowed | dirtyNode
  | setDirtyNode | dropConnections => cases h

/-- such a call fails as a request on its way does, or for its arguments, or because its frame is too large -/
theorem call_checked_fails {fuel : Nat} {r : Request} {I J : Scene W → Prop} {P : Failure → Prop}
    (hc : c.checked? s.client = some r) (h : Retried net I J)
    (hmaster : ∀ s', I s' → J (s'.exchangeWithMaster net r.encode c.shape).2 ∧
      ∀ f, (s'.exchangeWithMaster net r.encode c.shape).1 = .error f → P f)
    (hdirty : ∀ s', I s' → J (s'.exchange net s.client.dirtyNode r.encode c.shape).2 ∧
      ∀ f, (s'.exchange net s.client.dirtyNode r.encode c.shape).1 = .error f → P f)
    (hs : I s) (hf : (s.call net fuel c).1 = some (.error f)) :
    P f ∨ (∃ m, r.misuse = some m ∧ f = .invalidArgument m.message) ∨
      ∃ m, r.encodeChecked = .error m ∧ f = .invalidArgument m.message := by
  obtain ⟨way, hway, hcall⟩ := call_checked net fuel hc
  have hgoes : ∀ s', I s' → J (way r.encode s').2 ∧ ∀ f, (way r.encode s').1 = .error f → P f := by
    rcases hway with hway | hway
    · rw [hway]
      exact hmaster
    · rw [hway]
      exact hdirty
  rw [hcall] at hf
  cases hm : r.misuse with
  | some m =>
    rw [hm] at hf
    cases hf
    exact .inr (.inl ⟨m, rfl, rfl⟩)
  | none =>
    rw [hm] at hf
    have hkept : r.body.size ≤ Frame.sizeLimit → ∀ s', I s' → J (way r.encode s').2 := fun _ s' hs' => (hgoes s' hs').1
    exact (h.sendChecked_fails fuel r hkept (fun s' hs' => (hgoes s' hs').2) hs hf).imp_right .inr

/-- the other calls fail from outside, or name a node that is none of the client's, or go astray -/
theorem call_unchecked_fails {fuel : Nat} (hc : c.checked? s.client = none)
    (hf : (s.call net fuel c).1 = some (.error f)) :
    f.outside = true ∨
      (∃ id, f = .unknownNode id ∧ (c = .version (some id) ∨ c = .setDirtyNode id) ∧ id ∉ s.client.config.nodeIds) ∨
      s.Astray net f := by
  cases c with
  | expectProgressPossible =>
    simp only [call, ended, expectProgressPossible] at hf
    split at hf
    · cases hf
    · exact (exchangeWithMaster_fails (Option.some.inj hf)).imp_right .inr
  | statistics => exact (exchangeWithMaster_fails (Option.some.inj hf)).imp_right .inr
  | version id =>
    cases id with
    | none => exact (exchangeWithMaster_fails (Option.some.inj hf)).imp_right .inr
    | some id =>
      rcases exchange_fails (Option.some.inj hf) with hout | ⟨he, hid⟩
      · exact .inl hout
      · exact .inr (.inl ⟨id, he, .inl rfl, hid⟩)
  | whoMaster =>
    obtain ⟨rfl, -⟩ := findMaster_failed (Option.some.inj hf)
    exact .inl rfl
  | setDirtyNode id =>
    simp only [call, ended, setDirtyNode] at hf
    cases hl : s.client.config.location? id with
    | none =>
      rw [hl] at hf
      cases hf
      exact .inr (.inl ⟨id, rfl, .inr rfl, Config.location_eq_none.1 hl⟩)
    | some l =>
      rw [hl] at hf
      cases hf
  | allowDirtyReads | dirtyReadsAllowed | dirtyNode | dropConnections => cases hf
  | ping | getKeyCount | query | set | confirm | delete | testAndSet | sequence | userFunction => cases hc

end Scene

end ReplicaKV
