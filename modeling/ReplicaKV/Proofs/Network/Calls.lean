/-
What every call of a client does to its scene, in terms of a few steps.

- `Call.Sends`: the requests that a call may make, apart from asking who is master. They are all `Fair`: no frame is too
  long, and no limit too large.
- `Retried net I J`: what holds before every round of an action that is retried, and what after it.
- `Upheld net Q R`: a relation between scenes that holds across requests in Q, looking for the master, forgetting it,
  closing channels, waiting and drawing.
- `Upheld.call`: such a relation holds across every call whose requests are in Q; the two calls that steer dirty reads
  are looked at one by one.
- `Seeks`: a relation that holds across looking for the master, as it holds across questions about it.
- `Blind`: a relation that does not depend on the master. It is upheld if requests keep it, the question who is master
  among them.
- `Network.Keeps`: a relation between networks that every action on them keeps. So does every call; and a client's
  settings never change.
-/
import ReplicaKV.Proofs.Network.Steps
import ReplicaKV.Proofs.Request.RoundTrip

namespace ReplicaKV

/-- the call may make this request -/
def Call.Sends : Call → Request → Prop
  | ping clientId, r => ∃ clusterId, r = .command (.ping clientId clusterId)
  | getKeyCount, r => r = .command .getKeyCount
  | query q, r => ∃ dirty, r = .query q dirty
  | set k v, r => r = .command (.set k v)
  | confirm k v, r => r = .command (.confirm k v)
  | delete k, r => r = .command (.delete k)
  | testAndSet k expected wanted, r => r = .command (.testAndSet k expected wanted)
  | sequence us sync, r => r = .command (.sequence us sync)
  | userFunction name argument, r => r = .command (.userFunction name argument)
  | expectProgressPossible, r => r = .command .expectProgressPossible
  | statistics, r => r = .command .statistics
  | version _, r => r = .version
  | whoMaster, _ | allowDirtyReads _, _ | dirtyReadsAllowed, _ | dirtyNode, _ | setDirtyNode _, _
  | dropConnections, _ => False

/-- the frame of the request is not too long, and the request arrives as it is -/
structure Request.Fair (r : Request) : Prop where
  fits : r.body.size ≤ Frame.sizeLimit
  plain : r.clamped = r

namespace Request

theorem fair_whoMaster : Fair .whoMaster := ⟨by decide, rfl⟩

theorem fair_version : Fair .version := ⟨by decide, rfl⟩

theorem fair_statistics : Fair (.command .statistics) := ⟨by decide, rfl⟩

theorem fair_expectProgressPossible : Fair (.command .expectProgressPossible) := ⟨by decide, rfl⟩

theorem fits_of_checked {r : Request} {frame : Bytes} (h : r.encodeChecked = .ok frame) :
    r.body.size ≤ Frame.sizeLimit ∧ frame = r.encode := by
  rw [encodeChecked] at h
  split_ifs at h with hl
  cases h
  rw [size_encode] at hl
  exact ⟨by omega, rfl⟩

end Request

/-! ## Retrying -/

/-- I holds before every round of an action, and J after it: rounds begin anew once everything is forgotten -/
structure Retried {W : Type} (net : Network W) (I J : Scene W → Prop) : Prop where
  ends : ∀ s, I s → J s
  reset : ∀ s, J s → I (s.reset net)
  clock : ∀ s clock, I s → I { s with clock := clock }

namespace Retried

variable {W α : Type} {net : Network W} {I J : Scene W → Prop} {s : Scene W}

theorem rounds (h : Retried net I J) {action : Act W α} (ha : ∀ s, I s → J (action s).2) (b : Backoff)
    (deadline : Duration) (fuel i : Nat) (hs : I s) : J (s.rounds net b deadline action fuel i).2 := by
  induction fuel generalizing i s with
  | zero => exact h.ends s hs
  | succ fuel ih =>
    have ht := ha s hs
    rw [Scene.rounds_succ]
    generalize action s = x at ht ⊢
    rcases x with ⟨e | v, s₁⟩
    · cases hl : e.losesMaster with
      | false => simpa only [hl, Bool.false_eq_true, if_false] using ht
      | true =>
        -- the reset and the look at the clock
        have hk : I (s₁.reset net).askTime := h.clock _ _ (h.reset s₁ ht)
        simp only [hl, if_true]
        split_ifs
        · exact h.ends _ hk
        · exact h.ends _ hk
        · exact ih _ (h.clock _ _ hk)
    · exact ht

theorem persist (h : Retried net I J) {action : Act W α} (ha : ∀ s, I s → J (action s).2) (b : Backoff) (fuel : Nat)
    (hs : I s) : J (s.persist net b fuel action).2 := by
  have hk : I s.askTime := h.clock _ _ hs
  rw [Scene.persist]
  split_ifs
  · exact h.ends _ hk
  · exact h.rounds ha b _ fuel 0 hk

theorem sendChecked (h : Retried net I J) (fuel : Nat) (r : Request) {action : Bytes → Act W α}
    (ha : r.body.size ≤ Frame.sizeLimit → ∀ s, I s → J (action r.encode s).2) (hs : I s) :
    J (s.sendChecked net fuel r action).2 := by
  cases hr : r.encodeChecked with
  | error m => simp only [Scene.sendChecked, hr]; exact h.ends s hs
  | ok frame =>
    obtain ⟨hfit, rfl⟩ := Request.fits_of_checked hr
    simp only [Scene.sendChecked, hr]
    exact h.persist (ha hfit) _ fuel hs

end Retried

/-! ## Relations that every step keeps -/

/-- a relation that requests in Q and everything else that a client does keep -/
structure Upheld {W : Type} (net : Network W) (Q : Request → Prop) (R : Scene W → Scene W → Prop) : Prop where
  refl : ∀ s, R s s
  trans : ∀ s s' s'', R s s' → R s' s'' → R s s''
  exchange : ∀ id r s, Q r → R s (s.exchange net id r.encode r.shape).2
  findMaster : ∀ s, R s (s.findMaster net).2
  closeAll : ∀ s, R s (s.closeAll net)
  forget : ∀ s, R s (s.setMaster none)
  aside : ∀ s draws clock, R s ⟨{ s.client with draws := draws }, clock, s.net⟩

namespace Upheld

variable {W : Type} {net : Network W} {Q : Request → Prop} {R : Scene W → Scene W → Prop}

theorem exchangeWithMaster (h : Upheld net Q R) (r : Request) (hr : Q r) (s : Scene W) :
    R s (s.exchangeWithMaster net r.encode r.shape).2 := by
  have hf := h.findMaster s
  unfold Scene.exchangeWithMaster
  generalize s.findMaster net = x at hf ⊢
  rcases x with ⟨e | m, s₁⟩
  · exact hf
  · exact h.trans _ _ _ hf (h.exchange m r s₁ hr)

theorem reset (h : Upheld net Q R) (s : Scene W) : R s (s.reset net) :=
  h.trans _ _ _ (h.forget s) (h.closeAll _)

/-- what R relates to a scene holds before and after every round -/
theorem retried (h : Upheld net Q R) (s : Scene W) : Retried net (R s) (R s) where
  ends _ hs := hs
  reset s' hs := h.trans _ _ _ hs (h.reset s')
  clock s' clock hs := h.trans _ _ _ hs (h.aside s' s'.client.draws clock)

theorem sendChecked (h : Upheld net Q R) (fuel : Nat) (r : Request) {α : Type} {action : Bytes → Act W α}
    (ha : r.body.size ≤ Frame.sizeLimit → ∀ s, R s (action r.encode s).2) (s : Scene W) :
    R s (s.sendChecked net fuel r action).2 :=
  (h.retried s).sendChecked fuel r (fun hfit s' hs => h.trans _ _ _ hs (ha hfit s')) (h.refl s)

theorem command (h : Upheld net Q R) (fuel : Nat) (c : Command) (hc : Request.Fair (.command c) → Q (.command c))
    (s : Scene W) : R s (s.command net fuel c).2 := by
  unfold Scene.command
  cases c.misuse with
  | some m => exact h.refl s
  | none => exact h.sendChecked fuel _ (fun hfit => h.exchangeWithMaster (.command c) (hc ⟨hfit, rfl⟩)) s

theorem query (h : Upheld net Q R) (fuel : Nat) (q : Query)
    (hq : ∀ dirty, Request.Fair (.query q dirty) → Q (.query q dirty)) (s : Scene W) :
    R s (s.query net fuel q).2 := by
  unfold Scene.query
  cases hm : q.misuse with
  | some m => exact h.refl s
  | none =>
    have hplain : ∀ dirty, (Request.query q dirty).clamped = .query q dirty := by
      intro dirty
      rw [Request.clamped, clamped_of_query hm]
    simp only
    split_ifs
    · refine h.sendChecked fuel _ ?_ s
      intro hfit s'
      exact h.exchange s.client.dirtyNode (.query q true) s' (hq true ⟨hfit, hplain true⟩)
    · refine h.sendChecked fuel _ ?_ s
      intro hfit
      exact h.exchangeWithMaster (.query q false) (hq false ⟨hfit, hplain false⟩)

/-- **A relation that the steps of a client keep is kept by every call.** -/
theorem call (h : Upheld net Q R) (fuel : Nat) (c : Call) (hc : ∀ r, c.Sends r → r.Fair → Q r)
    (hreads : ∀ allowed, c = .allowDirtyReads allowed →
      ∀ s, R s { s with client := { s.client with dirtyReads := allowed } })
    (hnode : ∀ id, c = .setDirtyNode id → ∀ s, id ∈ s.client.config.nodeIds →
      R s { s with client := { s.client with dirtyNode := id } })
    (s : Scene W) : R s (s.call net fuel c).2 := by
  cases c with
  | ping clientId => exact h.command fuel _ (hc _ ⟨_, rfl⟩) s
  | getKeyCount => exact h.command fuel .getKeyCount (hc _ rfl) s
  | query q => exact h.query fuel q (fun dirty => hc _ ⟨dirty, rfl⟩) s
  | set k v => exact h.command fuel (.set k v) (hc _ rfl) s
  | confirm k v => exact h.command fuel (.confirm k v) (hc _ rfl) s
  | delete k => exact h.command fuel (.delete k) (hc _ rfl) s
  | testAndSet k expected wanted => exact h.command fuel (.testAndSet k expected wanted) (hc _ rfl) s
  | sequence us sync => exact h.command fuel (.sequence us sync) (hc _ rfl) s
  | userFunction name argument => exact h.command fuel (.userFunction name argument) (hc _ rfl) s
  | expectProgressPossible =>
    have hx : R s (s.exchangeWithMaster net (Request.encode (.command .expectProgressPossible)) .flag).2 :=
      h.exchangeWithMaster (.command .expectProgressPossible) (hc _ rfl Request.fair_expectProgressPossible) s
    simp only [Scene.call, Scene.ended, Scene.expectProgressPossible]
    split
    · rename_i s' he
      rwa [he] at hx
    · exact hx
  | statistics => exact h.exchangeWithMaster (.command .statistics) (hc _ rfl Request.fair_statistics) s
  | version id =>
    cases id with
    | some id => exact h.exchange id .version s (hc _ rfl Request.fair_version)
    | none => exact h.exchangeWithMaster .version (hc _ rfl Request.fair_version) s
  | whoMaster => exact h.findMaster s
  | setDirtyNode id =>
    simp only [Scene.call, Scene.ended, Scene.setDirtyNode]
    cases hl : s.client.config.location? id with
    | none => exact h.refl s
    | some l => exact hnode id rfl s (Config.mem_nodeIds_of_location hl)
  | allowDirtyReads allowed => exact hreads allowed rfl s
  | dirtyReadsAllowed | dirtyNode => exact h.refl s
  | dropConnections => exact h.closeAll s

end Upheld

/-! ## Looking for the master -/

/-- a relation that questions about the master keep, and that changes of the master and draws do not touch -/
structure Seeks {W : Type} (net : Network W) (R : Scene W → Scene W → Prop) : Prop where
  refl : ∀ s, R s s
  trans : ∀ s s' s'', R s s' → R s' s'' → R s s''
  ask : ∀ id s, R s (s.askMaster net id).2
  setMaster : ∀ s m, R s (s.setMaster m)
  draws : ∀ s draws, R s ⟨{ s.client with draws := draws }, s.clock, s.net⟩

namespace Seeks

variable {W : Type} {net : Network W} {R : Scene W → Scene W → Prop}

theorem search (h : Seeks net R) (ids : List NodeId) (s : Scene W) : R s (s.search net ids).2 := by
  rcases Scene.search_cases h.refl h.trans h.ask ids s with ⟨m, s₁, s₂, hr, ha, hs⟩ | ⟨s', hr, -, hs⟩
  · have hr' := h.trans _ _ _ hr (h.ask m s₁)
    rw [ha] at hr'
    rw [hs]
    exact h.trans _ _ _ hr' (h.setMaster s₂ _)
  · rw [hs]
    exact hr

theorem findMaster (h : Seeks net R) (s : Scene W) : R s (s.findMaster net).2 := by
  cases hm : s.client.master with
  | some m => rw [Scene.findMaster_of_some hm]; exact h.refl s
  | none =>
    obtain ⟨draws, hd⟩ := Scene.findMaster_of_none net hm
    rw [hd]
    exact h.trans _ _ _ (h.draws s draws) (h.search _ _)

end Seeks

/-! ## Relations that do not depend on the master -/

/-- a relation that requests in Q keep, and that changes of the master and of the clock do not touch -/
structure Blind {W : Type} (net : Network W) (Q : Request → Prop) (R : Scene W → Scene W → Prop) : Prop where
  refl : ∀ s, R s s
  trans : ∀ s s' s'', R s s' → R s' s'' → R s s''
  exchange : ∀ id r s, Q r → R s (s.exchange net id r.encode r.shape).2
  whoMaster : Q .whoMaster
  closeAll : ∀ s, R s (s.closeAll net)
  setMaster : ∀ s m, R s (s.setMaster m)
  aside : ∀ s draws clock, R s ⟨{ s.client with draws := draws }, clock, s.net⟩

namespace Blind

variable {W : Type} {net : Network W} {Q : Request → Prop} {R : Scene W → Scene W → Prop}

theorem seeks (h : Blind net Q R) : Seeks net R where
  refl := h.refl
  trans := h.trans
  ask id s := h.exchange id .whoMaster s h.whoMaster
  setMaster := h.setMaster
  draws s draws := h.aside s draws s.clock

theorem upheld (h : Blind net Q R) : Upheld net Q R where
  refl := h.refl
  trans := h.trans
  exchange := h.exchange
  findMaster := h.seeks.findMaster
  closeAll := h.closeAll
  forget s := h.setMaster s none
  aside := h.aside

end Blind

/-! ## Relations between networks -/

/-- a relation that every action on a network keeps -/
structure Network.Keeps {W : Type} (net : Network W) (R : W → W → Prop) : Prop where
  refl : ∀ w, R w w
  trans : ∀ w w' w'', R w w' → R w' w'' → R w w''
  connect : ∀ id l c w, R w (net.connect id l c w).2
  send : ∀ id frame w, R w (net.send id frame w).2
  close : ∀ id w, R w (net.close id w)
  note : ∀ n w, R w (net.note n w)

namespace Network.Keeps

variable {W : Type} {net : Network W} {R : W → W → Prop}

/-- the settings stay, and the network changes as R allows -/
def Across (R : W → W → Prop) (s s' : Scene W) : Prop := s'.client.config = s.client.config ∧ R s.net s'.net

theorem trans' (h : net.Keeps R) (s s' s'' : Scene W) (h₁ : Across R s s') (h₂ : Across R s' s'') : Across R s s'' :=
  ⟨h₂.1.trans h₁.1, h.trans _ _ _ h₁.2 h₂.2⟩

theorem evict (h : net.Keeps R) (id : NodeId) (s : Scene W) : Across R s (s.evict net id) := by
  unfold Scene.evict
  split
  · exact ⟨rfl, h.refl _⟩
  · exact ⟨rfl, h.close id _⟩

theorem waited (h : net.Keeps R) (i : Nat) (s : Scene W) : Across R s (s.waited i) := by
  obtain ⟨draws, clock, hw⟩ := Scene.waited_eq i s
  rw [hw]
  exact ⟨rfl, h.refl _⟩

theorem attempt (h : net.Keeps R) (id : NodeId) (l : Location) (frame : Bytes) (s : Scene W) :
    Across R s (s.attempt net id l frame).2 :=
  Scene.attempt_keeps (fun s => ⟨rfl, h.refl s.net⟩) h.trans' (fun _ => ⟨rfl, h.connect id l _ _⟩)
    (fun _ => ⟨rfl, h.send id frame _⟩) (fun s _ => ⟨rfl, h.refl s.net⟩) s

theorem readReply (h : net.Keeps R) (id : NodeId) {α : Type} (decode : Decoder α) (ch : Stream) (s : Scene W) :
    Across R s (s.readReply net id decode ch).2 :=
  Scene.readReply_keeps (fun s _ => ⟨rfl, h.refl s.net⟩) (h.evict id) decode ch s

theorem dispatch (h : net.Keeps R) (id : NodeId) (l : Location) (frame : Bytes) {α : Type} (decode : Decoder α)
    (s : Scene W) : Across R s (s.dispatch net id l frame decode).2 :=
  Scene.dispatch_keeps h.trans' h.waited (h.attempt id l frame) (h.evict id)
    (fun _ ch s' _ => h.readReply id decode ch s') s

theorem exchange (h : net.Keeps R) (id : NodeId) (frame : Bytes) (shape : Shape) (s : Scene W) :
    Across R s (s.exchange net id frame shape).2 :=
  Scene.exchange_keeps ⟨rfl, h.refl s.net⟩ h.trans' (fun s n => ⟨rfl, h.note n s.net⟩)
    fun l _ => h.dispatch id l frame _ s

theorem closes (h : net.Keeps R) (ids : List NodeId) (w : W) : R w (ids.foldl (fun w id => net.close id w) w) := by
  induction ids generalizing w with
  | nil => exact h.refl w
  | cons id ids ih => exact h.trans _ _ _ (h.close id w) (ih _)

theorem closeAll (h : net.Keeps R) (s : Scene W) : Across R s (s.closeAll net) := ⟨rfl, h.closes _ _⟩

theorem blind (h : net.Keeps R) : Blind net (fun _ => True) (Across R) where
  refl s := ⟨rfl, h.refl s.net⟩
  trans := h.trans'
  exchange id r s _ := h.exchange id r.encode r.shape s
  whoMaster := trivial
  closeAll := h.closeAll
  setMaster s _ := ⟨rfl, h.refl s.net⟩
  aside s _ _ := ⟨rfl, h.refl s.net⟩

/-- **What every action on a network keeps is kept by every call**, and so are the settings of the client. -/
theorem call (h : net.Keeps R) (fuel : Nat) (c : Call) (s : Scene W) :
    (s.call net fuel c).2.client.config = s.client.config ∧ R s.net (s.call net fuel c).2.net :=
  h.blind.upheld.call fuel c (fun _ _ _ => trivial) (fun _ _ s => ⟨rfl, h.refl s.net⟩)
    (fun _ _ s _ => ⟨rfl, h.refl s.net⟩) s

end Network.Keeps

end ReplicaKV
