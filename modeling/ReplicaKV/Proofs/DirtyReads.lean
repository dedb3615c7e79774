/-
Where queries go, on every network, whatever connections and sends lead to and whatever bytes come back.

While dirty reads are allowed a query is pinned to the node that was chosen for it: it is tried again there and nowhere
else, and nobody is asked who is master. While they are not, it goes to the master that was resolved last. No other
request looks at the choice.

- `Deed.Pinned id frame`: nothing is connected or sent to but the node, and nothing is sent but the frame.
  `adds_exchange`: a request is pinned.
- `Resolved m id log`: who is master was last answered by id, which named itself; or nobody was asked, and id was the
  master known before.
- `Led`: every frame but the question who is master was sent to the master resolved last. `exchangeWithMaster_led`: a
  request to the master is; the rounds of a query, which begin anew after each loss of the master, keep it so.
- `dirty_reads_routed`: the routes of queries, and that nothing else depends on the choice (`Scene.call_recast`).
-/
import ReplicaKV.Proofs.MasterCache

namespace ReplicaKV

variable {W : Type}

/-! ## Deeds -/

namespace Deed

/-- nothing is connected or sent to but the node, and nothing is sent but the frame -/
def Pinned (id : NodeId) (frame : Bytes) : Deed W → Prop
  | connected k _ _ => k = id
  | sent k f _ _ => k = id ∧ f = frame
  | closed _ => True
  | ended n => n.node = id ∧ n.frame = frame

/-- nothing is sent but the question who is master -/
def Question : Deed W → Prop
  | sent _ f _ _ => f = Request.encode .whoMaster
  | connected _ _ _ | closed _ | ended _ => True

variable {d : Deed W} {id : NodeId} {frame : Bytes}

theorem Pinned.question (h : d.Pinned id (Request.encode .whoMaster)) : d.Question := by
  cases d with
  | sent => exact h.2
  | connected | closed | ended => trivial

theorem Pinned.not_asks (h : d.Pinned id frame) (hf : frame ≠ Request.encode .whoMaster) : ¬d.Asks := by
  cases d with
  | ended n => exact fun hn => hf (h.2.symm.trans hn)
  | connected | sent | closed => exact fun hn => hn

end Deed

/-! ## What a request does -/

namespace Scene

variable {P : Deed W → Prop} {net : Network W} {s s' s'' : Scene (Recorded W)} {id : NodeId} {l : Location}
  {frame : Bytes} {shape : Shape}

theorem adds_waited (i : Nat) (s : Scene (Recorded W)) : Adds P s (s.waited i) := by
  obtain ⟨draws, clock, h⟩ := waited_eq i s
  rw [h]
  exact .refl s

theorem adds_gaveUp (k : NodeId) (s : Scene (Recorded W)) :
    Adds (Deed.Pinned id frame) s (s.gaveUp net.recorded k) := by
  unfold gaveUp evict
  split
  · exact .refl s
  · exact .one rfl trivial

theorem adds_attempt (net : Network W) (id : NodeId) (l : Location) (frame : Bytes) (s : Scene (Recorded W)) :
    Adds (Deed.Pinned id frame) s (s.attempt net.recorded id l frame).2 :=
  attempt_keeps .refl (fun _ _ _ => Adds.trans) (fun _ => .one rfl rfl) (fun _ => .one rfl ⟨rfl, rfl⟩)
    (fun s _ => .refl s) s

theorem adds_readReply (net : Network W) (id : NodeId) (frame : Bytes) {α : Type} (decode : Decoder α) (ch : Stream)
    (s : Scene (Recorded W)) : Adds (Deed.Pinned id frame) s (s.readReply net.recorded id decode ch).2 :=
  readReply_keeps (fun s _ => .refl s) (adds_gaveUp id) decode ch s

theorem adds_dispatch (net : Network W) (id : NodeId) (l : Location) (frame : Bytes) {α : Type} (decode : Decoder α)
    (s : Scene (Recorded W)) : Adds (Deed.Pinned id frame) s (s.dispatch net.recorded id l frame decode).2 :=
  dispatch_keeps (fun _ _ _ => Adds.trans) adds_waited (adds_attempt net id l frame) (adds_gaveUp id)
    (fun _ ch s' _ => adds_readReply net id frame decode ch s') s

/-- a request is pinned to its node and its frame -/
theorem adds_exchange (net : Network W) (id : NodeId) (frame : Bytes) (shape : Shape) (s : Scene (Recorded W)) :
    Adds (Deed.Pinned id frame) s (s.exchange net.recorded id frame shape).2 := by
  cases hl : s.client.config.location? id with
  | none => rw [exchange_of_unknown hl]; exact .refl s
  | some l =>
    rw [exchange_of_location hl]
    exact (adds_dispatch net id l frame (Reply.decoder shape) s).trans (.one rfl ⟨rfl, rfl⟩)

/-! ## Queries for a chosen node -/

/-- a query that is allowed to be dirty is pinned to the chosen node, round by round -/
theorem query_pinned (net : Network W) (fuel : Nat) (q : Query) (s : Scene (Recorded W))
    (hd : s.client.dirtyReads = true) :
    Adds (Deed.Pinned s.client.dirtyNode (Request.encode (.query q true))) s (s.query net.recorded fuel q).2 ∧
      ((s.query net.recorded fuel q).2.client.master = none ∨
        (s.query net.recorded fuel q).2.client.master = s.client.master) := by
  let I : Scene (Recorded W) → Prop := fun s' =>
    Adds (Deed.Pinned s.client.dirtyNode (Request.encode (.query q true))) s s' ∧
      (s'.client.master = none ∨ s'.client.master = s.client.master)
  have hI : Retried net.recorded I I :=
    { ends := fun _ hs => hs
      reset := fun s' hs => ⟨hs.1.trans (adds_closeAll (fun _ => trivial) (s'.setMaster none)), .inl rfl⟩
      clock := fun _ _ hs => hs }
  have hstart : I s := ⟨.refl s, .inr rfl⟩
  show I _
  unfold query
  cases q.misuse with
  | some m => exact hstart
  | none =>
    simp only [if_pos hd]
    refine hI.sendChecked fuel _ (fun _ s' hs => ?_) hstart
    have hmodest := modest_exchange net.recorded s.client.dirtyNode (Request.encode (.query q true)) q.shape s'
    exact ⟨hs.1.trans (adds_exchange net _ _ _ s'), hmodest.master.elim .inl fun hm => hm ▸ hs.2⟩

end Scene

/-! ## Queries for the master -/

/-- the master that was resolved last: id was asked last who is master, and named itself; or nobody was asked, and it was
the master known before -/
def Resolved (known : Option NodeId) (id : NodeId) (log : List (Deed W)) : Prop :=
  (∃ later earlier, log = later ++ .ended ⟨id, Request.encode .whoMaster, .optText, .ok (some id)⟩ :: earlier ∧
    ∀ d ∈ later, ¬d.Asks) ∨
  known = some id ∧ ∀ d ∈ log, ¬d.Asks

/-- every frame but the question who is master is this one, and was sent to the master resolved last -/
def Led (known : Option NodeId) (frame : Bytes) (log : List (Deed W)) : Prop :=
  ∀ later id f before r earlier, log = later ++ .sent id f before r :: earlier → f ≠ Request.encode .whoMaster →
    f = frame ∧ Resolved known id earlier

section

variable {known : Option NodeId} {id : NodeId} {frame : Bytes} {log new : List (Deed W)}

theorem Resolved.append (h : Resolved known id log) (hnew : ∀ d ∈ new, ¬d.Asks) : Resolved known id (new ++ log) := by
  have happend : ∀ {l : List (Deed W)}, (∀ d ∈ l, ¬d.Asks) → ∀ d ∈ new ++ l, ¬d.Asks := fun hl d hd =>
    (List.mem_append.1 hd).elim (hnew d) (hl d)
  rcases h with ⟨later, earlier, rfl, hl⟩ | ⟨hk, hl⟩
  · exact .inl ⟨new ++ later, earlier, (List.append_assoc ..).symm, happend hl⟩
  · exact .inr ⟨hk, happend hl⟩

theorem led_nil (known : Option NodeId) (frame : Bytes) : Led known frame ([] : List (Deed W)) := by
  intro later id f before r earlier h
  simp at h

theorem Led.cons (h : Led known frame log) {d : Deed W}
    (hd : ∀ id f before r, d = .sent id f before r → f ≠ Request.encode .whoMaster →
      f = frame ∧ Resolved known id log) : Led known frame (d :: log) := by
  intro later id f before r earlier he hf
  cases later with
  | nil =>
    obtain ⟨rfl, rfl⟩ := List.cons.inj he
    exact hd id f before r rfl hf
  | cons x later => exact h later id f before r earlier (List.cons.inj he).2 hf

theorem Led.questions (h : Led known frame log) (hnew : ∀ d ∈ new, d.Question) : Led known frame (new ++ log) := by
  induction new with
  | nil => exact h
  | cons d new ih =>
    refine (ih fun d hd => hnew d (List.mem_cons_of_mem _ hd)).cons ?_
    rintro k f before r rfl hf
    exact absurd (hnew _ List.mem_cons_self) hf

/-- a request to the master resolved last -/
theorem Led.pinned (h : Led known frame log) (hid : Resolved known id log) (hf : frame ≠ Request.encode .whoMaster)
    (hnew : ∀ d ∈ new, d.Pinned id frame) : Led known frame (new ++ log) := by
  induction new with
  | nil => exact h
  | cons d new ih =>
    have hrest : ∀ d ∈ new, d.Pinned id frame := fun d hd => hnew d (List.mem_cons_of_mem _ hd)
    refine (ih hrest).cons ?_
    rintro k f before r rfl -
    obtain ⟨rfl, rfl⟩ := hnew _ List.mem_cons_self
    exact ⟨rfl, hid.append fun d hd => (hrest d hd).not_asks hf⟩

end

namespace Scene

variable {net : Network W} {known : Option NodeId} {frame : Bytes} {s : Scene (Recorded W)}

/-- every frame was sent to the master resolved last, and so will be the next one if a master is known -/
def Leading (known : Option NodeId) (frame : Bytes) (s : Scene (Recorded W)) : Prop :=
  Led known frame s.net.log ∧ ∀ id, s.client.master = some id → Resolved known id s.net.log

theorem retried_leading (net : Network W) (known : Option NodeId) (frame : Bytes) :
    Retried net.recorded (Leading known frame) fun s => Led known frame s.net.log where
  ends _ hs := hs.1
  reset s hs := by
    -- no master is known after a reset
    refine ⟨?_, fun _ h => nomatch h⟩
    have hadds : Adds Deed.Question (s.setMaster none) ((s.setMaster none).closeAll net.recorded) :=
      adds_closeAll (fun _ => trivial) _
    obtain ⟨new, hl, hd⟩ := hadds
    rw [reset, hl]
    exact hs.questions hd
  clock _ _ hs := hs

theorem adds_askMaster (net : Network W) (id : NodeId) (s : Scene (Recorded W)) :
    Adds Deed.Question s (s.askMaster net.recorded id).2 :=
  (adds_exchange net id _ .optText s).mono fun _ h => h.question

/-- a search sends nothing but questions, and ends with the last node that was asked, which named itself -/
theorem search_led (net : Network W) (ids : List NodeId) (hm : s.client.master = none)
    (hs : Led known frame s.net.log) :
    Led known frame (s.search net.recorded ids).2.net.log ∧
      ∀ id, (s.search net.recorded ids).1 = .ok id → Resolved known id (s.search net.recorded ids).2.net.log := by
  have hask : ∀ id (s : Scene (Recorded W)), Adds Deed.Question s (s.askMaster net.recorded id).2 ∧
      Modest s (s.askMaster net.recorded id).2 := fun id s =>
    ⟨adds_askMaster net id s, modest_exchange net.recorded id _ _ s⟩
  rcases search_cases (R := fun s s' => Adds Deed.Question s s' ∧ Modest s s') (fun s => ⟨.refl s, .refl s⟩)
      (fun _ _ _ h h' => ⟨h.1.trans h'.1, h.2.trans h'.2⟩) hask ids s with ⟨m, s₁, s₂, hr, ha, he⟩ | ⟨s', hr, -, he⟩
  · obtain ⟨-, -, hanswer⟩ := askMaster_spec net m s₁ (hr.2.unknown hm)
    have hlast := adds_askMaster net m s₁
    rw [ha] at hanswer hlast
    obtain ⟨-, earlier, hl⟩ := hanswer _ rfl
    obtain ⟨new, hnew, hq⟩ := hr.1.trans hlast
    have hled : Led known frame s₂.net.log := hnew ▸ hs.questions hq
    have hresolved : Resolved known m s₂.net.log := .inl ⟨[], earlier, hl, by simp⟩
    rw [he]
    refine ⟨hled, ?_⟩
    rintro id h
    cases h
    exact hresolved
  · obtain ⟨new, hnew, hq⟩ := hr.1
    rw [he]
    exact ⟨hnew ▸ hs.questions hq, fun _ h => nomatch h⟩

/-- the master that a client goes to was resolved last, whether it was known or looked for -/
theorem findMaster_led (net : Network W) (hs : Leading known frame s) :
    Led known frame (s.findMaster net.recorded).2.net.log ∧
      ∀ id, (s.findMaster net.recorded).1 = .ok id → Resolved known id (s.findMaster net.recorded).2.net.log := by
  cases hm : s.client.master with
  | some m =>
    rw [findMaster_of_some hm]
    refine ⟨hs.1, ?_⟩
    rintro id h
    cases h
    exact hs.2 _ hm
  | none =>
    obtain ⟨draws, hd⟩ := findMaster_of_none net.recorded hm
    have hled : Led known frame (⟨{ s.client with draws := draws }, s.clock, s.net⟩ : Scene (Recorded W)).net.log := hs.1
    rw [hd]
    exact search_led net s.client.shuffledNodes.1 hm hled

theorem exchangeWithMaster_led (hf : frame ≠ Request.encode .whoMaster) (shape : Shape) (hs : Leading known frame s) :
    Led known frame (s.exchangeWithMaster net.recorded frame shape).2.net.log := by
  obtain ⟨hled, hfound⟩ := findMaster_led net hs
  unfold exchangeWithMaster
  generalize s.findMaster net.recorded = x at hled hfound ⊢
  rcases x with ⟨e | m, s₁⟩
  · exact hled
  · obtain ⟨new, hnew, hp⟩ := adds_exchange net m frame shape s₁
    simp only [hnew]
    exact hled.pinned (hfound m rfl) hf hp

theorem encode_query_ne (q : Query) (dirty : Bool) :
    Request.encode (.query q dirty) ≠ Request.encode .whoMaster := by
  intro h
  cases Request.eq_whoMaster_of_encode h

/-- a query that is not allowed to be dirty goes to the master, round by round -/
theorem query_led (net : Network W) (fuel : Nat) (q : Query) (hd : s.client.dirtyReads = false)
    (hs : Leading known (Request.encode (.query q false)) s) :
    Led known (Request.encode (.query q false)) (s.query net.recorded fuel q).2.net.log := by
  unfold query
  cases q.misuse with
  | some m => exact hs.1
  | none =>
    simp only [hd, Bool.false_eq_true, if_false]
    exact (retried_leading net known _).sendChecked fuel (.query q false)
      (fun _ s' hs' => exchangeWithMaster_led (encode_query_ne q false) q.shape hs') hs

/-! ## All calls -/

/-- another choice of dirty reads -/
def choose (s : Scene W) (allowed : Bool) (id : NodeId) : Scene W :=
  { s with client := { s.client with dirtyReads := allowed, dirtyNode := id } }

/-- **Where queries go.** While dirty reads are allowed, all that a query connects or sends to is the chosen node, all
that it sends is the same frame, which allows a dirty read and is no question about the master, and the master that the
client knows stays or is forgotten. While they are not allowed, every frame of a query but the questions about the
master is the one that does not allow a dirty read, and goes to the master that was resolved last before it. Every other
call ends in the same, does the same on the network, sleeps and draws the same and leaves the same client, but for the
choice of dirty reads, whatever that is. -/
theorem dirty_reads_routed (net : Network W) (fuel : Nat) :
    (∀ (s : Scene W) (q : Query), s.client.dirtyReads = true →
      let after := (s.logged.call net.recorded fuel (.query q)).2
      after.map Recorded.world = (s.call net fuel (.query q)).2 ∧
        (∀ d ∈ after.net.log, d.Pinned s.client.dirtyNode (Request.encode (.query q true))) ∧
        Request.encode (.query q true) ≠ Request.encode .whoMaster ∧
        (after.client.master = none ∨ after.client.master = s.client.master)) ∧
    (∀ (s : Scene W) (q : Query), s.client.dirtyReads = false →
      let after := (s.logged.call net.recorded fuel (.query q)).2
      after.map Recorded.world = (s.call net fuel (.query q)).2 ∧
        ∀ later id frame before r earlier, after.net.log = later ++ .sent id frame before r :: earlier →
          frame ≠ Request.encode .whoMaster →
            frame = Request.encode (.query q false) ∧ Resolved s.client.master id earlier) ∧
    ∀ (s : Scene W) (c : Call), c.concernsDirtyReads = false → ∀ (allowed : Bool) (id : NodeId),
      (s.choose allowed id).call net fuel c = ((s.call net fuel c).1, (s.call net fuel c).2.choose allowed id) := by
  refine ⟨?_, ?_, ?_⟩
  · intro s q hd
    obtain ⟨⟨new, hl, hp⟩, hm⟩ := query_pinned net fuel q s.logged hd
    have hnew : new = (s.logged.call net.recorded fuel (.query q)).2.net.log := by
      rw [← List.append_nil new]
      exact hl.symm
    exact ⟨congrArg Prod.snd (call_recorded net fuel (.query q) s).symm, hnew ▸ hp, encode_query_ne q true, hm⟩
  · intro s q hd
    have hstart : Leading s.client.master (Request.encode (.query q false)) s.logged :=
      ⟨led_nil _ _, fun id hm => .inr ⟨hm, by simp [logged, Recorded.fresh]⟩⟩
    exact ⟨congrArg Prod.snd (call_recorded net fuel (.query q) s).symm, query_led (s := s.logged) net fuel q hd hstart⟩
  · intro s c hc allowed id
    have hseen : net.Seen net fun w => w := ⟨fun _ _ _ _ => rfl, fun _ _ _ => rfl, fun _ _ => rfl, fun _ _ => rfl⟩
    exact call_recast (g := ⟨fun w => w, fun _ => allowed, fun _ => id⟩) hseen fuel hc s

/-- b leads; a query that may be dirty goes to a, and one that may not goes to b, which is found first -/
theorem dirty_reads_routed_two_nodes :
    let s : Scene Cluster := ⟨.new .ofTwoNodes [], .start, (Cluster.ofNodes "c" ["a", "b"]).setMaster (some "b")⟩
    let q : Query := .keyExists "k".toUTF8
    let dirty := ((s.choose true "a").logged.call Cluster.network.recorded 2 (.query q)).2
    let clean := (s.logged.call Cluster.network.recorded 2 (.query q)).2
    (dirty.net.log.length = 3 ∧ ∀ d ∈ dirty.net.log, d.Pinned "a" (Request.encode (.query q true))) ∧
      (∃ later before r earlier, clean.net.log = later ++ .sent "b" (Request.encode (.query q false)) before r :: earlier ∧
        Resolved none "b" earlier) ∧
      (s.choose true "a").call Cluster.network 2 .getKeyCount =
        ((s.call Cluster.network 2 .getKeyCount).1, (s.call Cluster.network 2 .getKeyCount).2.choose true "a") := by
  intro s q
  obtain ⟨pinned, led, same⟩ := dirty_reads_routed Cluster.network 2
  obtain ⟨-, hpinned, -, -⟩ := pinned (s.choose true "a") q rfl
  obtain ⟨-, hled⟩ := led s q rfl
  have hrun : ((s.choose true "a").logged.call Cluster.network.recorded 2 (.query q)).2.net.log.length = 3 ∧
      (((s.logged.call Cluster.network.recorded 2 (.query q)).2.net.log.any fun
        | .sent k f _ _ => k = "b" && f = Request.encode (.query q false)
        | _ => false) = true) := by decide +kernel
  obtain ⟨hlength, hsent⟩ := hrun
  refine ⟨⟨hlength, hpinned⟩, ?_, same s .getKeyCount rfl true "a"⟩
  obtain ⟨d, hd, hb⟩ := List.any_eq_true.1 hsent
  obtain ⟨later, earlier, hlog⟩ := List.append_of_mem hd
  cases d with
  | sent k f before r =>
    obtain ⟨rfl, rfl⟩ : k = "b" ∧ f = Request.encode (.query q false) := by simpa using hb
    exact ⟨later, before, r, earlier, hlog, (hled later _ _ before r earlier hlog (encode_query_ne q false)).2⟩
  | connected | closed | ended => cases hb

end Scene

end ReplicaKV
