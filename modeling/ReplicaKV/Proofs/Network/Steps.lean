/-
Small facts about the steps of a client, used wherever its behaviour is followed.

- `attempts_eq`: one attempt, then the rest. `waited` is the scene in which it is made, `gaveUp` what a failure leaves.
- `dispatch_eq`, `rounds_succ`: accepted settings allow an attempt and name a node, and the channel with the reply stands
  in the table, so a request and a retry need not provide for their absence.
- `attempts_last`, `attempts_cases`, `dispatch_cases`: what failed attempts keep is kept until the one that succeeds, or
  to the end. `dispatch_keeps`: what every part of a request keeps, the request keeps. `channel_keeps`, `attempt_keeps`,
  `readReply_keeps`: the same for its parts.
- `exchange_of_location`, `exchange_of_unknown`: a request to a node of the client's, or to any other.
- `modest_exchange`: what a request leaves alone. `Clean`: nothing is left to read on any channel.
- `shuffledNodes_perm`: the order in which nodes are asked is a permutation of the client's nodes.
- `search_step`, `search_cases`: a search ends with the node that was asked last and named itself, or without a master;
  what every question keeps is kept until then.
- `findMaster_failed`: looking for the master fails only for want of one, and then the client believes in none.
-/
import ReplicaKV.Call
import ReplicaKV.Proofs.Settings

namespace ReplicaKV

theorem Config.mem_nodeIds_of_location {c : Config} {id : NodeId} {l : Location} (h : c.location? id = some l) :
    id ∈ c.nodeIds :=
  SortedMap.mem_keys_iff.2 ⟨l, h⟩

theorem Config.location_of_mem_nodeIds {c : Config} {id : NodeId} (h : id ∈ c.nodeIds) :
    ∃ l, c.location? id = some l :=
  SortedMap.mem_keys_iff.1 h

theorem Config.location_eq_none {c : Config} {id : NodeId} : c.location? id = none ↔ id ∉ c.nodeIds := by
  rw [nodeIds, SortedMap.mem_keys_iff, ← Option.isSome_iff_exists, Option.not_isSome_iff_eq_none]
  rfl

namespace Config

theorem acceptable (c : Config) : c.settings.terms.Acceptable := Settings.problem_eq_none.1 c.accepted

theorem nodes_isEmpty (c : Config) : c.settings.nodes.isEmpty = false := Settings.isEmpty_nodes.2 c.acceptable.nodes

theorem maxAttempts_ne_zero (c : Config) : c.settings.maxAttempts ≠ 0 := by
  intro h
  have hpos : 1 ≤ c.settings.maxAttempts := c.acceptable.attempts
  rw [h] at hpos
  exact absurd hpos (by decide)

end Config

/-- settings with two nodes -/
def Config.ofTwoNodes : Config where
  settings := ((Settings.initial "c").withNode "a" ⟨"h", 1⟩).withNode "b" ⟨"h", 2⟩
  accepted := by decide

namespace Client

theorem swap_perm {α : Type} (l : List α) (i j : Nat) : (swap l i j).Perm l := by
  unfold swap
  split
  · rename_i a b ha hb
    obtain ⟨hi, rfl⟩ := List.getElem?_eq_some_iff.1 ha
    obtain ⟨hj, rfl⟩ := List.getElem?_eq_some_iff.1 hb
    exact List.set_set_perm hi hj
  · exact .refl l

theorem shuffleFrom_perm (l : List NodeId) (i : Nat) (c : Client) : (shuffleFrom l i c).1.Perm l := by
  induction i generalizing l c with
  | zero => exact .refl l
  | succ i ih => exact (ih _ _).trans (swap_perm l (i + 1) _)

/-- drawing changes nothing but the draws to come -/
theorem shuffleFrom_client (l : List NodeId) (i : Nat) (c : Client) :
    ∃ draws, (shuffleFrom l i c).2 = { c with draws := draws } := by
  induction i generalizing l c with
  | zero => exact ⟨c.draws, rfl⟩
  | succ i ih => exact ih (swap l (i + 1) (c.draw (i + 1)).1) (c.draw (i + 1)).2

theorem shuffledNodes_perm (c : Client) : c.shuffledNodes.1.Perm c.config.nodeIds := shuffleFrom_perm _ _ c

theorem shuffledNodes_client (c : Client) : ∃ draws, c.shuffledNodes.2 = { c with draws := draws } :=
  shuffleFrom_client _ _ c

end Client

namespace Scene

variable {W : Type} {net : Network W} {id : NodeId} {s : Scene W}

/-- the scene in which attempt i is made -/
def waited (i : Nat) (s : Scene W) : Scene W := if i = 0 then s else s.pause i

/-- what a failed attempt leaves -/
def gaveUp (net : Network W) (id : NodeId) (s : Scene W) : Scene W := (s.evict net id).setMaster none

theorem attempts_eq (net : Network W) (id : NodeId) (l : Location) (frame : Bytes) (more i : Nat) (s : Scene W) :
    s.attempts net id l frame more i =
      match (s.waited i).attempt net id l frame with
      | (.ok ch, s) => (.ok ch, s)
      | (.error e, s) =>
        match more with
        | 0 => (.error e, s.gaveUp net id)
        | more + 1 => (s.gaveUp net id).attempts net id l frame more (i + 1) := by
  rw [attempts.eq_def]; rfl

/-- waiting changes the clock and the draws to come -/
theorem waited_eq (i : Nat) (s : Scene W) :
    ∃ draws clock, s.waited i = ⟨{ s.client with draws := draws }, clock, s.net⟩ := by
  rw [waited, pause]
  split_ifs
  · exact ⟨_, _, rfl⟩
  · exact ⟨_, _, rfl⟩
  · exact ⟨_, _, rfl⟩

theorem config_gaveUp (net : Network W) (id : NodeId) (s : Scene W) :
    (s.gaveUp net id).client.config = s.client.config := by
  rw [gaveUp, evict]; split <;> rfl

/-- attempts end with the first that succeeds, or with the last; what every failed attempt keeps is kept before it -/
theorem attempts_last {l : Location} {frame : Bytes} {R : Scene W → Scene W → Prop}
    (trans : ∀ s s' s'', R s s' → R s' s'' → R s s'') (hwait : ∀ i s, R s (s.waited i))
    (hfail : ∀ s e s', s.attempt net id l frame = (.error e, s') → R s (s'.gaveUp net id)) (more i : Nat)
    (s : Scene W) :
    (∃ s₁ e s₂, R s s₁ ∧ s₁.attempt net id l frame = (.error e, s₂) ∧
        s.attempts net id l frame more i = (.error e, s₂.gaveUp net id)) ∨
      ∃ s₁ ch s₂, R s s₁ ∧ s₁.attempt net id l frame = (.ok ch, s₂) ∧
        s.attempts net id l frame more i = (.ok ch, s₂) := by
  induction more generalizing i s with
  | zero =>
    rw [attempts_eq]
    cases ha : (s.waited i).attempt net id l frame with
    | mk r s₁ =>
      cases r with
      | ok ch => exact .inr ⟨_, ch, s₁, hwait i s, ha, rfl⟩
      | error e => exact .inl ⟨_, e, s₁, hwait i s, ha, rfl⟩
  | succ more ih =>
    rw [attempts_eq]
    cases ha : (s.waited i).attempt net id l frame with
    | mk r s₁ =>
      cases r with
      | ok ch => exact .inr ⟨_, ch, s₁, hwait i s, ha, rfl⟩
      | error e =>
        have hk : R s (s₁.gaveUp net id) := trans _ _ _ (hwait i s) (hfail _ e s₁ ha)
        rcases ih (i + 1) (s₁.gaveUp net id) with ⟨s₂, e', s₃, hr, ha', h⟩ | ⟨s₂, ch, s₃, hr, ha', h⟩
        · exact .inl ⟨s₂, e', s₃, trans _ _ _ hk hr, ha', h⟩
        · exact .inr ⟨s₂, ch, s₃, trans _ _ _ hk hr, ha', h⟩

/-- attempts all fail and the master is forgotten, or the last one succeeds -/
theorem attempts_cases {l : Location} {frame : Bytes} {R : Scene W → Scene W → Prop}
    (trans : ∀ s s' s'', R s s' → R s' s'' → R s s'') (hwait : ∀ i s, R s (s.waited i))
    (hfail : ∀ s e s', s.attempt net id l frame = (.error e, s') → R s (s'.gaveUp net id)) (more i : Nat)
    (s : Scene W) :
    (∃ e s', s.attempts net id l frame more i = (.error e, s') ∧ R s s' ∧ s'.client.master = none) ∨
      ∃ s₁ ch s', R s s₁ ∧ s₁.attempt net id l frame = (.ok ch, s') ∧
        s.attempts net id l frame more i = (.ok ch, s') := by
  rcases attempts_last trans hwait hfail more i s with ⟨s₁, e, s₂, hr, ha, h⟩ | h
  · exact .inl ⟨e, _, h, trans _ _ _ hr (hfail s₁ e s₂ ha), rfl⟩
  · exact .inr h

/-- after an attempt that succeeded, its channel stands in the table -/
theorem attempt_channel {l : Location} {frame : Bytes} {ch : Stream} {s' : Scene W}
    (h : s.attempt net id l frame = (.ok ch, s')) : s'.client.channels.get? id = some ch := by
  unfold attempt at h
  generalize s.channel net id l = x at h
  rcases x with ⟨e | ch₁, s₁⟩
  · cases h
  · simp only at h
    generalize net.send id frame s₁.net = y at h
    rcases y with ⟨e | d, w⟩
    · cases h
    · cases h
      simp only [setChannel, SortedMap.get?_insert, Std.compare_self, if_true]

/-- a client makes at least one attempt, and the reply is read from the channel on which the request was sent -/
theorem dispatch_eq (net : Network W) (id : NodeId) (l : Location) (frame : Bytes) {α : Type} (decode : Decoder α)
    (s : Scene W) :
    s.dispatch net id l frame decode =
      match s.attempts net id l frame (s.client.config.settings.maxAttempts.toNat - 1) 0 with
      | (.error e, s) => (.error (.transport id e), s)
      | (.ok ch, s) => s.readReply net id decode ch := by
  rw [dispatch, if_neg s.client.config.maxAttempts_ne_zero]
  rcases attempts_last (R := fun _ _ => True) (fun _ _ _ _ _ => trivial) (fun _ _ => trivial)
    (fun (s : Scene W) e s' (_ : s.attempt net id l frame = (.error e, s')) => trivial)
    (s.client.config.settings.maxAttempts.toNat - 1) 0 s with ⟨_, e, s', -, -, h⟩ | ⟨_, ch, s', -, ha, h⟩
  · simp only [h]
  · simp only [h, attempt_channel ha]

/-- a request is never sent and the master forgotten, or it is sent once and the reply is read -/
theorem dispatch_cases {l : Location} {frame : Bytes} {R : Scene W → Scene W → Prop}
    (trans : ∀ s s' s'', R s s' → R s' s'' → R s s'') (hwait : ∀ i s, R s (s.waited i))
    (hfail : ∀ s e s', s.attempt net id l frame = (.error e, s') → R s (s'.gaveUp net id)) {α : Type}
    (decode : Decoder α) (s : Scene W) :
    (∃ e s', s.dispatch net id l frame decode = (.error (.transport id e), s') ∧ R s s' ∧ s'.client.master = none) ∨
      ∃ s₁ ch s₂, R s s₁ ∧ s₁.attempt net id l frame = (.ok ch, s₂) ∧
        s.dispatch net id l frame decode = s₂.readReply net id decode ch := by
  rw [dispatch_eq]
  rcases attempts_cases trans hwait hfail (s.client.config.settings.maxAttempts.toNat - 1) 0 s with
    ⟨e, s', h, hr, hm⟩ | ⟨s₁, ch, s₂, hr, ha, h⟩
  · exact .inl ⟨e, s', by rw [h], hr, hm⟩
  · exact .inr ⟨s₁, ch, s₂, hr, ha, by rw [h]⟩

/-- what waiting, attempts and giving up keep, and reading the reply to an attempt that succeeded, a request keeps -/
theorem dispatch_keeps {l : Location} {frame : Bytes} {α : Type} {decode : Decoder α} {R : Scene W → Scene W → Prop}
    (trans : ∀ s s' s'', R s s' → R s' s'' → R s s'') (hwait : ∀ i s, R s (s.waited i))
    (hattempt : ∀ s, R s (s.attempt net id l frame).2) (hgaveUp : ∀ s, R s (s.gaveUp net id))
    (hread : ∀ (s : Scene W) ch s', s.attempt net id l frame = (.ok ch, s') → R s' (s'.readReply net id decode ch).2)
    (s : Scene W) : R s (s.dispatch net id l frame decode).2 := by
  have hfail : ∀ s e s', s.attempt net id l frame = (.error e, s') → R s (s'.gaveUp net id) := by
    intro s e s' ha
    have hs := hattempt s
    rw [ha] at hs
    exact trans _ _ _ hs (hgaveUp s')
  rcases dispatch_cases trans hwait hfail decode s with ⟨e, s', hd, hs, -⟩ | ⟨s₁, ch, s₂, hs, ha, hd⟩
  · rw [hd]
    exact hs
  · have hsent := hattempt s₁
    rw [ha] at hsent
    rw [hd]
    exact trans _ _ _ (trans _ _ _ hs hsent) (hread s₁ ch s₂ ha)

section

variable {l : Location} {frame : Bytes} {R : Scene W → Scene W → Prop}

/-- what connecting and storing a channel keep, making sure of a channel keeps -/
theorem channel_keeps (refl : ∀ s, R s s) (trans : ∀ s s' s'', R s s' → R s' s'' → R s s'')
    (hconnect : ∀ s, R s { s with net := (net.connect id l s.client.config.clusterId s.net).2 })
    (hstore : ∀ s ch, R s (s.setChannel id ch)) (s : Scene W) : R s (s.channel net id l).2 := by
  have hc := hconnect s
  unfold channel
  split
  · exact refl s
  · generalize net.connect id l s.client.config.clusterId s.net = x at hc ⊢
    rcases x with ⟨e | u, w⟩
    · exact hc
    · exact trans _ _ _ hc (hstore _ _)

/-- what connecting, sending and storing a channel keep, an attempt keeps -/
theorem attempt_keeps (refl : ∀ s, R s s) (trans : ∀ s s' s'', R s s' → R s' s'' → R s s'')
    (hconnect : ∀ s, R s { s with net := (net.connect id l s.client.config.clusterId s.net).2 })
    (hsend : ∀ s, R s { s with net := (net.send id frame s.net).2 })
    (hstore : ∀ s ch, R s (s.setChannel id ch)) (s : Scene W) : R s (s.attempt net id l frame).2 := by
  have hc := channel_keeps refl trans hconnect hstore s
  unfold attempt
  generalize s.channel net id l = x at hc ⊢
  rcases x with ⟨e | ch, s₁⟩
  · exact hc
  · have hs := trans _ _ _ hc (hsend s₁)
    simp only
    generalize net.send id frame s₁.net = y at hs ⊢
    rcases y with ⟨e | d, w⟩
    · exact hs
    · exact trans _ _ _ hs (hstore _ _)

/-- what storing a channel and giving it up keep, reading a reply keeps -/
theorem readReply_keeps (hstore : ∀ s ch, R s (s.setChannel id ch)) (hgaveUp : ∀ s, R s (s.gaveUp net id))
    {α : Type} (decode : Decoder α) (ch : Stream) (s : Scene W) : R s (s.readReply net id decode ch).2 := by
  unfold readReply
  split
  · exact hstore s _
  · exact hstore s _
  · exact hgaveUp s

end

/-- a first attempt that succeeds is the only one -/
theorem dispatch_of_attempt {l : Location} {frame : Bytes} {ch : Stream} {s' : Scene W}
    (h : s.attempt net id l frame = (.ok ch, s')) {α : Type} (decode : Decoder α) :
    s.dispatch net id l frame decode = s'.readReply net id decode ch := by
  have hw : s.waited 0 = s := if_pos rfl
  rw [dispatch_eq, attempts_eq, hw, h]

/-- a request to a node of the client's is dispatched, and how it ended is noted -/
theorem exchange_of_location {l : Location} (hl : s.client.config.location? id = some l) (frame : Bytes)
    (shape : Shape) :
    s.exchange net id frame shape = ((s.dispatch net id l frame (Reply.decoder shape)).1,
      { (s.dispatch net id l frame (Reply.decoder shape)).2 with
        net := net.note ⟨id, frame, shape, (s.dispatch net id l frame (Reply.decoder shape)).1⟩
          (s.dispatch net id l frame (Reply.decoder shape)).2.net }) := by
  simp only [exchange, hl]

theorem exchange_of_unknown (hl : s.client.config.location? id = none) (frame : Bytes) (shape : Shape) :
    s.exchange net id frame shape = (.error (.unknownNode id), s) := by
  simp only [exchange, hl]

/-- what a request to a node at a known place and its note keep, a request keeps -/
theorem exchange_keeps {frame : Bytes} {shape : Shape} {R : Scene W → Scene W → Prop} (refl : R s s)
    (trans : ∀ s s' s'', R s s' → R s' s'' → R s s'') (hnote : ∀ s n, R s { s with net := net.note n s.net })
    (hdispatch : ∀ l, s.client.config.location? id = some l → R s (s.dispatch net id l frame (Reply.decoder shape)).2) :
    R s (s.exchange net id frame shape).2 := by
  cases hl : s.client.config.location? id with
  | none =>
    rw [exchange_of_unknown hl]
    exact refl
  | some l =>
    rw [exchange_of_location hl]
    exact trans _ _ _ (hdispatch l hl) (hnote _ _)

/-! ## What a request leaves alone -/

/-- the settings and the choice of dirty reads stay; the master stays, or is forgotten -/
structure Modest (s s' : Scene W) : Prop where
  config : s'.client.config = s.client.config
  dirtyReads : s'.client.dirtyReads = s.client.dirtyReads
  master : s'.client.master = none ∨ s'.client.master = s.client.master

theorem Modest.refl (s : Scene W) : Modest s s := ⟨rfl, rfl, .inr rfl⟩

theorem Modest.trans {s s' s'' : Scene W} (h : Modest s s') (h' : Modest s' s'') : Modest s s'' :=
  ⟨h'.config.trans h.config, h'.dirtyReads.trans h.dirtyReads,
    h'.master.elim .inl fun hm => hm ▸ h.master⟩

theorem modest_gaveUp (net : Network W) (id : NodeId) (s : Scene W) : Modest s (s.gaveUp net id) := by
  rw [gaveUp, evict]
  split <;> exact ⟨rfl, rfl, .inl rfl⟩

theorem modest_attempt (net : Network W) (id : NodeId) (l : Location) (frame : Bytes) (s : Scene W) :
    Modest s (s.attempt net id l frame).2 :=
  attempt_keeps .refl (fun _ _ _ => .trans) (fun _ => ⟨rfl, rfl, .inr rfl⟩) (fun _ => ⟨rfl, rfl, .inr rfl⟩)
    (fun _ _ => ⟨rfl, rfl, .inr rfl⟩) s

theorem modest_readReply (net : Network W) (id : NodeId) {α : Type} (decode : Decoder α) (ch : Stream) (s : Scene W) :
    Modest s (s.readReply net id decode ch).2 :=
  readReply_keeps (fun _ _ => ⟨rfl, rfl, .inr rfl⟩) (modest_gaveUp net id) decode ch s

theorem modest_waited (i : Nat) (s : Scene W) : Modest s (s.waited i) := by
  obtain ⟨draws, clock, hw⟩ := waited_eq i s
  rw [hw]
  exact ⟨rfl, rfl, .inr rfl⟩

theorem modest_failed {l : Location} {frame : Bytes} (s : Scene W) (e : Fault) (s' : Scene W)
    (h : s.attempt net id l frame = (.error e, s')) : Modest s (s'.gaveUp net id) := by
  have hs := modest_attempt net id l frame s
  rw [h] at hs
  exact hs.trans (modest_gaveUp net id s')

theorem modest_attempts (net : Network W) (id : NodeId) (l : Location) (frame : Bytes) (more i : Nat) (s : Scene W) :
    Modest s (s.attempts net id l frame more i).2 := by
  rcases attempts_cases (R := Modest) (fun _ _ _ => .trans) modest_waited modest_failed more i s with
    ⟨e, s', ha, hm, -⟩ | ⟨s₁, ch, s₂, hm, ha, hd⟩
  · rw [ha]
    exact hm
  · have hs := modest_attempt net id l frame s₁
    rw [ha] at hs
    rw [hd]
    exact hm.trans hs

theorem modest_dispatch (net : Network W) (id : NodeId) (l : Location) (frame : Bytes) {α : Type} (decode : Decoder α)
    (s : Scene W) : Modest s (s.dispatch net id l frame decode).2 := by
  have hm := modest_attempts net id l frame (s.client.config.settings.maxAttempts.toNat - 1) 0 s
  rw [dispatch_eq]
  generalize s.attempts net id l frame (s.client.config.settings.maxAttempts.toNat - 1) 0 = x at hm ⊢
  rcases x with ⟨e | ch, s₁⟩
  · exact hm
  · exact hm.trans (modest_readReply net id decode ch s₁)

theorem modest_exchange (net : Network W) (id : NodeId) (frame : Bytes) (shape : Shape) (s : Scene W) :
    Modest s (s.exchange net id frame shape).2 :=
  exchange_keeps (.refl s) (fun _ _ _ => .trans) (fun _ _ => ⟨rfl, rfl, .inr rfl⟩)
    fun l _ => modest_dispatch net id l frame (Reply.decoder shape) s

/-- a master that is not known stays unknown -/
theorem Modest.unknown {s s' : Scene W} (h : Modest s s') (hnone : s.client.master = none) : s'.client.master = none :=
  h.master.elim (·) (·.trans hnone)

/-! ## Rounds -/

/-- the next round of an action: a client always has a node to retry at -/
theorem rounds_succ {α : Type} (net : Network W) (b : Backoff) (deadline : Duration) (action : Act W α) (fuel i : Nat)
    (s : Scene W) :
    s.rounds net b deadline action (fuel + 1) i =
      match action s with
      | (.ok v, s) => (some (.ok v), s)
      | (.error e, s) =>
        if e.losesMaster then
          let s := (s.reset net).askTime
          if s.clock.broken then (none, s)
          else if deadline < s.clock.elapsed + b.pause i then (some (.error e), s)
          else (s.sleep (b.pause i)).rounds net b deadline action fuel (min (i + 1) 0xffffffff)
        else (some (.error e), s) := by
  rw [rounds]
  rcases action s with ⟨e | v, s₁⟩
  · simp only [Config.nodes_isEmpty, Bool.false_eq_true, if_false]
  · rfl

/-! ## Channels with nothing left to read -/

/-- nothing is left to read on any channel -/
def Clean {W : Type} (s : Scene W) : Prop := ∀ id ch, s.client.channels.get? id = some ch → ch.left = 0

theorem Clean.setChannel (h : s.Clean) (id : NodeId) {ch : Stream} (hch : ch.left = 0) :
    (s.setChannel id ch).Clean := by
  intro k x hx
  simp only [Scene.setChannel, SortedMap.get?_insert] at hx
  split_ifs at hx
  · cases hx; exact hch
  · exact h k x hx

theorem Clean.evict (h : s.Clean) (net : Network W) (id : NodeId) : (s.evict net id).Clean := by
  unfold Scene.evict
  split
  · exact h
  · intro k x hx
    simp only [SortedMap.get?_erase] at hx
    split_ifs at hx
    exact h k x hx

theorem clean_closeAll (net : Network W) (s : Scene W) : (s.closeAll net).Clean := fun _ _ h => nomatch h

/-! ## Looking for the master -/

/-- a master that is not known is searched for among all nodes, in some order -/
theorem findMaster_of_none (net : Network W) (h : s.client.master = none) :
    ∃ draws, s.findMaster net =
      search net s.client.shuffledNodes.1 ⟨{ s.client with draws := draws }, s.clock, s.net⟩ := by
  obtain ⟨draws, hd⟩ := s.client.shuffledNodes_client
  refine ⟨draws, ?_⟩
  rw [← hd]
  simp only [findMaster, h]

theorem findMaster_of_some {m : NodeId} (h : s.client.master = some m) : s.findMaster net = (.ok m, s) := by
  simp only [findMaster, h]

section

variable {R : Scene W → Scene W → Prop}

/-- the first node of a search names itself, or another one that does; or it does not, and the search goes on -/
theorem search_step (refl : ∀ s, R s s) (trans : ∀ s s' s'', R s s' → R s' s'' → R s s'')
    (hask : ∀ id s, R s (s.askMaster net id).2) (id : NodeId) (rest : List NodeId) (s : Scene W) :
    (∃ m s₁ s₂, R s s₁ ∧ s₁.askMaster net m = (.ok (some m), s₂) ∧
        s.search net (id :: rest) = (.ok m, s₂.setMaster (some m))) ∨
      ∃ s', R s s' ∧ (s.askMaster net id).1 ≠ .ok (some id) ∧ s.search net (id :: rest) = s'.search net rest := by
  have hr := hask id s
  simp only [search]
  cases ha : s.askMaster net id with
  | mk answer s₁ =>
    rw [ha] at hr
    rcases answer with e | _ | claimed
    · exact .inr ⟨s₁, hr, (fun h => nomatch h), rfl⟩
    · exact .inr ⟨s₁, hr, (fun h => nomatch h), rfl⟩
    · by_cases hself : claimed = id
      · subst hself
        exact .inl ⟨claimed, s, s₁, refl s, ha, if_pos rfl⟩
      · -- the node names another one, which is asked in turn
        have hne : (.ok (some claimed) : Except Failure (Option NodeId)) ≠ .ok (some id) := fun h =>
          hself (Option.some.inj (Except.ok.inj h))
        have hr' := trans _ _ _ hr (hask claimed s₁)
        simp only [if_neg hself]
        cases hb : s₁.askMaster net claimed with
        | mk answer s₂ =>
          rw [hb] at hr'
          rcases answer with e | _ | confirmed
          · exact .inr ⟨s₂, hr', hne, rfl⟩
          · exact .inr ⟨s₂, hr', hne, rfl⟩
          · by_cases hconf : confirmed = claimed
            · subst hconf
              exact .inl ⟨confirmed, s₁, s₂, hr, hb, if_pos rfl⟩
            · exact .inr ⟨s₂, hr', hne, if_neg hconf⟩

/-- a search ends with the node that was asked last and named itself; or without a master, and then no node named itself
when it was asked. What every question keeps is kept until then -/
theorem search_cases (refl : ∀ s, R s s) (trans : ∀ s s' s'', R s s' → R s' s'' → R s s'')
    (hask : ∀ id s, R s (s.askMaster net id).2) (ids : List NodeId) (s : Scene W) :
    (∃ m s₁ s₂, R s s₁ ∧ s₁.askMaster net m = (.ok (some m), s₂) ∧
        s.search net ids = (.ok m, s₂.setMaster (some m))) ∨
      ∃ s', R s s' ∧ (∀ id ∈ ids, ∃ s₁, R s s₁ ∧ (s₁.askMaster net id).1 ≠ .ok (some id)) ∧
        s.search net ids = (.error .noMaster, s') := by
  induction ids generalizing s with
  | nil => exact .inr ⟨s, refl s, (fun id h => nomatch h), rfl⟩
  | cons id rest ih =>
    rcases search_step refl trans hask id rest s with h | ⟨s', hr, hne, hs⟩
    · exact .inl h
    · rw [hs]
      rcases ih s' with ⟨m, s₁, s₂, hr', ha, he⟩ | ⟨s'', hr', hno, he⟩
      · exact .inl ⟨m, s₁, s₂, trans _ _ _ hr hr', ha, he⟩
      · refine .inr ⟨s'', trans _ _ _ hr hr', fun k hk => ?_, he⟩
        rcases List.mem_cons.1 hk with rfl | hk
        · exact ⟨s, refl s, hne⟩
        · obtain ⟨s₁, hr₁, hk⟩ := hno k hk
          exact ⟨s₁, trans _ _ _ hr hr₁, hk⟩

end

/-- a search fails only for want of a master, and leaves none -/
theorem search_failed {f : Failure} (ids : List NodeId) (hnone : s.client.master = none)
    (h : (s.search net ids).1 = .error f) : f = .noMaster ∧ (s.search net ids).2.client.master = none := by
  rcases search_cases (R := Modest) .refl (fun _ _ _ => .trans) (fun id s => modest_exchange net id _ _ s) ids s with
    ⟨m, s₁, s₂, -, -, hs⟩ | ⟨s', hm, -, hs⟩
  · rw [hs] at h
    cases h
  · rw [hs] at h ⊢
    cases h
    exact ⟨rfl, hm.unknown hnone⟩

theorem findMaster_failed {f : Failure} (h : (s.findMaster net).1 = .error f) :
    f = .noMaster ∧ (s.findMaster net).2.client.master = none := by
  cases hm : s.client.master with
  | some m =>
    rw [findMaster_of_some hm] at h
    cases h
  | none =>
    obtain ⟨draws, hd⟩ := findMaster_of_none net hm
    rw [hd] at h ⊢
    exact search_failed _ hm h

end Scene

end ReplicaKV
