/-
A range read in pages. The first request asks for at most n items of a range, every later one for at most n that stand
behind the last item of the page before; a page that is not full is the last one.

- `pages`: the pages that come back, whatever answers the requests.
- `Cursor`: a range that is resumed behind one of its items has the items behind it, in either direction
  (`cursor_span`). `pages_of_cursor`: then pages lose nothing and repeat nothing.
- `AnswersFrom`: a node answers queries from a store. `Cluster.answered`: what it answers, limits being read as they
  arrive.
- `paging_exact`: so it is for the three reads of a range, as long as the store stays, and what they add up to are the
  entries of the store that lie within the range.
-/
import ReplicaKV.Proofs.Cluster.Gate
import ReplicaKV.Proofs.Ranges

namespace ReplicaKV

namespace KeyRange

/-- no more than n of the range -/
def upTo (r : KeyRange) (n : UInt32) : KeyRange := { r with limit := some n }

/-- the range to go on with behind a key; the other bound stays where it is -/
def behind (r : KeyRange) (k : Bytes) : KeyRange := { r with first := some k, firstInclusive := false }

theorem upTo_clamped {n : UInt32} (h : n ≤ limitMax) (r : KeyRange) : (r.upTo n).clamped = r.upTo n := by
  have hn : ¬limitMax < n := UInt32.not_lt.2 h
  simp only [clamped, upTo, clampLimit, if_neg hn]

end KeyRange

/-! ## Pages -/

section

variable {α : Type}

/-- the pages of a range, page i being what `ask i` answers; none if a request is not answered, or if `most` requests do
not get to the end -/
def pages (ask : Nat → KeyRange → Option (List α)) (key : α → Bytes) (n : UInt32) :
    (most i : Nat) → KeyRange → Option (List (List α))
  | 0, _, _ => none
  | most + 1, i, r =>
    match ask i (r.upTo n) with
    | none => none
    | some page =>
      if page.length < n.toNat then some [page]
      else
        match page.getLast? with
        | none => none
        | some x => (pages ask key n most (i + 1) (r.behind (key x))).map (page :: ·)

/-- a range that is resumed behind one of its items has the items behind it -/
def Cursor (items : KeyRange → List α) (key : α → Bytes) : Prop :=
  ∀ r front x back, items r = front ++ x :: back → items (r.behind (key x)) = back

theorem Cursor.map {β : Type} {items : KeyRange → List α} {key : β → Bytes} {f : α → β}
    (h : Cursor items fun a => key (f a)) : Cursor (fun r => (items r).map f) key := by
  intro r front b back hr
  obtain ⟨front', rest, hitems, -, hrest⟩ := List.map_eq_append_iff.1 hr
  obtain ⟨x, back', rfl, rfl, rfl⟩ := List.map_eq_cons_iff.1 hrest
  exact congrArg (List.map f) (h r front' x back' hitems)

/-- a full page ends in an item, and the items behind it are those that it left out -/
theorem full_page {l : List α} {n : Nat} (hpos : 0 < n) (hn : n ≤ l.length) :
    ∃ front x, (l.take n).getLast? = some x ∧ l = front ++ x :: l.drop n := by
  have hne : l.take n ≠ [] := by
    intro h
    have := congrArg List.length h
    rw [List.length_take, Nat.min_eq_left hn, List.length_nil] at this
    omega
  refine ⟨(l.take n).dropLast, (l.take n).getLast hne, List.getLast?_eq_some_getLast hne, ?_⟩
  calc l
    _ = l.take n ++ l.drop n := (List.take_append_drop n l).symm
    _ = ((l.take n).dropLast ++ [(l.take n).getLast hne]) ++ l.drop n := by rw [List.dropLast_append_getLast]
    _ = (l.take n).dropLast ++ (l.take n).getLast hne :: l.drop n := List.append_cons .. |>.symm

/-- **Pages lose nothing and repeat nothing**, where every request is answered with the first items of its range. There
is one more of them than the items fill. -/
theorem pages_of_cursor {items : KeyRange → List α} {key : α → Bytes} {n : UInt32} (hc : Cursor items key)
    {ask : Nat → KeyRange → Option (List α)} (hask : ∀ i r, ask i (r.upTo n) = some ((items r).take n.toNat))
    (hn : 0 < n.toNat) (i : Nat) (r : KeyRange) :
    ∃ ps, pages ask key n ((items r).length / n.toNat + 1) i r = some ps ∧ ps.flatten = items r ∧
      ps.length = (items r).length / n.toNat + 1 := by
  -- on the number of full pages that are still to come
  induction hm : (items r).length / n.toNat generalizing i r with
  | zero =>
    have hlt : (items r).length < n.toNat := Nat.lt_of_div_eq_zero hn hm
    have hall : (items r).take n.toNat = items r := List.take_of_length_le (Nat.le_of_lt hlt)
    refine ⟨[items r], ?_, List.flatten_singleton .., rfl⟩
    simp only [pages, hask, hall, if_pos hlt]
  | succ m ih =>
    have hle : n.toNat ≤ (items r).length := by
      by_contra hlt
      rw [Nat.div_eq_of_lt (Nat.lt_of_not_le hlt)] at hm
      cases hm
    obtain ⟨front, x, hlast, hsplit⟩ := full_page hn hle
    have hback : items (r.behind (key x)) = (items r).drop n.toNat := hc r front x _ hsplit
    have hrest : (items (r.behind (key x))).length / n.toNat = m := by
      have hdiv := Nat.div_eq_sub_div hn hle
      rw [hback, List.length_drop]
      omega
    obtain ⟨ps, hps, hflatten, hlength⟩ := ih (i + 1) (r.behind (key x)) hrest
    have hfull : ¬((items r).take n.toNat).length < n.toNat := by
      rw [List.length_take, Nat.min_eq_left hle]
      exact Nat.lt_irrefl _
    refine ⟨(items r).take n.toNat :: ps, ?_, ?_, ?_⟩
    · rw [pages, hask]
      simp only [if_neg hfull, hlast, hps, Option.map_some]
    · rw [List.flatten_cons, hflatten, hback, List.take_append_drop]
    · rw [List.length_cons, hlength]

end

/-! ## Ranges are cursors -/

/-- a way to go through keys: what comes behind the start comes behind it still, later on -/
structure Course (order : Bool → Bytes → Bytes → Bool) : Prop where
  trans : ∀ {inclusive a b c}, order inclusive a b → order false b c → order inclusive a c
  asymm : ∀ {a b}, order false a b → ¬order false b a

theorem course_up : Course Shared.precedes where
  trans {inclusive a b c} hab hbc := by
    have hlt : b.list < c.list := by simpa using precedes_iff.1 hbc
    rcases precedes_iff.1 hab with h | ⟨-, rfl⟩
    · exact precedes_iff.2 (.inl (List.lt_trans h hlt))
    · exact precedes_iff.2 (.inl hlt)
  asymm {a b} hab hba := by
    have hlt : a.list < b.list := by simpa using precedes_iff.1 hab
    have hgt : b.list < a.list := by simpa using precedes_iff.1 hba
    exact List.lt_asymm hlt hgt

theorem course_down : Course fun inclusive a b => Shared.precedes inclusive b a where
  trans {inclusive a b c} hab hbc := by
    have hlt : c.list < b.list := by simpa using precedes_iff.1 hbc
    rcases precedes_iff.1 hab with h | ⟨-, rfl⟩
    · exact precedes_iff.2 (.inl (List.lt_trans hlt h))
    · exact precedes_iff.2 (.inl hlt)
  asymm hab hba := course_up.asymm hab hba

/-- the entries from the first bound to the last one, on a way through them -/
def span (order : Bool → Bytes → Bytes → Bool) (l : List (Bytes × Bytes)) (r : KeyRange) : List (Bytes × Bytes) :=
  l.filter fun p => r.first.all (order r.firstInclusive · p.1) && r.last.all (order r.lastInclusive p.1 ·)

theorem cursor_span {order : Bool → Bytes → Bytes → Bool} (ho : Course order) {l : List (Bytes × Bytes)}
    (hl : l.Pairwise fun p q => order false p.1 q.1) : Cursor (span order l) Prod.fst := by
  intro r front x back hr
  have hsorted : (front ++ x :: back).Pairwise fun p q => order false p.1 q.1 := hr ▸ hl.filter _
  have hx : r.first.all (order r.firstInclusive · x.1) := by
    have hmem : x ∈ span order l r := by rw [hr]; simp
    exact (Bool.and_eq_true_iff.1 (List.mem_filter.1 hmem).2).1
  obtain ⟨-, hback, hfront⟩ := List.pairwise_append.1 hsorted
  calc span order l (r.behind x.1)
    _ = (span order l r).filter fun p => order false x.1 p.1 := by
      -- what is behind x is behind the first bound
      rw [span, span, List.filter_filter]
      apply List.filter_congr
      intro p _
      by_cases hp : order false x.1 p.1
      · have hpast : r.first.all (order r.firstInclusive · p.1) :=
          (Option.all_eq_true ..).2 fun b hb => ho.trans ((Option.all_eq_true ..).1 hx b hb) hp
        simp [KeyRange.behind, hp, hpast]
      · simp [KeyRange.behind, hp]
    _ = (front ++ x :: back).filter fun p => order false x.1 p.1 := by rw [hr]
    _ = back := by
      have hnone : front.filter (fun p => order false x.1 p.1) = [] :=
        List.filter_eq_nil_iff.2 fun p hp => ho.asymm (hfront p hp x List.mem_cons_self)
      have hself : ¬order false x.1 x.1 := fun h => ho.asymm h h
      have hall : back.filter (fun p => order false x.1 p.1) = back :=
        List.filter_eq_self.2 fun p hp => List.rel_of_pairwise_cons hback hp
      rw [List.filter_append, hnone, List.nil_append, List.filter_cons, if_neg hself, hall]

namespace Store

variable (s : Store)

def up : KeyRange → List (Bytes × Bytes) := span Shared.precedes s.entries

def down : KeyRange → List (Bytes × Bytes) := span (fun inclusive a b => Shared.precedes inclusive b a) s.entries.reverse

theorem cursor_up : Cursor s.up Prod.fst :=
  cursor_span course_up (s.entries_ordered.imp fun h => precedes_iff.2 (.inl h))

theorem cursor_down : Cursor s.down Prod.fst :=
  cursor_span course_down (List.pairwise_reverse.2 (s.entries_ordered.imp fun h => precedes_iff.2 (.inl h)))

theorem ascending_up (r : KeyRange) : s.ascending r = Shared.atMost r.limit (s.up r) := s.ascending_eq r

/-- the way down is the way up between the exchanged bounds, back -/
theorem down_eq (r : KeyRange) : s.down r =
    (s.entries.filter fun p => Shared.between r.last r.lastInclusive r.first r.firstInclusive p.1).reverse := by
  rw [down, span, List.filter_reverse]
  simp only [Shared.between, Bool.and_comm]

theorem descending_down (r : KeyRange) : s.descending r = Shared.atMost r.limit (s.down r) := by
  rw [descending_eq, down_eq]

theorem enumerates_up (r : KeyRange) :
    Enumerates s (Within r.first r.firstInclusive r.last r.lastInclusive) (· < ·) (s.up r) :=
  s.enumerates_filter r.first r.last r.firstInclusive r.lastInclusive

theorem enumerates_down (r : KeyRange) :
    Enumerates s (Within r.last r.lastInclusive r.first r.firstInclusive) (· > ·) (s.down r) := by
  rw [down_eq]
  exact (s.enumerates_filter r.last r.first r.lastInclusive r.firstInclusive).reverse

end Store

/-! ## Pages of a node -/

namespace Cluster

variable {c : Cluster} {id : NodeId} {dirty : Bool} {s : Store}

/-- node id answers queries, and from store s -/
def AnswersFrom (c : Cluster) (id : NodeId) (dirty : Bool) (s : Store) : Prop :=
  ∃ n, c.nodes.get? id = some n ∧ (dirty = true ∨ n.belief = some id) ∧ n.store = s

/-- what node id answers to a query as it arrives, if it does -/
def answered (c : Cluster) (id : NodeId) (dirty : Bool) (q : Query) : Option q.clamped.shape.Value :=
  match c.nodes.get? id with
  | none => none
  | some n => (c.respond id n (.query q.clamped dirty)).1.toOption

theorem AnswersFrom.answered (h : c.AnswersFrom id dirty s) (q : Query) :
    c.answered id dirty q = (s.answer q.clamped).toOption := by
  obtain ⟨n, hn, hserves, rfl⟩ := h
  have hcond : (dirty || decide (n.belief = some id)) = true := by simpa using hserves
  rw [Cluster.answered, hn]
  simp only [respond, if_pos hcond]
  rfl

theorem AnswersFrom.ascending (h : c.AnswersFrom id dirty s) (r : KeyRange) :
    c.answered id dirty (.rangeEntries r) = some (Shared.atMost (clampLimit r.limit) (s.up r)) := by
  rw [h.answered]
  exact congrArg some (s.ascending_up r.clamped)

theorem AnswersFrom.descending (h : c.AnswersFrom id dirty s) (r : KeyRange) :
    c.answered id dirty (.revRangeEntries r) = some (Shared.atMost (clampLimit r.limit) (s.down r)) := by
  rw [h.answered]
  exact congrArg some (s.descending_down r.clamped)

theorem AnswersFrom.keys (h : c.AnswersFrom id dirty s) (r : KeyRange) :
    c.answered id dirty (.range r) = some (Shared.atMost (clampLimit r.limit) ((s.up r).map Prod.fst)) := by
  have hkeys : (s.ascending r.clamped).map Prod.fst = Shared.atMost (clampLimit r.limit) ((s.up r).map Prod.fst) := by
    rw [s.ascending_up, Store.map_atMost]
    rfl
  rw [h.answered]
  exact congrArg some hkeys

/-- a query leaves the store that it is answered from -/
theorem AnswersFrom.receive (h : c.AnswersFrom id dirty s) {q : Query} {n : Node} (hn : c.nodes.get? id = some n)
    (hfit : (Request.query q dirty).body.size ≤ Frame.sizeLimit) :
    (∃ outcome, (c.receive id n (Request.query q dirty).encode).1 = Reply.encode q.clamped.shape outcome ∧
        c.answered id dirty q = outcome.toOption) ∧
      (c.receive id n (Request.query q dirty).encode).2.AnswersFrom id dirty s := by
  have hframe : Request.ofFrame? (Request.query q dirty).encode = some (.query q.clamped dirty) := by
    obtain ⟨x, hx, -⟩ := Request.decode_encode hfit (Request.rest_encode _)
    rw [Request.ofFrame?, hx]
    rfl
  rw [receive_request_frame hframe]
  have hquiet : Quiet c ((c.counted id).respond id n (.query q.clamped dirty)).2 :=
    (quiet_counted c id).trans (quiet_respond _ id n _ fun cmd hcmd => nomatch hcmd)
  refine ⟨⟨_, rfl, ?_⟩, ?_⟩
  · rw [Cluster.answered, hn]
    simp only [respond]
    split_ifs <;> rfl
  · obtain ⟨m, hm, hserves, hstore⟩ := h
    obtain ⟨m', hm', hst⟩ := hquiet.node' hm
    refine ⟨m', hm', ?_, ?_⟩
    · rwa [show m'.belief = m.belief from congrArg Standing.belief hst]
    · rw [← hstore]
      exact congrArg Standing.store hst

end Cluster

/-- without a limit `whole` is answered; pages of n items get to an end, and joined they are the same. One more is asked
for than the items fill. -/
def Lossless {α : Type} (ask : Nat → KeyRange → Option (List α)) (key : α → Bytes) (n : UInt32) (r : KeyRange)
    (whole : List α) : Prop :=
  (∀ i, ask i r = some whole) ∧ ∃ ps, pages ask key n (whole.length / n.toNat + 1) 0 r = some ps ∧ ps.flatten = whole ∧
    ps.length = whole.length / n.toNat + 1

theorem lossless_of_cursor {α : Type} {items : KeyRange → List α} {key : α → Bytes} (hc : Cursor items key)
    {ask : Nat → KeyRange → Option (List α)}
    (hask : ∀ i r, ask i r = some (Shared.atMost (clampLimit r.limit) (items r)))
    (hlimit : ∀ r n, items (r.upTo n) = items r) {r : KeyRange} (hr : r.limit = none) {n : UInt32} (hn : 1 ≤ n)
    (hmax : n ≤ limitMax) : Lossless ask key n r (items r) := by
  have hpage : ∀ i r, ask i (r.upTo n) = some ((items r).take n.toNat) := by
    intro i r
    have hclamp : clampLimit (r.upTo n).limit = some n := congrArg KeyRange.limit (KeyRange.upTo_clamped hmax r)
    rw [hask, hclamp, hlimit]
    rfl
  have hpos : 0 < n.toNat := UInt32.le_iff_toNat_le.1 hn
  obtain ⟨ps, hps, hflatten, hlength⟩ := pages_of_cursor hc hpage hpos 0 r
  refine ⟨?_, ps, hps, hflatten, hlength⟩
  intro i
  rw [hask, hr]
  rfl

/-- **Paging loses nothing and repeats nothing.** Node id answers from store s whenever a page is asked for, whatever else
becomes of the cluster from one page to the next. Then the pages of any range, ascending, descending or of keys only, get
to an end after one request more than the matches fill. Joined they are what one request without a limit is answered, and
that are the entries of s within the bounds, all of them and in order. So it is for requests as they arrive: a frame that
is not too large is read as its request, the reply has that answer, and the store is there for the next one. -/
theorem paging_exact {c : Nat → Cluster} {id : NodeId} {dirty : Bool} {s : Store}
    (h : ∀ i, (c i).AnswersFrom id dirty s) {r : KeyRange} (hr : r.limit = none) {n : UInt32} (hn : 1 ≤ n)
    (hmax : n ≤ limitMax) :
    (∃ up down,
      Enumerates s (Within r.first r.firstInclusive r.last r.lastInclusive) (· < ·) up ∧
      Enumerates s (Within r.last r.lastInclusive r.first r.firstInclusive) (· > ·) down ∧
      Lossless (fun i r => (c i).answered id dirty (.rangeEntries r)) Prod.fst n r up ∧
      Lossless (fun i r => (c i).answered id dirty (.revRangeEntries r)) Prod.fst n r down ∧
      Lossless (fun i r => (c i).answered id dirty (.range r)) (fun k => k) n r (up.map Prod.fst)) ∧
    ∀ (i : Nat) (q : Query) (m : Node), (c i).nodes.get? id = some m →
      (Request.query q dirty).body.size ≤ Frame.sizeLimit →
      (∃ outcome, ((c i).receive id m (Request.query q dirty).encode).1 = Reply.encode q.clamped.shape outcome ∧
          (c i).answered id dirty q = outcome.toOption) ∧
        ((c i).receive id m (Request.query q dirty).encode).2.AnswersFrom id dirty s := by
  have hkeys : Cursor (fun r => (s.up r).map Prod.fst) fun k : Bytes => k := Cursor.map s.cursor_up
  refine ⟨⟨s.up r, s.down r, s.enumerates_up r, s.enumerates_down r, ?_, ?_, ?_⟩,
    fun i q m hm hfit => (h i).receive hm hfit⟩
  · exact lossless_of_cursor s.cursor_up (fun i r => (h i).ascending r) (fun _ _ => rfl) hr hn hmax
  · exact lossless_of_cursor s.cursor_down (fun i r => (h i).descending r) (fun _ _ => rfl) hr hn hmax
  · exact lossless_of_cursor hkeys (fun i r => (h i).keys r) (fun _ _ => rfl) hr hn hmax

/-- two full pages, behind which nothing is left -/
theorem paging_exact_full_pages :
    let s : Store := .ofList [(⟨#[1]⟩, ⟨#[7]⟩), (⟨#[2]⟩, ⟨#[]⟩), (⟨#[2, 0]⟩, ⟨#[7]⟩), (⟨#[255]⟩, ⟨#[9]⟩)]
    let c : Cluster := ⟨"c", .ofList [("a", { Node.fresh with store := s })], .zero, []⟩
    (∀ _ : Nat, c.AnswersFrom "a" true s) ∧ KeyRange.all.limit = none ∧ (1 : UInt32) ≤ 2 ∧ 2 ≤ limitMax ∧
      ((pages (fun _ r => c.answered "a" true (.rangeEntries r)) Prod.fst 2 3 0 .all).map (List.map List.length) =
        some [2, 2, 0]) ∧
      ∃ up down, Enumerates s (Within none false none false) (· < ·) up ∧
        Enumerates s (Within none false none false) (· > ·) down ∧
        Lossless (fun _ r => c.answered "a" true (.rangeEntries r)) Prod.fst 2 .all up ∧
        Lossless (fun _ r => c.answered "a" true (.revRangeEntries r)) Prod.fst 2 .all down ∧
        Lossless (fun _ r => c.answered "a" true (.range r)) (fun k => k) 2 .all (up.map Prod.fst) := by
  intro s c
  have hn : c.nodes.get? "a" = some { Node.fresh with store := s } := by
    simp [c, SortedMap.ofList, SortedMap.get?_insert]
  have h : ∀ _ : Nat, c.AnswersFrom "a" true s := fun _ => ⟨_, hn, .inl rfl, rfl⟩
  exact ⟨h, rfl, by decide, by decide, by decide +kernel,
    (paging_exact h (r := .all) rfl (n := 2) (by decide) (by decide)).1⟩

end ReplicaKV
