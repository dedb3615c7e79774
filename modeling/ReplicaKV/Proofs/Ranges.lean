/-
What range reads answer, said without how they find it.

- `Within`: a key lies between two bounds, each inclusive or not. Keys are ordered as strings of bytes.
- `Enumerates s P order l`: l has the entries of s whose keys have P, all of them and in this order.
- `range_reads_exact`: the answers to all range reads.
-/
import ReplicaKV.Proofs.SharedMap.Spec

namespace ReplicaKV

/-! ## The order of keys -/

theorem compare_list_iff {a b : List UInt8} : compare a b = .lt ↔ a < b := by
  induction a generalizing b with
  | nil => cases b <;> simp
  | cons x a ih =>
    cases b with
    | nil => simp
    | cons y b =>
      rw [List.compare_cons_cons, List.cons_lt_cons_iff, Ordering.then_eq_lt, ih, Std.compare_eq_lt, Std.compare_eq_iff_eq]

/-- a is before b, or b itself where that counts -/
theorem precedes_iff {inclusive : Bool} {a b : Bytes} :
    Shared.precedes inclusive a b = true ↔ a.list < b.list ∨ inclusive = true ∧ a = b := by
  have heq : compare a.list b.list = .eq ↔ a = b :=
    Std.compare_eq_iff_eq.trans ⟨Bytes.list_injective, congrArg Bytes.list⟩
  rw [Shared.precedes, ← compare_list_iff, ← heq]
  cases compare a.list b.list <;> cases inclusive <;> decide

/-- k lies above the lower bound and below the upper one, where there are such bounds -/
def Within (lower : Option Bytes) (lowerInclusive : Bool) (upper : Option Bytes) (upperInclusive : Bool) (k : Bytes) :
    Prop :=
  (∀ b, lower = some b → b.list < k.list ∨ lowerInclusive = true ∧ b = k) ∧
    ∀ b, upper = some b → k.list < b.list ∨ upperInclusive = true ∧ k = b

theorem between_iff {low high : Option Bytes} {lowIn highIn : Bool} {k : Bytes} :
    Shared.between low lowIn high highIn k = true ↔ Within low lowIn high highIn k := by
  simp only [Shared.between, Bool.and_eq_true, Option.all_eq_true, precedes_iff, Within]

/-- l has the entries of s whose keys have P, all of them and in this order -/
structure Enumerates (s : Store) (P : Bytes → Prop) (order : List UInt8 → List UInt8 → Prop) (l : List (Bytes × Bytes)) :
    Prop where
  ordered : l.Pairwise fun p q => order p.1.list q.1.list
  mem : ∀ k v, (k, v) ∈ l ↔ s.get? k = some v ∧ P k

/-- what stands in one order stands reversed in the other -/
theorem Enumerates.reverse {s : Store} {P : Bytes → Prop} {l : List (Bytes × Bytes)} (h : Enumerates s P (· < ·) l) :
    Enumerates s P (· > ·) l.reverse :=
  ⟨List.pairwise_reverse.2 h.ordered, fun k v => List.mem_reverse.trans (h.mem k v)⟩

/-- the same bounds for a read in the other direction -/
def KeyRange.exchanged (r : KeyRange) : KeyRange := ⟨r.last, r.lastInclusive, r.first, r.firstInclusive, r.limit⟩

namespace Store

variable (s : Store)

theorem entries_ordered : s.entries.Pairwise fun p q => p.1.list < q.1.list :=
  s.sorted.imp fun {p q} h => compare_list_iff.1 (Bytes.compare_eq_compare_list p.1 q.1 ▸ h)

/-- the entries between two bounds, as they stand -/
theorem enumerates_filter (low high : Option Bytes) (lowIn highIn : Bool) :
    Enumerates s (Within low lowIn high highIn) (· < ·)
      (s.entries.filter fun p => Shared.between low lowIn high highIn p.1) := by
  refine ⟨s.entries_ordered.filter _, fun k v => ?_⟩
  rw [List.mem_filter, between_iff, SortedMap.get?_eq_some_iff]

/-- **Range reads find what lies within their bounds, and no more.** `up` and `down` have the entries within the bounds of
r, ascending and descending. `rangeEntries` answers the first of `up` that the limit allows and `range` the keys of these;
`revRangeEntries`, whose first bound is the upper one, the first of `down`. Without a limit that is what `rangeEntries`
answers to the exchanged bounds, reversed. `keysWithPrefix` answers the first of all keys with that prefix, ascending. -/
theorem range_reads_exact (r : KeyRange) :
    ∃ up down,
      Enumerates s (Within r.first r.firstInclusive r.last r.lastInclusive) (· < ·) up ∧
      Enumerates s (Within r.last r.lastInclusive r.first r.firstInclusive) (· > ·) down ∧
      s.answer (.rangeEntries r) = .ok (Shared.atMost r.limit up) ∧
      s.answer (.range r) = .ok ((Shared.atMost r.limit up).map Prod.fst) ∧
      s.answer (.revRangeEntries r) = .ok (Shared.atMost r.limit down) ∧
      (r.limit = none → ∃ l, s.answer (.rangeEntries r.exchanged) = .ok l ∧
        s.answer (.revRangeEntries r) = .ok l.reverse) ∧
      ∀ (p : Bytes) (limit : Option UInt32), ∃ keys : List Bytes,
        keys.Pairwise (fun k k' => k.list < k'.list) ∧
        (∀ k, k ∈ keys ↔ (∃ v, s.get? k = some v) ∧ p.list <+: k.list) ∧
        s.answer (.keysWithPrefix p limit) = .ok (Shared.atMost limit keys) := by
  refine ⟨_, _, s.enumerates_filter r.first r.last r.firstInclusive r.lastInclusive,
    .reverse (s.enumerates_filter r.last r.first r.lastInclusive r.firstInclusive), ?_, ?_, ?_, ?_, ?_⟩
  · rw [answer, ascending_eq]
  · rw [answer, ascending_eq]
  · rw [answer, descending_eq]
  · intro hlimit
    refine ⟨_, rfl, ?_⟩
    rw [answer, descending_eq, ascending_eq, KeyRange.exchanged, hlimit]
    rfl
  · intro p limit
    refine ⟨s.keys.filter fun k => p.list.isPrefixOf k.list, ?_, ?_, ?_⟩
    · have hkeys : s.keys.Pairwise fun k k' => k.list < k'.list := List.pairwise_map.2 s.entries_ordered
      exact hkeys.filter _
    · intro k
      rw [List.mem_filter, List.isPrefixOf_iff_prefix, SortedMap.mem_keys_iff]
    · rw [answer, keysWithPrefix_eq]

/-- a prefix that no byte can follow in the order, and that is a key itself -/
example : keysWithPrefix (.ofList [(⟨#[254, 255]⟩, ⟨#[]⟩), (⟨#[255]⟩, ⟨#[]⟩), (⟨#[255, 0]⟩, ⟨#[]⟩), (⟨#[255, 255]⟩, ⟨#[]⟩)])
    ⟨#[255]⟩ (some 2) = [⟨#[255]⟩, ⟨#[255, 0]⟩] := by decide +kernel

end Store

end ReplicaKV
