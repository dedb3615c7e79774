/-
Byte strings: the keys and values of the store and the content of frames. They are ordered byte by byte, a proper prefix
before its extensions.

- `Bytes.list`: the view every statement about bytes is made through.
- `compare_eq_compare_list`: the comparison that runs is the lexicographic order of that view.
-/

namespace ReplicaKV

abbrev Bytes := ByteArray

instance : DecidableEq Bytes := ByteArray.instDecidableEq

namespace Bytes

/-- the bytes in order -/
abbrev list (b : Bytes) : List UInt8 := b.data.toList

/-- lexicographic comparison of what stands from position i on; n bytes of a are still to look at -/
def compareFrom (a b : Bytes) : (n i : Nat) → i + n = a.size → Ordering
  | 0, i, _ => if i < b.size then .lt else .eq
  | n + 1, i, h =>
    have ha : i < a.size := by omega
    if hb : i < b.size then
      match compare a[i] b[i] with
      | .eq => compareFrom a b n (i + 1) (by omega)
      | o => o
    else .gt

instance : Ord Bytes := ⟨fun a b => compareFrom a b a.size 0 (by omega)⟩

/-- do the bytes begin with p? -/
def startsWith (b p : Bytes) : Bool := p.size ≤ b.size && b.extract 0 p.size = p

/-! ## The order is the lexicographic order of the views -/

theorem compareFrom_eq (a b : Bytes) (n i : Nat) (h : i + n = a.size) :
    compareFrom a b n i h = compare (a.list.drop i) (b.list.drop i) := by
  have ha : a.list.length = a.size := Array.length_toList
  have hb : b.list.length = b.size := Array.length_toList
  induction n generalizing i with
  | zero =>
    rw [List.drop_eq_nil_of_le (by omega), compareFrom]
    split
    · rw [List.drop_eq_getElem_cons (by omega), List.compare_nil_cons]
    · rw [List.drop_eq_nil_of_le (by omega), List.compare_nil_nil]
  | succ n ih =>
    rw [List.drop_eq_getElem_cons (l := a.list) (by omega), compareFrom]
    split
    · have hi : i < a.data.size := by rw [ByteArray.size_data]; omega
      rw [List.drop_eq_getElem_cons (l := b.list) (by omega), List.compare_cons_cons, ih (i + 1) (by omega)]
      simp only [ByteArray.getElem_eq_getElem_data, Array.getElem_toList]
      cases compare a.data[i] b.data[i] <;> rfl
    · rw [show b.list.drop i = [] from List.drop_eq_nil_of_le (by omega), List.compare_cons_nil]

/-- two byte strings compare as the lists of their bytes do -/
theorem compare_eq_compare_list (a b : Bytes) : compare a b = compare a.list b.list := by
  have := compareFrom_eq a b a.size 0 (by omega)
  rwa [List.drop_zero, List.drop_zero] at this

theorem list_injective {a b : Bytes} (h : a.list = b.list) : a = b :=
  ByteArray.ext (Array.toList_inj.1 h)

instance : Std.LawfulEqOrd Bytes where
  compare_self := by
    intro a
    rw [compare_eq_compare_list, Std.compare_self]
  eq_of_compare := by
    intro a b h
    rw [compare_eq_compare_list] at h
    exact list_injective (Std.LawfulEqCmp.eq_of_compare h)

instance : Std.TransOrd Bytes where
  eq_swap := by
    intro a b
    rw [compare_eq_compare_list, compare_eq_compare_list]
    exact Std.OrientedCmp.eq_swap
  isLE_trans := by
    intro a b c
    rw [compare_eq_compare_list, compare_eq_compare_list, compare_eq_compare_list]
    exact Std.TransCmp.isLE_trans

end Bytes

end ReplicaKV
