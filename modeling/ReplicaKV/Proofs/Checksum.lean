/-
The checksum as a register that bits are fed into, one after the other.

- `foldl_takeBit`: up to 32 bits that are fed in are a number that is added to the register before it shifts. So what two
  strings of up to 32 bits leave in one register tells them apart (`foldl_takeBit_window`).
- `foldl_takeBit_injective`: what is fed in afterwards does not bring two registers together.
- `Burst`: strings of one length that differ, and only within 32 bits. They leave different registers (`Burst.register_ne`).
- `register_closed`: a string with its own checksum behind it always leaves the same register.
-/
import ReplicaKV.Proofs.Frame.Reading
import Mathlib.Data.Nat.Bitwise

namespace ReplicaKV.Checksum

open ReplicaKV.Frame

/-! ## Bits -/

/-- the low n bits of a number, the least significant first -/
def lowBits : Nat → Nat → List Bool
  | 0, _ => []
  | n + 1, v => (v % 2 == 1) :: lowBits n (v / 2)

/-- the bits of a string: its bytes in order, the bits of a byte from the least significant -/
def bits (l : List UInt8) : List Bool := l.flatMap fun b => lowBits 8 b.toNat

/-- the number whose bits, the least significant first, are given -/
def value : List Bool → Nat
  | [] => 0
  | b :: l => b.toNat + 2 * value l

theorem length_lowBits (n v : Nat) : (lowBits n v).length = n := by
  induction n generalizing v with
  | zero => rfl
  | succ n ih => rw [lowBits, List.length_cons, ih]

theorem value_lowBits (n v : Nat) : value (lowBits n v) = v % 2 ^ n := by
  induction n generalizing v with
  | zero => rw [lowBits, value, Nat.pow_zero, Nat.mod_one]
  | succ n ih =>
    have hbit : (v % 2 == 1).toNat = v % 2 := by
      rcases Nat.mod_two_eq_zero_or_one v with h | h <;> rw [h] <;> rfl
    rw [lowBits, value, ih, hbit, Nat.pow_succ, Nat.mul_comm (2 ^ n), Nat.mod_mul]

theorem value_append (l m : List Bool) : value (l ++ m) = value l + 2 ^ l.length * value m := by
  induction l with
  | nil => simp [value]
  | cons b l ih => rw [List.cons_append, value, ih, value, List.length_cons]; ring

theorem value_lt (l : List Bool) : value l < 2 ^ l.length := by
  induction l with
  | nil => exact Nat.one_pos
  | cons b l ih =>
    have := b.toNat_lt
    rw [value, List.length_cons, Nat.pow_succ]
    omega

/-- strings of bits of one length are told apart by their numbers -/
theorem value_injective {l m : List Bool} (hlen : l.length = m.length) (h : value l = value m) : l = m := by
  induction l generalizing m with
  | nil => exact (List.length_eq_zero_iff.1 hlen.symm).symm
  | cons b l ih =>
    cases m with
    | nil => cases hlen
    | cons c m =>
      have hb := b.toNat_lt
      have hc := c.toNat_lt
      simp only [value] at h
      have hbit : b.toNat = c.toNat := by omega
      obtain rfl : b = c := by revert hbit; cases b <;> cases c <;> decide
      rw [ih (Nat.succ.inj hlen) (by omega)]

theorem bits_cons (b : UInt8) (l : List UInt8) : bits (b :: l) = lowBits 8 b.toNat ++ bits l := List.flatMap_cons

theorem length_bits (l : List UInt8) : (bits l).length = 8 * l.length := by
  induction l with
  | nil => rfl
  | cons b l ih => rw [bits_cons, List.length_append, length_lowBits, ih, List.length_cons]; omega

theorem value_bits (l : List UInt8) : value (bits l) = littleEndian l := by
  induction l with
  | nil => rfl
  | cons b l ih =>
    rw [bits_cons, value_append, ih, length_lowBits, value_lowBits, littleEndian, Nat.mod_eq_of_lt b.toNat_lt]
    rfl

/-! ## The register -/

/-- take one bit into the register -/
def takeBit (r : UInt32) (b : Bool) : UInt32 := bitStep (r ^^^ UInt32.ofNat b.toNat)

/-- the bits above the lowest do not touch it -/
theorem ofNat_value_cons (b : Bool) (l : List Bool) :
    UInt32.ofNat (value (b :: l)) = UInt32.ofNat b.toNat ^^^ UInt32.ofNat (2 * value l) := by
  have hsum : value (b :: l) = b.toNat ^^^ 2 * value l := by
    rw [value]
    cases b with
    | false => rw [Bool.toNat_false, Nat.zero_xor, Nat.zero_add]
    | true => rw [Bool.toNat_true, Nat.xor_comm, Nat.xor_one_of_even (even_two_mul _), Nat.add_comm]
  rw [hsum, UInt32.ofNat_xor]

/-- bits that are fed in are a number added to the register before it shifts -/
theorem foldl_takeBit (r : UInt32) {l : List Bool} (h : l.length ≤ 32) :
    l.foldl takeBit r = bitSteps l.length (r ^^^ UInt32.ofNat (value l)) := by
  induction l generalizing r with
  | nil => exact UInt32.xor_zero.symm
  | cons b l ih =>
    have hv := value_lt l
    rw [List.length_cons] at h
    have hpow : 2 ^ l.length ≤ 2 ^ 31 := Nat.pow_le_pow_right (by decide) (by omega)
    have hn : (UInt32.ofNat (2 * value l)).toNat = 2 * value l := UInt32.toNat_ofNat_of_lt' (by simp [UInt32.size]; omega)
    have hhalf : UInt32.ofNat (2 * value l) >>> 1 = UInt32.ofNat (value l) := by
      apply UInt32.toNat_inj.1
      rw [toNat_half, hn, UInt32.toNat_ofNat_of_lt' (by simp [UInt32.size]; omega)]
      omega
    rw [List.foldl_cons, ih _ (by omega), List.length_cons, bitSteps, ofNat_value_cons, ← UInt32.xor_assoc,
      bitStep_xor _ _ (by omega), hhalf, takeBit]

theorem and_one_eq_one {a : UInt32} : a &&& 1 = 1 ↔ a.toNat % 2 = 1 := by
  rw [← UInt32.toNat_inj, UInt32.toNat_and, UInt32.toNat_one, Nat.and_one_is_mod]

/-- a register that was shifted has a highest bit only if the polynomial was added to it -/
theorem shifted_ne (a b : UInt32) : a >>> 1 ^^^ polynomial ≠ b >>> 1 := by
  intro h
  have ha := toNat_half a
  have hb := toNat_half b
  have hp : polynomial = a >>> 1 ^^^ b >>> 1 := by rw [← h, ← UInt32.xor_assoc, UInt32.xor_self, UInt32.zero_xor]
  have hlt : (a >>> 1).toNat ^^^ (b >>> 1).toNat < 2 ^ 31 :=
    Nat.xor_lt_two_pow (by have := a.toNat_lt; omega) (by have := b.toNat_lt; omega)
  rw [← UInt32.toNat_xor, ← hp] at hlt
  exact absurd hlt (by decide)

/-- a shift can be undone: the bit that was shifted out is the highest of what it leaves -/
theorem bitStep_injective {a b : UInt32} (h : bitStep a = bitStep b) : a = b := by
  have ha := toNat_half a
  have hb := toNat_half b
  have same (hlow : a.toNat % 2 = b.toNat % 2) (hhigh : a >>> 1 = b >>> 1) : a = b := by
    rw [hhigh] at ha
    exact UInt32.toNat_inj.1 (by omega)
  simp only [bitStep, and_one_eq_one] at h
  split_ifs at h with hodd hodd' hodd'
  · exact same (hodd.trans hodd'.symm) ((UInt32.xor_left_inj _).1 h)
  · exact absurd h (shifted_ne a b)
  · exact absurd h.symm (shifted_ne b a)
  · exact same (by omega) h

theorem bitSteps_injective {n : Nat} {a b : UInt32} (h : bitSteps n a = bitSteps n b) : a = b := by
  induction n generalizing a b with
  | zero => exact h
  | succ n ih => exact bitStep_injective (ih h)

/-- what is fed into two registers does not bring them together -/
theorem foldl_takeBit_injective {l : List Bool} {r s : UInt32} (h : l.foldl takeBit r = l.foldl takeBit s) : r = s := by
  induction l generalizing r s with
  | nil => exact h
  | cons b l ih => exact (UInt32.xor_left_inj _).1 (bitStep_injective (ih h))

/-- up to 32 bits are told apart by what they leave in one register -/
theorem foldl_takeBit_window {l m : List Bool} {r : UInt32} (hlen : l.length = m.length) (hl : l.length ≤ 32)
    (h : l.foldl takeBit r = m.foldl takeBit r) : l = m := by
  have lt_size (k : List Bool) (hk : k.length ≤ 32) : value k < 2 ^ 32 :=
    (value_lt k).trans_le (Nat.pow_le_pow_right (by decide) hk)
  rw [foldl_takeBit r hl, foldl_takeBit r (hlen ▸ hl), hlen] at h
  have hvalue := (UInt32.xor_right_inj _).1 (bitSteps_injective h)
  have hnat := congrArg UInt32.toNat hvalue
  rw [UInt32.toNat_ofNat_of_lt' (lt_size l hl), UInt32.toNat_ofNat_of_lt' (lt_size m (hlen ▸ hl))] at hnat
  exact value_injective hlen hnat

/-! ## Strings -/

/-- a byte is taken in bit by bit -/
theorem tableStep_eq_foldl (r : UInt32) (b : UInt8) : tableStep r b = (lowBits 8 b.toNat).foldl takeBit r := by
  have hlen := length_lowBits 8 b.toNat
  have hvalue : UInt32.ofNat (value (lowBits 8 b.toNat)) = b.toUInt32 := by
    rw [value_lowBits, Nat.mod_eq_of_lt b.toNat_lt]
    exact UInt32.toNat_inj.1 (by simp)
  rw [tableStep_eq_byteStep, byteStep, foldl_takeBit r (by rw [hlen]; decide), hlen, hvalue]

theorem foldl_tableStep (r : UInt32) (l : List UInt8) : l.foldl tableStep r = (bits l).foldl takeBit r := by
  induction l generalizing r with
  | nil => rfl
  | cons b l ih => rw [List.foldl_cons, ih, bits_cons, List.foldl_append, tableStep_eq_foldl]

/-- the register that a string leaves -/
def register (l : List UInt8) : UInt32 := l.foldl tableStep (~~~0)

/-- **A string with its checksum behind it always leaves the same register.** -/
theorem register_closed (l : List UInt8) : register (l ++ lowBytes 4 (Checksum.over 0 l).toNat) = bitSteps 32 (~~~0) := by
  generalize hcrc : Checksum.over 0 l = crc
  have hlen : (bits (lowBytes 4 crc.toNat)).length = 32 := by rw [length_bits, length_lowBytes]
  have hvalue : value (bits (lowBytes 4 crc.toNat)) = crc.toNat := by
    rw [value_bits, littleEndian_lowBytes]
    exact Nat.mod_eq_of_lt crc.toNat_lt
  -- the checksum is the complement of the register that it is added to
  have hsum : register l ^^^ crc = ~~~0 := by
    rw [← hcrc, Checksum.over, register, UInt32.xor_not, UInt32.xor_self]
  calc register (l ++ lowBytes 4 crc.toNat)
    _ = (bits (lowBytes 4 crc.toNat)).foldl takeBit (register l) := by
      rw [register, List.foldl_append, foldl_tableStep _ (lowBytes 4 crc.toNat), register]
    _ = bitSteps 32 (register l ^^^ crc) := by rw [foldl_takeBit _ hlen.le, hlen, hvalue, UInt32.ofNat_toNat]
    _ = bitSteps 32 (~~~0) := by rw [hsum]

theorem bits_injective {a b : List UInt8} (hlen : a.length = b.length) (h : bits a = bits b) : a = b := by
  have hvalue : littleEndian a = littleEndian b := by rw [← value_bits, h, value_bits]
  rw [← lowBytes_littleEndian a, ← lowBytes_littleEndian b, hvalue, hlen]

/-- b is a with some bits changed, one or more, all of them among 32 that stand side by side -/
structure Burst (a b : List UInt8) : Prop where
  length : b.length = a.length
  changed : b ≠ a
  within : ∃ p, (bits b).take p = (bits a).take p ∧ (bits b).drop (p + 32) = (bits a).drop (p + 32)

theorem Burst.register_ne {a b : List UInt8} (h : Burst a b) : register b ≠ register a := by
  intro hr
  obtain ⟨p, hfront, hback⟩ := h.within
  have parts (l : List UInt8) : bits l = (bits l).take p ++ (((bits l).drop p).take 32 ++ (bits l).drop (p + 32)) := by
    rw [← List.drop_drop, List.take_append_drop, List.take_append_drop]
  have hlen : (((bits b).drop p).take 32).length = (((bits a).drop p).take 32).length := by
    simp only [List.length_take, List.length_drop, length_bits, h.length]
  have hwindow : ((bits b).drop p).take 32 = ((bits a).drop p).take 32 := by
    rw [register, register, foldl_tableStep, foldl_tableStep, parts b, parts a, hfront, hback] at hr
    simp only [List.foldl_append] at hr
    exact foldl_takeBit_window hlen (List.length_take_le ..) (foldl_takeBit_injective hr)
  have hbits : bits b = bits a := by rw [parts b, parts a, hfront, hback, hwindow]
  exact h.changed (bits_injective h.length hbits)

/-- b is a with the bit at place i changed, and no other -/
structure Flipped (i : Nat) (a b : List UInt8) : Prop where
  length : b.length = a.length
  place : i < (bits a).length
  changed : bits b = (bits a).modify i (!·)

/-- one changed bit is a burst -/
theorem Flipped.burst {i : Nat} {a b : List UInt8} (h : Flipped i a b) : Burst a b := by
  refine ⟨h.length, ?_, i, ?_, ?_⟩
  · rintro rfl
    have hbit := congrArg (·[i]?) h.changed
    simp only [List.getElem?_modify_eq, List.getElem?_eq_getElem h.place] at hbit
    exact Bool.not_ne_self _ (Option.some.inj hbit).symm
  · rw [h.changed, List.take_modify, List.modify_eq_self]
    exact List.length_take_le ..
  · rw [h.changed, List.drop_modify_of_lt _ _ _ _ (by omega)]

end ReplicaKV.Checksum
