/-
CRC-32C, the checksum in the footer of every frame: the remainder register of the Castagnoli polynomial, bits of a byte
taken from the least significant, the register complemented before and after.

- `byteStep`: what one byte does to the register, bit by bit; this is the definition.
- `tableStep`: the same through a table of the 256 low bytes; this is what runs
  (`tableStep_eq_byteStep`).
- `extend`: the checksum of a longer string from that of its beginning, a fold over the bytes that follow (`extend_eq`).
-/
import ReplicaKV.Bytes

namespace ReplicaKV.Checksum

/-- the reflected Castagnoli polynomial -/
def polynomial : UInt32 := 0x82f63b78

/-- shift one bit out of the register -/
def bitStep (r : UInt32) : UInt32 := if r &&& 1 = 1 then (r >>> 1) ^^^ polynomial else r >>> 1

/-- shift n bits out of the register -/
def bitSteps : Nat → UInt32 → UInt32
  | 0, r => r
  | n + 1, r => bitSteps n (bitStep r)

/-- take one byte into the register -/
def byteStep (r : UInt32) (b : UInt8) : UInt32 := bitSteps 8 (r ^^^ b.toUInt32)

/-- the register after eight shifts, for every low byte -/
def table : Vector UInt32 256 := Vector.ofFn fun i => bitSteps 8 (UInt32.ofNat i.val)

/-- take one byte into the register through the table -/
def tableStep (r : UInt32) (b : UInt8) : UInt32 :=
  let i := (r ^^^ b.toUInt32).toUInt8
  have : i.toNat < 256 := i.toNat_lt
  table[i.toNat] ^^^ (r >>> 8)

/-- take the last n bytes of bs into the register -/
def feed (bs : Bytes) : (n : Nat) → n ≤ bs.size → UInt32 → UInt32
  | 0, _, r => r
  | n + 1, h, r =>
    have : bs.size - (n + 1) < bs.size := by omega
    feed bs n (by omega) (tableStep r bs[bs.size - (n + 1)])

/-- the checksum of a string followed by bs, from the checksum of that string -/
def extend (crc : UInt32) (bs : Bytes) : UInt32 := ~~~(feed bs bs.size (Nat.le_refl _) (~~~crc))

/-- the checksum of a byte string -/
def ofBytes (bs : Bytes) : UInt32 := extend 0 bs

/-! ## The table does what the bits do -/

theorem and_one_xor (a b : UInt32) (h : b &&& 1 = 0) : (a ^^^ b) &&& 1 = a &&& 1 := by
  apply UInt32.eq_of_toBitVec_eq
  have h' : b.toBitVec &&& 1#32 = 0#32 := by simpa using congrArg UInt32.toBitVec h
  ext i hi
  have hb := congrArg (·[i]) h'
  simp at hb ⊢
  cases a.toBitVec[i] <;> cases hbi : b.toBitVec[i] <;> simp_all

theorem toNat_half (b : UInt32) : (b >>> 1).toNat = b.toNat / 2 := by
  simp [UInt32.toNat_shiftRight, Nat.shiftRight_eq_div_pow]

theorem and_one_of_even {b : UInt32} (h : b.toNat % 2 = 0) : b &&& 1 = 0 := by
  apply UInt32.toNat_inj.1
  simpa [UInt32.toNat_and, Nat.and_one_is_mod] using h

/-- a shift acts on the bits above the lowest as on those of a plain register -/
theorem bitStep_xor (a b : UInt32) (h : b.toNat % 2 = 0) : bitStep (a ^^^ b) = bitStep a ^^^ (b >>> 1) := by
  simp only [bitStep, and_one_xor a b (and_one_of_even h), UInt32.shiftRight_xor]
  split
  · rw [UInt32.xor_assoc, UInt32.xor_comm (b >>> 1), UInt32.xor_assoc]
  · rfl

/-- eight shifts act on the upper three bytes as on those of a plain register -/
theorem bitSteps_xor (a b : UInt32) (h : b.toNat % 256 = 0) : bitSteps 8 (a ^^^ b) = bitSteps 8 a ^^^ (b >>> 8) := by
  simp only [bitSteps]
  rw [bitStep_xor _ _ (by omega), bitStep_xor _ _ (by rw [toNat_half]; omega),
    bitStep_xor _ _ (by simp only [toNat_half]; omega), bitStep_xor _ _ (by simp only [toNat_half]; omega),
    bitStep_xor _ _ (by simp only [toNat_half]; omega), bitStep_xor _ _ (by simp only [toNat_half]; omega),
    bitStep_xor _ _ (by simp only [toNat_half]; omega), bitStep_xor _ _ (by simp only [toNat_half]; omega)]
  rfl

/-- a register is its low byte together with the other three -/
theorem low_xor_high (r : UInt32) : r.toUInt8.toUInt32 ^^^ (r >>> 8 <<< 8) = r := by
  apply UInt32.toNat_inj.1
  apply Nat.eq_of_testBit_eq
  intro i
  have hr : r.toNat / 256 * 256 % 4294967296 = r.toNat / 256 * 256 := by
    have := r.toNat_lt
    omega
  simp only [UInt32.toNat_xor, UInt8.toNat_toUInt32, UInt32.toNat_toUInt8, UInt32.toNat_shiftLeft,
    UInt32.toNat_shiftRight, Nat.shiftLeft_eq, Nat.shiftRight_eq_div_pow, Nat.testBit_xor]
  simp only [UInt32.reduceToNat, Nat.reduceMod, Nat.reducePow, hr]
  rw [show (256 : Nat) = 2 ^ 8 from rfl, Nat.testBit_mod_two_pow, Nat.testBit_mul_two_pow, Nat.testBit_div_two_pow]
  by_cases h : i < 8
  · simp [h, show ¬8 ≤ i by omega]
  · simp [h, show 8 ≤ i by omega, show i - 8 + 8 = i by omega]

/-- the table takes a byte in as the bits do -/
theorem tableStep_eq_byteStep (r : UInt32) (b : UInt8) : tableStep r b = byteStep r b := by
  have low : (r >>> 8 <<< 8).toNat % 256 = 0 := by
    simp [UInt32.toNat_shiftLeft, UInt32.toNat_shiftRight, Nat.shiftLeft_eq, Nat.shiftRight_eq_div_pow]
  have back : r >>> 8 <<< 8 >>> 8 = r >>> 8 := by
    apply UInt32.toNat_inj.1
    have := r.toNat_lt
    simp [UInt32.toNat_shiftLeft, UInt32.toNat_shiftRight, Nat.shiftLeft_eq, Nat.shiftRight_eq_div_pow]
    omega
  have e : r ^^^ b.toUInt32 = (r.toUInt8 ^^^ b).toUInt32 ^^^ (r >>> 8 <<< 8) := by
    rw [UInt8.toUInt32_xor, UInt32.xor_assoc, UInt32.xor_comm b.toUInt32, ← UInt32.xor_assoc, low_xor_high]
  rw [byteStep, e, bitSteps_xor _ _ low, back]
  have i : UInt32.ofNat (r.toUInt8 ^^^ b).toNat = (r.toUInt8 ^^^ b).toUInt32 := by
    apply UInt32.toNat_inj.1
    have := (r.toUInt8 ^^^ b).toNat_lt
    simp only [UInt32.toNat_ofNat', UInt8.toNat_toUInt32]
    omega
  simp only [tableStep, table, Vector.getElem_ofFn, UInt32.toUInt8_xor, UInt8.toUInt8_toUInt32, i]

/-! ## The checksum as a fold over the bytes -/

theorem feed_eq (bs : Bytes) (n : Nat) (h : n ≤ bs.size) (r : UInt32) :
    feed bs n h r = (bs.list.drop (bs.size - n)).foldl tableStep r := by
  induction n generalizing r with
  | zero => simp [feed, List.drop_eq_nil_of_le, Bytes.list]
  | succ n ih =>
    have hl : bs.list.length = bs.size := Array.length_toList
    rw [feed, ih, List.drop_eq_getElem_cons (i := bs.size - (n + 1)) (by omega), List.foldl_cons,
      show bs.size - (n + 1) + 1 = bs.size - n by omega]
    rfl

theorem extend_eq (crc : UInt32) (bs : Bytes) : extend crc bs = ~~~(bs.list.foldl tableStep (~~~crc)) := by
  rw [extend, feed_eq, Nat.sub_self, List.drop_zero]

end ReplicaKV.Checksum
