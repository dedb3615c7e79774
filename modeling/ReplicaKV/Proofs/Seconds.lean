/-
Numbers of seconds as spans of time.

- `Binary64.value?`: the exact value of a finite number.
- `Nearest q n`: n is the natural number nearest to q, the even one of two. `Nearest.unique`: there is only one.
- `nearest_roundDiv`: the rounding of a fraction is exact.
- `Duration.ofBinary64?_eq_some`: the numbers that are spans, and which spans they are.
-/
import Mathlib.Tactic
import ReplicaKV.Duration

namespace ReplicaKV

/-- the exact value of a number, if it is finite -/
def Binary64.value? (x : Binary64) : Option ℚ :=
  match x.magnitude with
  | .finite m e => some ((if x.negative then -1 else 1) * (m * 2 ^ e))
  | _ => none

/-! ## Rounding -/

/-- n is nearest to q, and even if a neighbour is as near -/
structure Nearest (q : ℚ) (n : ℕ) : Prop where
  near : |q - n| ≤ 1 / 2
  even : |q - n| = 1 / 2 → Even n

/-- of two numbers that are nearest, neither is larger -/
theorem Nearest.not_lt {q : ℚ} {n m : ℕ} (hn : Nearest q n) (hm : Nearest q m) : ¬n < m := by
  intro hlt
  have hnear := abs_le.1 hn.near
  have hmear := abs_le.1 hm.near
  -- they would be neighbours, with q in the middle, and both even
  have hle : (m : ℚ) ≤ n + 1 := by linarith
  obtain rfl : m = n + 1 := Nat.le_antisymm (by exact_mod_cast hle) hlt
  push_cast at hmear
  have hq : q = n + 1 / 2 := by linarith
  have heven := hn.even (by rw [hq]; norm_num)
  have hodd := hm.even (by rw [hq]; push_cast; norm_num)
  exact Nat.not_even_iff_odd.2 heven.add_one hodd

theorem Nearest.unique {q : ℚ} {n m : ℕ} (hn : Nearest q n) (hm : Nearest q m) : n = m :=
  Nat.le_antisymm (Nat.not_lt.1 (hm.not_lt hn)) (Nat.not_lt.1 (hn.not_lt hm))

theorem nearest_below {n : ℕ} {t : ℚ} (h0 : 0 ≤ t) (h : t ≤ 1 / 2) (heven : t = 1 / 2 → Even n) :
    Nearest (n + t) n := by
  have hdist : |(n + t : ℚ) - n| = t := by rw [add_sub_cancel_left, abs_of_nonneg h0]
  exact ⟨hdist.trans_le h, fun he => heven (hdist.symm.trans he)⟩

theorem nearest_above {n : ℕ} {t : ℚ} (h : 1 / 2 ≤ t) (h1 : t < 1) (heven : t = 1 / 2 → Even (n + 1)) :
    Nearest (n + t) (n + 1) := by
  have hdist : |(n + t : ℚ) - (n + 1 : ℕ)| = 1 - t := by
    calc |(n + t : ℚ) - (n + 1 : ℕ)|
      _ = |-(1 - t)| := by congr 1; push_cast; ring
      _ = 1 - t := by rw [abs_neg, abs_of_pos (sub_pos.2 h1)]
  refine ⟨?_, fun he => heven ?_⟩
  · rw [hdist]
    linarith
  · rw [hdist] at he
    linarith

/-- a fraction is rounded to what is nearest -/
theorem nearest_roundDiv (num : ℕ) {den : ℕ} (h : 0 < den) : Nearest (num / den : ℚ) (roundDiv num den) := by
  have hden : (0 : ℚ) < den := by exact_mod_cast h
  set n := num / den with hn
  set r := num % den with hr
  have hsplit : (num / den : ℚ) = n + r / den := by
    have hnum : (num : ℚ) = den * n + r := by exact_mod_cast (Nat.div_add_mod num den).symm
    rw [hnum]
    field_simp
  -- where the fraction lies is told by what is left of the division
  have hbelow : (r / den : ℚ) ≤ 1 / 2 ↔ 2 * r ≤ den := by
    rw [div_le_div_iff₀ hden two_pos, one_mul, mul_comm]
    exact_mod_cast Iff.rfl
  have habove : 1 / 2 ≤ (r / den : ℚ) ↔ den ≤ 2 * r := by
    rw [div_le_div_iff₀ two_pos hden, one_mul, mul_comm (r : ℚ)]
    exact_mod_cast Iff.rfl
  have hhalf : (r / den : ℚ) = 1 / 2 → 2 * r = den := fun he =>
    Nat.le_antisymm (hbelow.1 he.le) (habove.1 he.ge)
  have hround : roundDiv num den = if den < 2 * r || (2 * r = den && n % 2 = 1) then n + 1 else n := rfl
  rw [hsplit, hround]
  split_ifs with hup
  · simp only [Bool.or_eq_true, Bool.and_eq_true, decide_eq_true_eq] at hup
    have hlt : (r / den : ℚ) < 1 := (div_lt_one hden).2 (by exact_mod_cast Nat.mod_lt num h)
    refine nearest_above (habove.2 ?_) hlt fun he => ?_
    · omega
    · rw [Nat.even_add_one, Nat.even_iff]
      have := hhalf he
      omega
  · simp only [Bool.or_eq_true, Bool.and_eq_true, decide_eq_true_eq, not_or, not_and] at hup
    refine nearest_below (by positivity) (hbelow.2 (Nat.not_lt.1 hup.1)) fun he => ?_
    rw [Nat.even_iff]
    have := hup.2 (hhalf he)
    omega

theorem exists_nearest {q : ℚ} (h : 0 ≤ q) : ∃ n, Nearest q n := by
  refine ⟨roundDiv q.num.toNat q.den, ?_⟩
  have hnum : (q.num.toNat : ℤ) = q.num := Int.toNat_of_nonneg (Rat.num_nonneg.2 h)
  have hq : (q.num.toNat / q.den : ℚ) = q := by
    rw [← Int.cast_natCast (R := ℚ) q.num.toNat, hnum]
    exact Rat.num_div_den q
  have hnearest := nearest_roundDiv q.num.toNat q.den_pos
  rwa [hq] at hnearest

/-! ## Spans -/

/-- what scales a number by a power of two is a fraction of just that value -/
theorem scaleBy_two (e : ℤ) (m : ℕ) :
    0 < (scaleBy 2 e m 1).2 ∧ ((scaleBy 2 e m 1).1 / (scaleBy 2 e m 1).2 : ℚ) = m * 2 ^ e := by
  unfold scaleBy
  split_ifs with he
  · refine ⟨one_pos, ?_⟩
    obtain ⟨k, rfl⟩ := Int.eq_ofNat_of_zero_le he
    simp
  · refine ⟨Nat.mul_pos one_pos (Nat.pow_pos two_pos), ?_⟩
    obtain ⟨k, hk⟩ := Int.eq_ofNat_of_zero_le (show 0 ≤ -e by omega)
    obtain rfl : e = -k := by omega
    simp [div_eq_mul_inv]

namespace Duration

/-- **The numbers of seconds that are spans.** They are the finite numbers from 0 on and below 2^64. Such a number is
the span whose nanoseconds are nearest to its exact value, the even ones of two. -/
theorem ofBinary64?_eq_some {x : Binary64} {d : Duration} :
    ofBinary64? x = some d ↔ ∃ q, x.value? = some q ∧ 0 ≤ q ∧ q < 2 ^ 64 ∧ Nearest (q * billion) d.nanos := by
  cases hm : x.magnitude with
  | nan => simp [ofBinary64?, Binary64.value?, hm]
  | infinite => simp [ofBinary64?, Binary64.value?, hm]
  | finite m e =>
    obtain ⟨hden, hratio⟩ := scaleBy_two e m
    set num := (scaleBy 2 e m 1).1
    set den := (scaleBy 2 e m 1).2
    have hden' : (0 : ℚ) < den := by exact_mod_cast hden
    have hspan : ofBinary64? x = if m ≠ 0 && x.negative || UInt64.size * den ≤ num then none
        else some ⟨roundDiv (num * billion) den⟩ := by
      simp only [ofBinary64?, hm]
      rfl
    by_cases hneg : m ≠ 0 ∧ x.negative = true
    · have hvalue : x.value? = some (-(num / den : ℚ)) := by
        simp only [Binary64.value?, hm, hneg.2, if_true, hratio, neg_one_mul]
      have hpos : (0 : ℚ) < num / den := by
        rw [hratio]
        have : (0 : ℚ) < m := by exact_mod_cast Nat.pos_of_ne_zero hneg.1
        positivity
      rw [hspan, if_pos (by simp [hneg.1, hneg.2]), hvalue]
      refine ⟨nofun, ?_⟩
      rintro ⟨q, hq, h0, -⟩
      cases hq
      linarith
    · -- a zero has no sign here
      have hvalue : x.value? = some (num / den : ℚ) := by
        simp only [Binary64.value?, hm, hratio]
        by_cases hm0 : m = 0
        · simp [hm0]
        · simp [show x.negative = false by simpa [hm0] using hneg]
      have hsmall : (num / den : ℚ) < 2 ^ 64 ↔ ¬UInt64.size * den ≤ num := by
        rw [div_lt_iff₀ hden', Nat.not_le]
        exact_mod_cast Iff.rfl
      have hnearest : Nearest (num / den * billion) (roundDiv (num * billion) den) := by
        have h := nearest_roundDiv (num * billion) hden
        rwa [Nat.cast_mul, mul_div_right_comm] at h
      have hsign : (m ≠ 0 && x.negative) = false := by simpa using hneg
      rw [hspan, hsign, Bool.false_or, hvalue]
      split_ifs with hlarge
      · refine ⟨nofun, ?_⟩
        rintro ⟨q, hq, -, hlt, -⟩
        cases hq
        exact absurd (of_decide_eq_true hlarge) (hsmall.1 hlt)
      · constructor
        · rintro ⟨⟩
          exact ⟨_, rfl, by positivity, hsmall.2 (by simpa using hlarge), hnearest⟩
        · rintro ⟨q, hq, -, -, hd⟩
          cases hq
          rw [hnearest.unique hd]

theorem isSome_ofBinary64? {x : Binary64} :
    (ofBinary64? x).isSome ↔ ∃ q, x.value? = some q ∧ 0 ≤ q ∧ q < 2 ^ 64 := by
  rw [Option.isSome_iff_exists]
  constructor
  · rintro ⟨d, hd⟩
    obtain ⟨q, hq, h0, hlt, -⟩ := ofBinary64?_eq_some.1 hd
    exact ⟨q, hq, h0, hlt⟩
  · rintro ⟨q, hq, h0, hlt⟩
    obtain ⟨n, hn⟩ := exists_nearest (q := q * billion) (by positivity)
    exact ⟨⟨n⟩, ofBinary64?_eq_some.2 ⟨q, hq, h0, hlt, hn⟩⟩

end Duration

end ReplicaKV
