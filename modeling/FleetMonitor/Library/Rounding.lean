import Mathlib.Algebra.Order.Field.Rat
import Mathlib.Data.Int.Log
import Mathlib.Data.Rat.Floor
import Mathlib.Tactic.FieldSimp
import Mathlib.Tactic.Linarith

/-!
# Rounding

Rounding to the nearest integer, where a tie goes to the even one; with it the double nearest to a
rational, and a double rounded to one decimal place. The doubles have the 53 bits of the format and
an exponent without bounds, which is no difference for magnitudes between `2 ^ (-1022)` and
`2 ^ 1023`.
-/

namespace FleetMonitor.Library

variable {x : ℚ} {n : ℤ}

/-- The integer nearest to `x`, the even one of two. -/
def roundHalfEven (x : ℚ) : ℤ :=
  if 2 * Int.fract x < 1 then ⌊x⌋
  else if 1 < 2 * Int.fract x then ⌊x⌋ + 1
  else if ⌊x⌋ % 2 = 0 then ⌊x⌋
  else ⌊x⌋ + 1

lemma roundHalfEven_intCast (n : ℤ) : roundHalfEven n = n := by
  simp [roundHalfEven]

lemma floor_le_roundHalfEven (x : ℚ) : ⌊x⌋ ≤ roundHalfEven x := by
  rw [roundHalfEven]
  split_ifs <;> omega

lemma roundHalfEven_le_floor_add_one (x : ℚ) : roundHalfEven x ≤ ⌊x⌋ + 1 := by
  rw [roundHalfEven]
  split_ifs <;> omega

/-- Rounding does not pass an integer. -/
theorem roundHalfEven_le (h : x ≤ n) : roundHalfEven x ≤ n := by
  rcases h.lt_or_eq with hlt | rfl
  · have hfloor : ⌊x⌋ < n := Int.floor_lt.mpr hlt
    have hle := roundHalfEven_le_floor_add_one x
    omega
  · exact (roundHalfEven_intCast n).le

theorem le_roundHalfEven (h : (n : ℚ) ≤ x) : n ≤ roundHalfEven x :=
  (Int.le_floor.mpr h).trans (floor_le_roundHalfEven x)

/-- A rational that is cut to an integer stays below every positive integer it is below. -/
lemma tdiv_lt_iff (hn : 0 < n) : x.num.tdiv x.den < n ↔ x < n := by
  rcases lt_or_ge x 0 with hneg | hpos
  · have hminus : 0 ≤ (-x.num).tdiv x.den :=
      Int.tdiv_nonneg (by simpa using hneg.le) (Int.natCast_nonneg _)
    rw [Int.neg_tdiv] at hminus
    exact iff_of_true (by omega) (hneg.trans (by exact_mod_cast hn))
  · have hnum : 0 ≤ x.num := Rat.num_nonneg.mpr hpos
    rw [Int.tdiv_eq_ediv_of_nonneg hnum, ← Rat.floor_def', Int.floor_lt]

/-! ### Doubles -/

/-- The unit in the last place of the double nearest to `x`. -/
def ulp (x : ℚ) : ℚ := 2 ^ (Int.log 2 |x| - 52)

/-- The double nearest to `x`. -/
def double (x : ℚ) : ℚ := roundHalfEven (x / ulp x) * ulp x

lemma ulp_pos (x : ℚ) : 0 < ulp x := zpow_pos two_pos _

/-- Below `2 ^ 53` an integer is a multiple of the unit. -/
lemma exists_mul_ulp (hx : |x| < 2 ^ 53) (n : ℤ) : ∃ m : ℤ, (m : ℚ) * ulp x = n := by
  have hlog : Int.log 2 |x| ≤ 52 := by
    rcases (abs_nonneg x).eq_or_lt with hzero | hpos
    · simp [← hzero]
    · have hlt : Int.log 2 |x| < 53 := (Int.lt_zpow_iff_log_lt (by decide) hpos).mp (by simpa using hx)
      omega
  obtain ⟨k, hk⟩ := Int.eq_ofNat_of_zero_le (sub_nonneg.mpr hlog)
  refine ⟨n * 2 ^ k, ?_⟩
  have hexp : Int.log 2 |x| - 52 = -(k : ℤ) := by omega
  rw [ulp, hexp, zpow_neg, zpow_natCast]
  push_cast
  field_simp

/-- The nearest double does not pass an integer of at most 53 bits. -/
theorem double_le (hx : |x| < 2 ^ 53) (h : x ≤ n) : double x ≤ n := by
  obtain ⟨m, hm⟩ := exists_mul_ulp hx n
  have hpos := ulp_pos x
  have hscaled : x / ulp x ≤ m := by
    rw [div_le_iff₀ hpos, hm]
    exact h
  calc double x ≤ m * ulp x :=
        mul_le_mul_of_nonneg_right (by exact_mod_cast roundHalfEven_le hscaled) hpos.le
    _ = n := hm

theorem le_double (hx : |x| < 2 ^ 53) (h : (n : ℚ) ≤ x) : n ≤ double x := by
  obtain ⟨m, hm⟩ := exists_mul_ulp hx n
  have hpos := ulp_pos x
  have hscaled : (m : ℚ) ≤ x / ulp x := by
    rw [le_div_iff₀ hpos, hm]
    exact h
  calc (n : ℚ) = m * ulp x := hm.symm
    _ ≤ double x :=
        mul_le_mul_of_nonneg_right (by exact_mod_cast le_roundHalfEven hscaled) hpos.le

lemma ulp_le_abs (hx : x ≠ 0) : ulp x ≤ |x| :=
  calc ulp x ≤ 2 ^ Int.log 2 |x| := zpow_le_zpow_right₀ one_le_two (sub_le_self _ (by decide))
    _ ≤ |x| := Int.zpow_log_le_self one_lt_two (abs_pos.mpr hx)

/-- The nearest double has the sign of the number. -/
theorem double_nonneg_iff : 0 ≤ double x ↔ 0 ≤ x := by
  have hpos := ulp_pos x
  rw [double, mul_nonneg_iff_of_pos_right hpos]
  constructor
  · intro hround
    by_contra hneg
    have hscaled : x / ulp x ≤ (-1 : ℤ) := by
      have hle := ulp_le_abs (not_le.mp hneg).ne
      rw [abs_of_neg (not_le.mp hneg)] at hle
      rw [div_le_iff₀ hpos]
      push_cast
      linarith
    have hminus := roundHalfEven_le hscaled
    have hzero : 0 ≤ roundHalfEven (x / ulp x) := by exact_mod_cast hround
    omega
  · intro hx
    exact_mod_cast le_roundHalfEven (n := 0) (by simpa using div_nonneg hx hpos.le)

/-! ### One decimal place -/

/-- The multiple of a tenth nearest to `x`. -/
def roundTenth (x : ℚ) : ℚ := roundHalfEven (10 * x) / 10

lemma roundTenth_le (h : x ≤ n) : roundTenth x ≤ n := by
  have hten : roundHalfEven (10 * x) ≤ 10 * n := by
    apply roundHalfEven_le
    push_cast
    linarith
  have hcast : (roundHalfEven (10 * x) : ℚ) ≤ 10 * n := by exact_mod_cast hten
  rw [roundTenth, div_le_iff₀ (by norm_num)]
  linarith

lemma le_roundTenth (h : (n : ℚ) ≤ x) : n ≤ roundTenth x := by
  have hten : 10 * n ≤ roundHalfEven (10 * x) := by
    apply le_roundHalfEven
    push_cast
    linarith
  have hcast : (10 * n : ℚ) ≤ roundHalfEven (10 * x) := by exact_mod_cast hten
  rw [roundTenth, le_div_iff₀ (by norm_num)]
  linarith

end FleetMonitor.Library
