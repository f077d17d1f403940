import Mathlib.Algebra.BigOperators.Group.List.Basic
import Mathlib.Algebra.Ring.Nat
import Mathlib.Data.List.Basic
import Mathlib.Data.Nat.Basic
import Mathlib.Order.Basic

/-!
# The calendar

The dates of the proleptic Gregorian calendar in the years 1 to 9999. The ordinal of a date counts
the days from 1 January of year 1, which is day 1; it tells dates apart and orders them as their
year, month and day do (`CivilDate.ordinal_lt_iff`), and `ofOrdinal` goes back.
-/

namespace FleetMonitor.Library

/-! ### Years and months -/

def IsLeap (y : ℕ) : Prop := y % 4 = 0 ∧ (y % 100 ≠ 0 ∨ y % 400 = 0)

instance : DecidablePred IsLeap := fun y => inferInstanceAs (Decidable (y % 4 = 0 ∧ _))

def monthLengths (y : ℕ) : List ℕ :=
  [31, if IsLeap y then 29 else 28, 31, 30, 31, 30, 31, 31, 30, 31, 30, 31]

def daysInMonth (y m : ℕ) : ℕ := (monthLengths y).getD (m - 1) 0

/-- The days of the year before the month begins. -/
def daysBeforeMonth (y m : ℕ) : ℕ := ((monthLengths y).take (m - 1)).sum

def daysInYear (y : ℕ) : ℕ := if IsLeap y then 366 else 365

/-- The days before the year begins. -/
def daysBeforeYear (y : ℕ) : ℕ := (y - 1) * 365 + (y - 1) / 4 - (y - 1) / 100 + (y - 1) / 400

/-- Every fourth year has a day more, but for the hundredth, but for the four hundredth. -/
lemma daysInYear_add (y : ℕ) : daysInYear y + (if y % 100 = 0 then 1 else 0) =
    365 + (if y % 4 = 0 then 1 else 0) + if y % 400 = 0 then 1 else 0 := by
  have hfour : y % 100 = 0 → y % 4 = 0 := by omega
  have hhundred : y % 400 = 0 → y % 100 = 0 := by omega
  by_cases hleap : IsLeap y
  · obtain ⟨h4, h100⟩ := hleap
    rw [daysInYear, if_pos ⟨h4, h100⟩, if_pos h4]
    split_ifs <;> omega
  · rw [daysInYear, if_neg hleap]
    rw [IsLeap] at hleap
    split_ifs <;> omega

lemma daysBeforeYear_succ {y : ℕ} (h : 1 ≤ y) :
    daysBeforeYear (y + 1) = daysBeforeYear y + daysInYear y := by
  obtain ⟨k, rfl⟩ := Nat.exists_eq_add_of_le' h
  have hdiv : ∀ d, (k + 1) / d = k / d + if (k + 1) % d = 0 then 1 else 0 := by
    intro d
    rw [Nat.succ_div]
    simp only [Nat.dvd_iff_mod_eq_zero]
  have hle : k / 100 ≤ k / 4 := Nat.div_le_div_left (by decide) (by decide)
  have hle' : (k + 1) / 100 ≤ (k + 1) / 4 := Nat.div_le_div_left (by decide) (by decide)
  have hdays := daysInYear_add (k + 1)
  rw [hdiv 4, hdiv 100] at hle'
  simp only [daysBeforeYear, Nat.add_sub_cancel, hdiv]
  generalize k / 4 = a, k / 100 = b, k / 400 = c at *
  omega

lemma daysBeforeYear_add_le {y y' : ℕ} (h : 1 ≤ y) (hlt : y < y') :
    daysBeforeYear y + daysInYear y ≤ daysBeforeYear y' := by
  induction y', hlt using Nat.le_induction with
  | base => exact (daysBeforeYear_succ h).ge
  | succ y' hle ih =>
    rw [daysBeforeYear_succ (by omega)]
    exact ih.trans (Nat.le_add_right _ _)

lemma sum_monthLengths (y : ℕ) : (monthLengths y).sum = daysInYear y := by
  unfold monthLengths daysInYear
  split_ifs <;> rfl

@[simp] lemma length_monthLengths (y : ℕ) : (monthLengths y).length = 12 := rfl

/-- The year of a day and the days of that year before it; days are counted from 0. Cycles of 400,
100 and 4 years are taken out first; the last day of a cycle stands in no shorter one. -/
def splitYear (n : ℕ) : ℕ × ℕ :=
  let cycle := n % 146097
  let century := cycle % 36524
  let four := century % 1461
  let years := n / 146097 * 400 + cycle / 36524 * 100 + century / 1461 * 4 + four / 365
  if four / 365 = 4 ∨ cycle / 36524 = 4 then (years, 365) else (years + 1, four % 365)

lemma splitYear_spec (n : ℕ) :
    1 ≤ (splitYear n).1 ∧ daysBeforeYear (splitYear n).1 + (splitYear n).2 = n ∧
      (splitYear n).2 < daysInYear (splitYear n).1 := by
  obtain ⟨a, cycle, ha, hcycle⟩ : ∃ a cycle, n = 146097 * a + cycle ∧ cycle < 146097 :=
    ⟨n / 146097, n % 146097, (Nat.div_add_mod n 146097).symm, Nat.mod_lt _ (by decide)⟩
  obtain ⟨c, century, hc, hcentury⟩ : ∃ c century, cycle = 36524 * c + century ∧ century < 36524 :=
    ⟨cycle / 36524, cycle % 36524, (Nat.div_add_mod cycle 36524).symm, Nat.mod_lt _ (by decide)⟩
  obtain ⟨q, four, hq, hfour⟩ : ∃ q four, century = 1461 * q + four ∧ four < 1461 :=
    ⟨century / 1461, century % 1461, (Nat.div_add_mod century 1461).symm, Nat.mod_lt _ (by decide)⟩
  obtain ⟨r, day, hr, hday⟩ : ∃ r day, four = 365 * r + day ∧ day < 365 :=
    ⟨four / 365, four % 365, (Nat.div_add_mod four 365).symm, Nat.mod_lt _ (by decide)⟩
  have hsplit : splitYear n = if r = 4 ∨ c = 4 then (a * 400 + c * 100 + q * 4 + r, 365)
      else (a * 400 + c * 100 + q * 4 + r + 1, day) := by
    have h1 : n % 146097 = cycle := by omega
    have h2 : cycle % 36524 = century := by omega
    have h3 : century % 1461 = four := by omega
    have h4 : four / 365 = r := by omega
    have h5 : cycle / 36524 = c := by omega
    have h6 : n / 146097 = a := by omega
    have h7 : century / 1461 = q := by omega
    have h8 : four % 365 = day := by omega
    simp only [splitYear, h1, h2, h3, h4, h5, h6, h7, h8]
  rw [hsplit]
  split_ifs with hlast
  · -- The last day of a leap year.
    have hleap : IsLeap (a * 400 + c * 100 + q * 4 + r) := by
      rw [IsLeap]
      omega
    simp only [daysInYear, if_pos hleap, daysBeforeYear]
    rcases hlast with rfl | rfl
    · have hfours : (a * 400 + c * 100 + q * 4 + 4 - 1) / 4 = a * 100 + c * 25 + q := by omega
      have hcenturies : (a * 400 + c * 100 + q * 4 + 4 - 1) / 100 = a * 4 + c := by omega
      have hcycles : (a * 400 + c * 100 + q * 4 + 4 - 1) / 400 = a := by omega
      rw [hfours, hcenturies, hcycles]
      omega
    · obtain ⟨rfl, rfl⟩ : q = 0 ∧ r = 0 := by omega
      have hfours : (a * 400 + 4 * 100 + 0 * 4 + 0 - 1) / 4 = a * 100 + 99 := by omega
      have hcenturies : (a * 400 + 4 * 100 + 0 * 4 + 0 - 1) / 100 = a * 4 + 3 := by omega
      have hcycles : (a * 400 + 4 * 100 + 0 * 4 + 0 - 1) / 400 = a := by omega
      rw [hfours, hcenturies, hcycles]
      omega
  · obtain ⟨hr4, hc4⟩ := not_or.mp hlast
    have hfours : (a * 400 + c * 100 + q * 4 + r) / 4 = a * 100 + c * 25 + q := by omega
    have hcenturies : (a * 400 + c * 100 + q * 4 + r) / 100 = a * 4 + c := by omega
    have hcycles : (a * 400 + c * 100 + q * 4 + r) / 400 = a := by omega
    simp only [daysBeforeYear, Nat.add_sub_cancel]
    rw [hfours, hcenturies, hcycles]
    refine ⟨by omega, by omega, ?_⟩
    rw [daysInYear]
    split_ifs
    · omega
    · exact hday

/-! ### Blocks of days -/

/-- Where a day stands in consecutive blocks of days: the blocks before its own, and the days before
it in its own. -/
def splitDays : List ℕ → ℕ → ℕ × ℕ
  | [], n     => (0, n)
  | l :: ls, n => if n < l then (0, n) else ((splitDays ls (n - l)).1 + 1, (splitDays ls (n - l)).2)

lemma splitDays_spec {ls : List ℕ} {n : ℕ} (h : n < ls.sum) :
    (splitDays ls n).1 < ls.length ∧ (splitDays ls n).2 < ls.getD (splitDays ls n).1 0 ∧
      (ls.take (splitDays ls n).1).sum + (splitDays ls n).2 = n := by
  induction ls generalizing n with
  | nil => simp at h
  | cons l ls ih =>
    rw [splitDays]
    split_ifs with hn
    · simp [hn]
    · rw [List.sum_cons] at h
      obtain ⟨hblock, hday, hsum⟩ := ih (n := n - l) (by omega)
      refine ⟨by simpa using hblock, by simpa using hday, ?_⟩
      rw [List.take_succ_cons, List.sum_cons]
      omega

/-- The days before a block are at most those before a later one, less its own. -/
lemma sum_take_add_getD_le {ls : List ℕ} {i j : ℕ} (h : i < j) :
    (ls.take i).sum + ls.getD i 0 ≤ (ls.take j).sum := by
  induction ls generalizing i j with
  | nil => simp
  | cons l ls ih =>
    cases j with
    | zero => omega
    | succ j =>
      cases i with
      | zero => simp
      | succ i =>
        have hle := ih (i := i) (j := j) (by omega)
        simp only [List.take_succ_cons, List.sum_cons, List.getD_cons_succ]
        omega

/-! ### Dates -/

/-- The year, month and day are those of a date. -/
def IsDate (year month day : ℕ) : Prop :=
  (1 ≤ year ∧ year ≤ 9999) ∧ (1 ≤ month ∧ month ≤ 12) ∧ 1 ≤ day ∧ day ≤ daysInMonth year month

instance (year month day : ℕ) : Decidable (IsDate year month day) :=
  inferInstanceAs (Decidable (_ ∧ _))

/-- A date of the years 1 to 9999. -/
@[ext] structure CivilDate where
  year : ℕ
  month : ℕ
  day : ℕ
  isDate : IsDate year month day
  deriving DecidableEq, Repr

namespace CivilDate

variable (d e : CivilDate)

/-- The number of the day in its year. -/
def dayOfYear : ℕ := daysBeforeMonth d.year d.month + d.day

/-- `date.toordinal`. -/
def ordinal : ℕ := daysBeforeYear d.year + d.dayOfYear

lemma dayOfYear_pos : 1 ≤ d.dayOfYear := d.isDate.2.2.1.trans (Nat.le_add_left _ _)

lemma dayOfYear_le : d.dayOfYear ≤ daysInYear d.year := by
  obtain ⟨-, ⟨hm, hm'⟩, -, hday⟩ := d.isDate
  have hle : daysBeforeMonth d.year d.month + daysInMonth d.year d.month ≤
      ((monthLengths d.year).take 12).sum := sum_take_add_getD_le (by omega)
  rw [List.take_of_length_le (by simp), sum_monthLengths] at hle
  rw [dayOfYear]
  omega

lemma day_le : d.day ≤ 366 := calc
  d.day ≤ d.dayOfYear := Nat.le_add_left _ _
  _ ≤ daysInYear d.year := d.dayOfYear_le
  _ ≤ 366 := by
    rw [daysInYear]
    split_ifs <;> decide

variable {d e}

lemma ordinal_lt_of_year (h : d.year < e.year) : d.ordinal < e.ordinal := by
  have hle := daysBeforeYear_add_le d.isDate.1.1 h
  have hd := d.dayOfYear_le
  have he := e.dayOfYear_pos
  unfold ordinal
  omega

lemma ordinal_lt_of_month (hyear : d.year = e.year) (h : d.month < e.month) :
    d.ordinal < e.ordinal := by
  have hle : daysBeforeMonth d.year d.month + daysInMonth d.year d.month ≤
      daysBeforeMonth d.year e.month := by
    have := d.isDate.2.1.1
    exact sum_take_add_getD_le (by omega)
  have hd := d.isDate.2.2.2
  have he := e.isDate.2.2.1
  unfold ordinal dayOfYear
  rw [← hyear]
  omega

lemma ordinal_lt_of_day (hyear : d.year = e.year) (hmonth : d.month = e.month)
    (h : d.day < e.day) : d.ordinal < e.ordinal := by
  unfold ordinal dayOfYear
  rw [← hyear, ← hmonth]
  omega

/-- Dates are ordered by year, month and day. -/
theorem ordinal_lt_iff : d.ordinal < e.ordinal ↔ d.year < e.year ∨ d.year = e.year ∧
    (d.month < e.month ∨ d.month = e.month ∧ d.day < e.day) := by
  constructor
  · intro h
    rcases lt_trichotomy d.year e.year with hy | hy | hy
    · exact .inl hy
    · refine .inr ⟨hy, ?_⟩
      rcases lt_trichotomy d.month e.month with hm | hm | hm
      · exact .inl hm
      · refine .inr ⟨hm, ?_⟩
        by_contra hday
        rcases (not_lt.mp hday).eq_or_lt with heq | hlt
        · unfold ordinal dayOfYear at h
          rw [hy, hm, heq] at h
          exact absurd h (lt_irrefl _)
        · exact absurd (ordinal_lt_of_day hy.symm hm.symm hlt) (not_lt.mpr h.le)
      · exact absurd (ordinal_lt_of_month hy.symm hm) (not_lt.mpr h.le)
    · exact absurd (ordinal_lt_of_year hy) (not_lt.mpr h.le)
  · rintro (hy | ⟨hy, hm | ⟨hm, hday⟩⟩)
    · exact ordinal_lt_of_year hy
    · exact ordinal_lt_of_month hy hm
    · exact ordinal_lt_of_day hy hm hday

theorem ordinal_injective : Function.Injective ordinal := by
  intro d e h
  have hlt := (ordinal_lt_iff (d := d) (e := e)).not.mp (by omega)
  have hgt := (ordinal_lt_iff (d := e) (e := d)).not.mp (by omega)
  ext <;> omega

/-! ### Dates of ordinals -/

/-- The ordinal of 31 December 9999. -/
def maxOrdinal : ℕ := 3652059

lemma ordinal_pos (d : CivilDate) : 1 ≤ d.ordinal := d.dayOfYear_pos.trans (Nat.le_add_left _ _)

lemma ordinal_le (d : CivilDate) : d.ordinal ≤ maxOrdinal := by
  have hday := d.dayOfYear_le
  have hyear : d.year < 10000 := by
    have := d.isDate.1.2
    omega
  have hle := daysBeforeYear_add_le d.isDate.1.1 hyear
  have hmax : daysBeforeYear 10000 = maxOrdinal := by decide
  rw [ordinal]
  omega

/-- `date.fromordinal`. -/
def ofOrdinal (n : ℕ) (h : 1 ≤ n ∧ n ≤ maxOrdinal) : CivilDate where
  year := (splitYear (n - 1)).1
  month := (splitDays (monthLengths (splitYear (n - 1)).1) (splitYear (n - 1)).2).1 + 1
  day := (splitDays (monthLengths (splitYear (n - 1)).1) (splitYear (n - 1)).2).2 + 1
  isDate := by
    obtain ⟨hyear, hsum, hday⟩ := splitYear_spec (n - 1)
    obtain ⟨hmonth, hlast, -⟩ := splitDays_spec (by rwa [← sum_monthLengths] at hday)
    refine ⟨⟨hyear, ?_⟩, ⟨by omega, ?_⟩, by omega, ?_⟩
    · by_contra hlarge
      have hle := daysBeforeYear_add_le (y := 9999) (by decide) (not_le.mp hlarge)
      have hmax : daysBeforeYear 9999 + daysInYear 9999 = maxOrdinal := by decide
      omega
    · rw [length_monthLengths] at hmonth
      omega
    · rw [daysInMonth, Nat.add_sub_cancel]
      omega

@[simp] lemma ordinal_ofOrdinal {n : ℕ} (h : 1 ≤ n ∧ n ≤ maxOrdinal) :
    (ofOrdinal n h).ordinal = n := by
  obtain ⟨-, hsum, hday⟩ := splitYear_spec (n - 1)
  obtain ⟨-, -, hsplit⟩ := splitDays_spec (by rwa [← sum_monthLengths] at hday)
  simp only [ordinal, dayOfYear, daysBeforeMonth, ofOrdinal, Nat.add_sub_cancel]
  omega

@[simp] lemma ofOrdinal_ordinal (d : CivilDate) :
    ofOrdinal d.ordinal ⟨d.ordinal_pos, d.ordinal_le⟩ = d :=
  ordinal_injective (ordinal_ofOrdinal _)

end CivilDate

end FleetMonitor.Library
