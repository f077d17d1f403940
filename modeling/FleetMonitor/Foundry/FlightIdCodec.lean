import FleetMonitor.Foundry.MalformedIds
import Mathlib.Data.Set.Basic

/-!
# The codec of flight ids

`parse_flight_id` is to undo `synthesize_flight_id`, up to the whole second of the takeoff. The
seconds come from a double: in the last microseconds of a second so late that its unit in the last
place is larger than what is left, they are those of the next second. Short of that the two are
inverse to each other, whatever the hyphens of the address.
-/

namespace FleetMonitor

open Library

/-! ### Times that round up -/

/-- The seconds of a time, a double, are those of the next second. -/
def RoundsUp (t : Instant) : Prop :=
  2 ^ (53 - Nat.log2 (t.natAbs / 1000000)) * (1000000 - t.natAbs % 1000000) ≤ 1000000

instance : DecidablePred RoundsUp := fun _ => Nat.decLe _ _

/-- The beginning of the second. -/
def wholeSecond (t : Instant) : Instant := (t / 1000000 * 1000000 : ℤ)

/-- The UTC takeoff instants a `datetime` can have from the epoch on. -/
def takeoffTimes : Set Instant := {t | (0 : ℤ) ≤ t ∧ t < (253402300800000000 : ℤ)}

/-- An even number is reached by rounding from a half below it on. -/
lemma le_roundHalfEven_iff {a b n : ℕ} (hb : 0 < b) (heven : n % 2 = 0) :
    n ≤ roundHalfEven a b ↔ 2 * n * b ≤ 2 * a + b := by
  have hmod : a % b < b := Nat.mod_lt a hb
  have hdiv : a = b * (a / b) + a % b := (Nat.div_add_mod a b).symm
  obtain ⟨hlow, hhigh⟩ := roundHalfEven_bounds a b
  rcases lt_trichotomy n (a / b + 1) with hlt | heq | hgt
  · refine iff_of_true ((Nat.le_of_lt_succ hlt).trans hlow) ?_
    calc 2 * n * b ≤ 2 * (a / b) * b :=
          Nat.mul_le_mul_right b (Nat.mul_le_mul_left 2 (Nat.le_of_lt_succ hlt))
      _ = 2 * (b * (a / b)) := by ring
      _ ≤ 2 * a + b := by omega
  · -- the next number up: it is even, so that a tie goes to it
    have hproduct : 2 * n * b = 2 * (b * (a / b)) + 2 * b := by
      rw [heq]
      ring
    rw [hproduct]
    simp only [roundHalfEven]
    split_ifs <;> omega
  · refine iff_of_false (by omega) ?_
    have hstep : 2 * (a / b + 2) * b ≤ 2 * n * b :=
      Nat.mul_le_mul_right b (Nat.mul_le_mul_left 2 hgt)
    have hproduct : 2 * (a / b + 2) * b = 2 * (b * (a / b)) + 4 * b := by ring
    omega

/-- The seconds of a takeoff have at most 38 bits. -/
lemma log2_seconds_lt {t : Instant} (h : t ∈ takeoffTimes) :
    Nat.log2 (t.natAbs / 1000000) < 38 := by
  have hrange : ∀ n : ℤ, 0 ≤ n → n < 253402300800000000 → n.natAbs / 1000000 < 2 ^ 38 := by omega
  have hseconds := hrange t h.1 h.2
  rcases Nat.eq_zero_or_pos (t.natAbs / 1000000) with hnil | hpos
  · rw [hnil]
    decide
  · exact (Nat.log2_lt hpos.ne').mpr hseconds

/-- Rounding reaches the next second exactly for a time that rounds up. -/
lemma succ_le_seconds_iff {t : Instant} (h : t ∈ takeoffTimes) :
    t.natAbs / 1000000 + 1 ≤ roundHalfEven (t.natAbs * 2 ^ (52 - Nat.log2 (t.natAbs / 1000000)))
        1000000 / 2 ^ (52 - Nat.log2 (t.natAbs / 1000000)) ↔ RoundsUp t := by
  have hlog := log2_seconds_lt h
  obtain ⟨k, hk⟩ : ∃ k, 52 - Nat.log2 (t.natAbs / 1000000) = k + 1 :=
    ⟨51 - Nat.log2 (t.natAbs / 1000000), by omega⟩
  have hexp : 53 - Nat.log2 (t.natAbs / 1000000) = k + 1 + 1 := by omega
  have hsplit : t.natAbs = t.natAbs / 1000000 * 1000000 + t.natAbs % 1000000 := by omega
  have hmod : t.natAbs % 1000000 < 1000000 := Nat.mod_lt _ (by decide)
  rw [RoundsUp, hk, hexp]
  generalize t.natAbs / 1000000 = s at hsplit
  generalize t.natAbs % 1000000 = f at hsplit hmod
  obtain ⟨g, hg⟩ := Nat.exists_eq_add_of_lt hmod
  have hscale : 0 < 2 ^ (k + 1) := Nat.two_pow_pos _
  have heven : (s + 1) * 2 ^ (k + 1) % 2 = 0 := by
    rw [pow_succ, ← Nat.mul_assoc]
    exact Nat.mul_mod_left _ 2
  rw [Nat.le_div_iff_mul_le hscale, le_roundHalfEven_iff (by decide) heven, hsplit, pow_succ 2 (k + 1)]
  generalize 2 ^ (k + 1) = c
  -- what both sides have in common is the second and the part of it that has passed
  have hnext : 2 * ((s + 1) * c) * 1000000 = 2 * (s * 1000000 + f) * c + c * 2 * (1000000 - f) := by
    have hleft : 1000000 - f = g + 1 := by omega
    rw [hleft, hg]
    ring
  have hcomm : 2 * ((s * 1000000 + f) * c) = 2 * (s * 1000000 + f) * c := (Nat.mul_assoc _ _ _).symm
  rw [hnext, hcomm]
  exact Nat.add_le_add_iff_left

/-- The seconds of a takeoff: its own, or the next when it rounds up. -/
lemma timestampSeconds_of_takeoff {t : Instant} (h : t ∈ takeoffTimes) :
    timestampSeconds t = (t.natAbs / 1000000 + (if RoundsUp t then 1 else 0) : ℕ) := by
  have hscale : 0 < 2 ^ (52 - Nat.log2 (t.natAbs / 1000000)) := Nat.two_pow_pos _
  have hiff := succ_le_seconds_iff h
  obtain ⟨hlow, hhigh⟩ := seconds_bounds t.natAbs _ hscale
  rw [timestampSeconds]
  generalize roundHalfEven (t.natAbs * 2 ^ (52 - Nat.log2 (t.natAbs / 1000000))) 1000000 /
    2 ^ (52 - Nat.log2 (t.natAbs / 1000000)) = n at hiff hlow hhigh
  have hn : n = t.natAbs / 1000000 + if RoundsUp t then 1 else 0 := by
    split_ifs with hup
    · exact le_antisymm hhigh (hiff.mpr hup)
    · exact le_antisymm (Nat.le_of_lt_succ (not_le.mp (mt hiff.mp hup))) hlow
  rcases eq_or_lt_of_le h.1 with hzero | hpos
  · obtain rfl : t = (0 : ℤ) := hzero.symm
    rw [Int.sign_zero, zero_mul]
    rfl
  · show Int.sign t * (n : ℤ) = _
    rw [Int.sign_eq_one_of_pos hpos, one_mul, hn]

/-! ### The codec -/

/-- The part after the last hyphen is a canonical decimal number. -/
def CanonicalId (flightId : String) : Prop :=
  ∃ (icao24 : List Char) (n : ℕ), flightId.toList = icao24 ++ '-' :: Nat.toDigits 10 n

/-- The two functions are inverse to each other, for takeoffs at the given times. -/
structure IsCodecFor (times : Set Instant) : Prop where
  roundTrip : ∀ icao24 ≠ "", ∀ t ∈ times,
    parseFlightId (synthesizeFlightId icao24 t) = .ok (icao24, wholeSecond t)
  resynthesis : ∀ flightId icao24 t, parseFlightId flightId = .ok (icao24, t) →
    CanonicalId flightId → synthesizeFlightId icao24 t = flightId
  injective : ∀ icao24 ≠ "", ∀ icao24' ≠ "", ∀ t ∈ times, ∀ t' ∈ times,
    synthesizeFlightId icao24 t = synthesizeFlightId icao24' t' →
      icao24 = icao24' ∧ wholeSecond t = wholeSecond t'

/-- The seconds of a takeoff are those of a `datetime`. -/
lemma seconds_lt_of_takeoff {t : Instant} (h : t ∈ takeoffTimes) :
    t.natAbs / 1000000 < 253402300800 := by
  have hrange : ∀ n : ℤ, 0 ≤ n → n < 253402300800000000 → n.natAbs / 1000000 < 253402300800 := by
    omega
  exact hrange t h.1 h.2

lemma wholeSecond_of_takeoff {t : Instant} (h : t ∈ takeoffTimes) :
    wholeSecond t = ((t.natAbs / 1000000 : ℕ) * 1000000 : ℤ) := by
  have hrange :
      ∀ n : ℤ, 0 ≤ n → n / 1000000 * 1000000 = ((n.natAbs / 1000000 : ℕ) * 1000000 : ℤ) := by
    omega
  exact hrange t h.1

lemma fromTimestamp_of_lt {n : ℕ} (h : n < 253402300800) :
    fromTimestamp n = .ok ((n : ℤ) * 1000000 : ℤ) := by
  rw [fromTimestamp, if_neg (by omega), if_neg (by omega)]

lemma lt_of_fromTimestamp {n : ℕ} {t : Instant} (h : fromTimestamp n = .ok t) :
    n < 253402300800 := by
  rw [fromTimestamp] at h
  split_ifs at h
  omega

/-- The id of a takeoff is parsed into its address and its whole second exactly when the time does
not round up. -/
lemma roundTrip_iff {icao24 : String} {t : Instant} (hicao24 : icao24 ≠ "")
    (ht : t ∈ takeoffTimes) :
    parseFlightId (synthesizeFlightId icao24 t) = .ok (icao24, wholeSecond t) ↔ ¬RoundsUp t := by
  have hseconds := timestampSeconds_of_takeoff ht
  have hlt := seconds_lt_of_takeoff ht
  split_ifs at hseconds with hup
  · have hdigits : t.natAbs / 1000000 + 1 < 10 ^ intMaxStrDigits := lt_intMaxStrDigits (by omega)
    rw [parseFlightId_synthesizeFlightId hicao24 hseconds hdigits, wholeSecond_of_takeoff ht]
    refine iff_of_false (fun heq => ?_) (not_not.mpr hup)
    cases hts : fromTimestamp (t.natAbs / 1000000 + 1 : ℕ) with
    | error e =>
      rw [hts] at heq
      cases heq
    | ok ts =>
      rw [hts] at heq
      have htime := (Prod.mk.inj (Except.ok.inj heq)).2
      have hnext := fromTimestamp_eq_ok hts
      have hne : ∀ n : ℕ, ((n + 1 : ℕ) : ℤ) * 1000000 ≠ (n : ℤ) * 1000000 := by omega
      exact hne _ (hnext.symm.trans htime)
  · have hdigits : t.natAbs / 1000000 < 10 ^ intMaxStrDigits := lt_intMaxStrDigits (by omega)
    refine iff_of_true ?_ hup
    rw [Nat.add_zero] at hseconds
    rw [parseFlightId_synthesizeFlightId hicao24 hseconds hdigits, fromTimestamp_of_lt hlt,
      wholeSecond_of_takeoff ht]
    rfl

/-- A whole second does not round up. -/
lemma not_roundsUp_of_whole {t : Instant} (ht : t ∈ takeoffTimes) (h : t.natAbs % 1000000 = 0) :
    ¬RoundsUp t := by
  have hlog := log2_seconds_lt ht
  have hscale : 1 < 2 ^ (53 - Nat.log2 (t.natAbs / 1000000)) := Nat.one_lt_two_pow (by omega)
  rw [RoundsUp, h]
  omega

/-- A whole second is converted without loss. -/
lemma timestampSeconds_natCast {n : ℕ} (h : n < 253402300800) :
    timestampSeconds ((n : ℤ) * 1000000 : ℤ) = n := by
  have habs : ((n : ℤ) * 1000000).natAbs = n * 1000000 := by omega
  have htakeoff : ((n : ℤ) * 1000000 : ℤ) ∈ takeoffTimes :=
    ⟨show (0 : ℤ) ≤ (n : ℤ) * 1000000 by omega, show (n : ℤ) * 1000000 < 253402300800000000 by omega⟩
  have hdown := not_roundsUp_of_whole htakeoff (habs ▸ Nat.mul_mod_left n 1000000)
  have hseconds := timestampSeconds_of_takeoff htakeoff
  rwa [if_neg hdown, habs, Nat.mul_div_cancel n (by decide), Nat.add_zero] at hseconds

/-- An accepted id with a canonical number is the id of what it is parsed into. -/
lemma synthesizeFlightId_parseFlightId {flightId icao24 : String} {t : Instant}
    (h : parseFlightId flightId = .ok (icao24, t)) (hcanonical : CanonicalId flightId) :
    synthesizeFlightId icao24 t = flightId := by
  obtain ⟨front, n, hid⟩ := hcanonical
  rw [parseFlightId_append hid (hyphen_notMem_repr n)] at h
  split_ifs at h
  cases hint : pyInt (Nat.toDigits 10 n) with
  | none =>
    rw [hint] at h
    cases h
  | some seconds =>
    obtain rfl : (n : ℤ) = seconds :=
      Option.some.inj ((pyInt_toDigits (lt_of_pyInt_toDigits hint)).symm.trans hint)
    rw [hint] at h
    cases hts : fromTimestamp n with
    | error e =>
      rw [Option.elim_some, hts] at h
      cases h
    | ok ts =>
      rw [Option.elim_some, hts] at h
      obtain ⟨rfl, rfl⟩ := Prod.mk.inj (Except.ok.inj h)
      rw [synthesizeFlightId_eq, String.toList_ofList, fromTimestamp_eq_ok hts,
        timestampSeconds_natCast (lt_of_fromTimestamp hts), toList_toString,
        if_pos (Int.natCast_nonneg n), Int.toNat_natCast, ← hid, String.ofList_toList]

/-- The ids of takeoffs are equal only for the same address and the same seconds, whatever hyphens
the addresses have. -/
lemma synthesizeFlightId_takeoff_inj {icao24 icao24' : String} {t t' : Instant}
    (ht : t ∈ takeoffTimes) (ht' : t' ∈ takeoffTimes)
    (h : synthesizeFlightId icao24 t = synthesizeFlightId icao24' t') :
    icao24 = icao24' ∧ timestampSeconds t = timestampSeconds t' := by
  have hhyphen :
      ∀ {u : Instant}, u ∈ takeoffTimes → '-' ∉ (toString (timestampSeconds u)).toList := by
    intro u hu
    rw [timestampSeconds_of_takeoff hu, toList_toString, if_pos (Int.natCast_nonneg _)]
    exact hyphen_notMem_repr _
  have hchars := congrArg String.toList h
  rw [toList_synthesizeFlightId, toList_synthesizeFlightId] at hchars
  obtain ⟨haddress, hseconds⟩ := append_hyphen_inj (hhyphen ht) (hhyphen ht') hchars
  exact ⟨String.toList_injective haddress, toString_injective hseconds⟩

/-- The codec works for takeoffs at the given times exactly when none of them rounds up. -/
theorem isCodecFor_iff (times : Set Instant) (htimes : times ⊆ takeoffTimes) :
    IsCodecFor times ↔ ∀ t ∈ times, ¬RoundsUp t := by
  constructor
  · intro h t ht
    have hicao24 : "a0b1c2" ≠ "" := by decide
    exact (roundTrip_iff hicao24 (htimes ht)).mp (h.roundTrip "a0b1c2" hicao24 t ht)
  · intro h
    refine
      { roundTrip := fun icao24 hicao24 t ht => (roundTrip_iff hicao24 (htimes ht)).mpr (h t ht)
        resynthesis := fun flightId icao24 t => synthesizeFlightId_parseFlightId
        injective := fun icao24 _ icao24' _ t ht t' ht' heq => ?_ }
    obtain ⟨haddress, hseconds⟩ := synthesizeFlightId_takeoff_inj (htimes ht) (htimes ht') heq
    rw [timestampSeconds_of_takeoff (htimes ht), timestampSeconds_of_takeoff (htimes ht'),
      if_neg (h t ht), if_neg (h t' ht')] at hseconds
    refine ⟨haddress, ?_⟩
    rw [wholeSecond_of_takeoff (htimes ht), wholeSecond_of_takeoff (htimes ht')]
    exact congrArg (· * 1000000) hseconds

/-- A second of at most 34 bits does not round up: its last microsecond is far from the next. -/
lemma not_roundsUp_of_lt {t : Instant} (h : t.natAbs / 1000000 < 2 ^ 34) : ¬RoundsUp t := by
  have hlog : Nat.log2 (t.natAbs / 1000000) < 34 := by
    rcases Nat.eq_zero_or_pos (t.natAbs / 1000000) with hnil | hpos
    · rw [hnil]
      decide
    · exact (Nat.log2_lt hpos.ne').mpr h
  have hscale : 2 ^ 20 ≤ 2 ^ (53 - Nat.log2 (t.natAbs / 1000000)) :=
    Nat.pow_le_pow_right (by decide) (by omega)
  have hleft : 1 ≤ 1000000 - t.natAbs % 1000000 := by omega
  have hproduct := Nat.mul_le_mul hscale hleft
  rw [RoundsUp, not_le]
  exact lt_of_lt_of_le (by decide) hproduct

/-- The codec works for the next five centuries. -/
theorem isCodecFor_centuries :
    IsCodecFor {t | (0 : ℤ) ≤ t ∧ t < (17179869184000000 : ℤ)} := by
  refine (isCodecFor_iff _ fun t ht => ⟨ht.1, ht.2.trans (by decide)⟩).mpr fun t ht => ?_
  have hrange : ∀ n : ℤ, 0 ≤ n → n < 17179869184000000 → n.natAbs / 1000000 < 2 ^ 34 := by omega
  exact not_roundsUp_of_lt (hrange t ht.1 ht.2)

/-- The last moment of a `datetime` gets an id that is not parsed. -/
theorem last_moment_not_parsed : ¬IsCodecFor takeoffTimes := by
  intro h
  have hlast : (253402300799999999 : ℤ) ∈ takeoffTimes :=
    ⟨show (0 : ℤ) ≤ 253402300799999999 by decide,
      show (253402300799999999 : ℤ) < 253402300800000000 by decide⟩
  have hparsed := h.roundTrip "a0b1c2" (by decide) _ hlast
  have hup : RoundsUp (253402300799999999 : ℤ) := by decide +kernel
  exact (roundTrip_iff (by decide) hlast).mp hparsed hup

end FleetMonitor
