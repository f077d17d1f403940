import FleetMonitor.Foundry.FlightLifecycle
import Mathlib.Tactic.Ring

/-!
# Flight ids

What `synthesize_flight_id` and `parse_flight_id` are to each other. The seconds of a takeoff are
read off a double, which may round up, and they are cut towards zero; takeoffs two seconds apart
have different seconds all the same. A transponder address has no hyphen, so two ids are equal only
if both halves are. Parsing gives the halves back, except for a takeoff before the epoch.
-/

namespace FleetMonitor

open Library

/-! ### Seconds -/

lemma roundHalfEven_bounds (a b : ℕ) :
    a / b ≤ roundHalfEven a b ∧ roundHalfEven a b ≤ a / b + 1 := by
  have hmod : a / b % 2 < 2 := Nat.mod_lt _ (by decide)
  simp only [roundHalfEven]
  split_ifs <;> constructor <;> omega

/-- The seconds of a time after the epoch, up to the rounding. -/
lemma seconds_bounds (micros scale : ℕ) (hscale : 0 < scale) :
    micros / 1000000 ≤ roundHalfEven (micros * scale) 1000000 / scale ∧
      roundHalfEven (micros * scale) 1000000 / scale ≤ micros / 1000000 + 1 := by
  obtain ⟨hlow, hhigh⟩ := roundHalfEven_bounds (micros * scale) 1000000
  constructor
  · rw [Nat.le_div_iff_mul_le hscale]
    refine le_trans ?_ hlow
    rw [Nat.le_div_iff_mul_le (by decide)]
    calc micros / 1000000 * scale * 1000000
        = micros / 1000000 * 1000000 * scale := by ring
      _ ≤ micros * scale := Nat.mul_le_mul_right _ (Nat.div_mul_le_self _ _)
  · rw [Nat.div_le_iff_le_mul_add_pred hscale]
    have hlt : micros * scale / 1000000 < (micros / 1000000 + 1) * scale := by
      rw [Nat.div_lt_iff_lt_mul (by decide)]
      have hmicros : micros < (micros / 1000000 + 1) * 1000000 := by omega
      calc micros * scale < (micros / 1000000 + 1) * 1000000 * scale :=
            Nat.mul_lt_mul_of_pos_right hmicros hscale
        _ = (micros / 1000000 + 1) * scale * 1000000 := by ring
    have hcomm : (micros / 1000000 + 1) * scale = scale * (micros / 1000000 + 1) := Nat.mul_comm _ _
    omega

/-- The absolute value of the seconds, between the floor and the next second. -/
lemma timestampSeconds_eq (t : ℤ) : ∃ n : ℕ, timestampSeconds t = Int.sign t * n ∧
    t.natAbs / 1000000 ≤ n ∧ n ≤ t.natAbs / 1000000 + 1 := by
  have hscale : 0 < 2 ^ (52 - Nat.log2 (t.natAbs / 1000000)) := Nat.two_pow_pos _
  exact ⟨_, rfl, seconds_bounds t.natAbs _ hscale⟩

/-- Takeoffs two seconds apart have different seconds, in order. -/
lemma timestampSeconds_lt {a b : ℤ} (h : a + 2000000 ≤ b) :
    timestampSeconds a < timestampSeconds b := by
  obtain ⟨m, ham, hmlow, hmhigh⟩ := timestampSeconds_eq a
  obtain ⟨n, hbn, hnlow, hnhigh⟩ := timestampSeconds_eq b
  rw [ham, hbn]
  rcases lt_trichotomy a 0 with ha | rfl | ha
  · rw [Int.sign_eq_neg_one_of_neg ha]
    rcases lt_trichotomy b 0 with hb | rfl | hb
    · rw [Int.sign_eq_neg_one_of_neg hb]
      omega
    · simp only [Int.sign_zero]
      omega
    · rw [Int.sign_eq_one_of_pos hb]
      omega
  · rw [Int.sign_zero, Int.sign_eq_one_of_pos (by omega)]
    omega
  · rw [Int.sign_eq_one_of_pos ha, Int.sign_eq_one_of_pos (by omega)]
    omega

/-! ### Decimal numbers -/

lemma hyphen_notMem_repr (n : ℕ) : '-' ∉ Nat.toDigits 10 n := by
  intro h
  have hdigit := isDigit_of_mem_repr h
  revert hdigit
  decide

lemma toDigits_injective {m n : ℕ} (h : Nat.toDigits 10 m = Nat.toDigits 10 n) : m = n := by
  rw [← Nat.ofDigitChars_ten_toDigits (n := m), h, Nat.ofDigitChars_ten_toDigits]

/-- The characters of a decimal number. -/
lemma toList_toString (n : ℤ) : (toString n).toList =
    if 0 ≤ n then Nat.toDigits 10 n.toNat else '-' :: Nat.toDigits 10 (-n).toNat := by
  rw [Int.toString_eq_repr, Int.repr_eq_if]
  split_ifs
  · exact Nat.toList_repr
  · rw [String.toList_append, Nat.toList_repr]
    rfl

lemma toString_injective {m n : ℤ} (h : (toString m).toList = (toString n).toList) : m = n := by
  rw [toList_toString, toList_toString] at h
  split_ifs at h with hm hn hn
  · have := toDigits_injective h
    omega
  · exact absurd (h ▸ List.mem_cons_self) (hyphen_notMem_repr _)
  · exact absurd (h ▸ List.mem_cons_self) (hyphen_notMem_repr _)
  · have := toDigits_injective (List.cons.inj h).2
    omega

/-! ### Minted ids -/

/-- What comes before the first hyphen. -/
lemma takeWhile_append_hyphen {cs ds : List Char} (h : '-' ∉ cs) :
    (cs ++ '-' :: ds).takeWhile (· ≠ '-') = cs := by
  have hall : ∀ c ∈ cs, decide (c ≠ '-') = true := by
    intro c hc
    rw [decide_eq_true_eq]
    rintro rfl
    exact h hc
  rw [List.takeWhile_append_of_pos hall]
  simp

lemma dropWhile_append_hyphen {cs ds : List Char} (h : '-' ∉ cs) :
    (cs ++ '-' :: ds).dropWhile (· ≠ '-') = '-' :: ds := by
  have hall : ∀ c ∈ cs, decide (c ≠ '-') = true := by
    intro c hc
    rw [decide_eq_true_eq]
    rintro rfl
    exact h hc
  rw [List.dropWhile_append_of_pos hall]
  simp

/-- A text is split at its last hyphen in one way. -/
lemma append_hyphen_inj {cs cs' ds ds' : List Char} (hds : '-' ∉ ds) (hds' : '-' ∉ ds')
    (h : cs ++ '-' :: ds = cs' ++ '-' :: ds') : cs = cs' ∧ ds = ds' := by
  have hreverse : ds.reverse ++ '-' :: cs.reverse = ds'.reverse ++ '-' :: cs'.reverse := by
    have hcongr := congrArg List.reverse h
    simpa using hcongr
  have htake := congrArg (List.takeWhile (· ≠ '-')) hreverse
  rw [takeWhile_append_hyphen (by rwa [List.mem_reverse]),
    takeWhile_append_hyphen (by rwa [List.mem_reverse])] at htake
  obtain rfl := List.reverse_injective htake
  exact ⟨by simpa using hreverse, rfl⟩

lemma toList_synthesizeFlightId (icao24 : String) (t : Instant) :
    (synthesizeFlightId icao24 t).toList =
      icao24.toList ++ '-' :: (toString (timestampSeconds t)).toList := by
  simp [synthesizeFlightId, String.toList_append]

/-- Ids of addresses without a hyphen are equal only if both halves are. -/
lemma synthesizeFlightId_inj {i j : String} {a b : Instant} (hi : '-' ∉ i.toList)
    (hj : '-' ∉ j.toList) (h : synthesizeFlightId i a = synthesizeFlightId j b) :
    i = j ∧ timestampSeconds a = timestampSeconds b := by
  have hchars := congrArg String.toList h
  rw [toList_synthesizeFlightId, toList_synthesizeFlightId] at hchars
  have hleft : i.toList = j.toList := by
    have htake := congrArg (List.takeWhile (· ≠ '-')) hchars
    rwa [takeWhile_append_hyphen hi, takeWhile_append_hyphen hj] at htake
  rw [hleft, List.append_cancel_left_eq, List.cons.injEq] at hchars
  exact ⟨String.toList_injective hleft, toString_injective hchars.2⟩

/-! ### Parsing -/

/-- The two halves of a text with a hyphen before its last digits. -/
lemma parseFlightId_ofList (cs : List Char) {n : ℕ} (h : n < 10 ^ intMaxStrDigits) :
    parseFlightId (String.ofList (cs ++ '-' :: Nat.toDigits 10 n)) =
      if cs = [] then .error .valueError
      else (fromTimestamp n).map fun t => (String.ofList cs, t) := by
  have hhyphen : '-' ∉ (Nat.toDigits 10 n).reverse := by
    rw [List.mem_reverse]
    exact hyphen_notMem_repr n
  have hreverse : (cs ++ '-' :: Nat.toDigits 10 n).reverse =
      (Nat.toDigits 10 n).reverse ++ '-' :: cs.reverse := by simp
  simp only [parseFlightId, String.toList_ofList, hreverse, takeWhile_append_hyphen hhyphen,
    dropWhile_append_hyphen hhyphen, List.drop_one, List.tail_cons, List.reverse_reverse,
    Nat.toDigits_ne_nil, or_false, pyInt_toDigits h]

/-- The characters of an id. -/
lemma synthesizeFlightId_eq (icao24 : String) (t : Instant) : synthesizeFlightId icao24 t =
    String.ofList (icao24.toList ++ '-' :: (toString (timestampSeconds t)).toList) := by
  apply String.toList_injective
  rw [toList_synthesizeFlightId, String.toList_ofList]

/-- An id that `synthesize_flight_id` has minted after the epoch is parsed into its halves. -/
lemma parseFlightId_synthesizeFlightId {icao24 : String} {t : Instant} (hicao24 : icao24 ≠ "")
    {n : ℕ} (hn : timestampSeconds t = n) (h : n < 10 ^ intMaxStrDigits) :
    parseFlightId (synthesizeFlightId icao24 t) =
      (fromTimestamp n).map fun ts => (icao24, ts) := by
  have hne : icao24.toList ≠ [] := by
    intro hnil
    exact hicao24 (String.toList_injective hnil)
  rw [synthesizeFlightId_eq, hn, toList_toString, if_pos (Int.natCast_nonneg n), Int.toNat_natCast,
    parseFlightId_ofList _ h, if_neg hne, String.ofList_toList]

/-- The times a `datetime` can have: the years 1 to 9999. -/
def IsDatetime (t : Instant) : Prop :=
  (-62135596800000000 : ℤ) ≤ t ∧ t < (253402300800000000 : ℤ)

lemma fromTimestamp_ne_overflow {n : ℕ} (h : n < 2 ^ 63) :
    fromTimestamp n ≠ .error .overflowError := by
  rw [fromTimestamp, if_neg (by omega)]
  split_ifs <;> simp

lemma natAbs_timestampSeconds_lt {t : ℤ} (h : IsDatetime t) :
    (timestampSeconds t).natAbs < 2 ^ 63 := by
  have hlow : -62135596800000000 ≤ t := h.1
  have hhigh : t < 253402300800000000 := h.2
  obtain ⟨n, heq, -, hn⟩ := timestampSeconds_eq t
  have hsign : (Int.sign t).natAbs ≤ 1 := by
    rcases lt_trichotomy t 0 with ht | rfl | ht
    · simp [Int.sign_eq_neg_one_of_neg ht]
    · simp
    · simp [Int.sign_eq_one_of_pos ht]
  have hprod : (Int.sign t).natAbs * n ≤ 1 * n := Nat.mul_le_mul_right _ hsign
  rw [heq, Int.natAbs_mul, Int.natAbs_natCast]
  omega

/-- Of an id minted for a `datetime` the part after the last hyphen are digits. -/
lemma synthesizeFlightId_digits (icao24 : String) {t : Instant} (h : IsDatetime t) :
    ∃ (cs : List Char) (n : ℕ), n < 2 ^ 63 ∧
      synthesizeFlightId icao24 t = String.ofList (cs ++ '-' :: Nat.toDigits 10 n) := by
  have hseconds := natAbs_timestampSeconds_lt h
  rw [synthesizeFlightId_eq, toList_toString]
  split_ifs with hsign
  · have habs : (timestampSeconds t).toNat = (timestampSeconds t).natAbs := by omega
    exact ⟨icao24.toList, _, hseconds, by rw [habs]⟩
  · have habs : (-timestampSeconds t).toNat = (timestampSeconds t).natAbs := by omega
    exact ⟨icao24.toList ++ ['-'], _, hseconds, by simp [habs]⟩

lemma lt_intMaxStrDigits {n : ℕ} (h : n < 2 ^ 63) : n < 10 ^ intMaxStrDigits :=
  calc n < 2 ^ 63 := h
    _ ≤ 10 ^ 19 := by decide
    _ ≤ 10 ^ intMaxStrDigits := Nat.pow_le_pow_right (by decide) (by decide)

/-- The time in an id that has been minted for a `datetime` fits. -/
lemma parseFlightId_minted (icao24 : String) {t : Instant} (h : IsDatetime t) :
    parseFlightId (synthesizeFlightId icao24 t) ≠ .error .overflowError := by
  obtain ⟨cs, n, hn, heq⟩ := synthesizeFlightId_digits icao24 h
  rw [heq, parseFlightId_ofList cs (lt_intMaxStrDigits hn)]
  have hfits := fromTimestamp_ne_overflow hn
  split_ifs
  · simp
  · cases hts : fromTimestamp n with
    | ok ts => simp [Except.map]
    | error e =>
      rw [hts] at hfits
      simpa [Except.map] using hfits

lemma fromTimestamp_eq_ok {seconds : ℤ} {t : Instant} (h : fromTimestamp seconds = .ok t) :
    t = (seconds * 1000000 : ℤ) := by
  rw [fromTimestamp] at h
  split_ifs at h
  exact (Except.ok.inj h).symm

/-- Two minted ids that are parsed alike are one. -/
lemma parseFlightId_minted_inj {i j : String} {a b : Instant} (ha : IsDatetime a)
    (hb : IsDatetime b) {parsed : String × Instant}
    (hi : parseFlightId (synthesizeFlightId i a) = .ok parsed)
    (hj : parseFlightId (synthesizeFlightId j b) = .ok parsed) :
    synthesizeFlightId i a = synthesizeFlightId j b := by
  have hparsed : ∀ {icao24 : String} {t : Instant}, IsDatetime t →
      parseFlightId (synthesizeFlightId icao24 t) = .ok parsed →
        ∃ n : ℕ, parsed.2 = ((n : ℤ) * 1000000 : ℤ) ∧ synthesizeFlightId icao24 t =
          String.ofList (parsed.1.toList ++ '-' :: Nat.toDigits 10 n) := by
    intro icao24 t ht hok
    obtain ⟨cs, n, hn, heq⟩ := synthesizeFlightId_digits icao24 ht
    rw [heq, parseFlightId_ofList cs (lt_intMaxStrDigits hn)] at hok
    split_ifs at hok
    cases hts : fromTimestamp n with
    | error e => simp [hts, Except.map] at hok
    | ok ts =>
      rw [hts] at hok
      obtain rfl := Except.ok.inj hok
      exact ⟨n, fromTimestamp_eq_ok hts, by rw [heq, String.toList_ofList]⟩
  obtain ⟨m, hm, hmid⟩ := hparsed ha hi
  obtain ⟨n, hn, hnid⟩ := hparsed hb hj
  have hmn : (m : ℤ) = n := by
    have hmicros : (m : ℤ) * 1000000 = (n : ℤ) * 1000000 := hm.symm.trans hn
    omega
  rw [hmid, hnid, Int.natCast_inj.mp hmn]

end FleetMonitor
