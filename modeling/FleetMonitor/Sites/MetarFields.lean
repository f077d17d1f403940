import FleetMonitor.Sites.Conditions

/-!
# The fields of a METAR

`_parse_metar` reads null for a field that is missing or is no number. A field that is a number is
converted whatever its value, and so is the text of a visibility that ends in a plus sign; what the
conversion raises is not caught, and one field of one station ends the run for all of them. A body
that is nested too deeply for `response.json()` is left out.
-/

namespace FleetMonitor

open Library

/-! ### What is read -/

/-- A visibility: finite and not negative. -/
def IsVisibility : FloatValue → Prop
  | .finite x => 0 ≤ x
  | _         => False

/-- A time of observation that is a date, or not after the epoch, or no number at all. -/
def IsEpoch : Json → Prop
  | .int n                    => n ≤ 253402300799
  | .float (.finite x)        => x < 253402300800
  | .float (.infinite negative) => negative = true
  | _                         => True

/-- A number that `int` converts, or no number. -/
def IsTruncatable : Json → Prop
  | .float x => x.isFinite = true
  | _        => True

/-- A number that `float` converts, or no number. -/
def IsFloatable : Json → Prop
  | .int n => n.natAbs < 2 ^ 1024 - 2 ^ 970
  | _      => True

variable (py : TextFunctions)

/-- The text ends in a plus sign after digits with at most one point. -/
def IsCapped (s : List Char) : Prop :=
  s.getLast? = some '+' ∧ py.isDigit (String.ofList (s.dropLast.erase '.')) = true

/-- A value that is read as a visibility, or as none. -/
def IsVisibilityValue : Json → Prop
  | .int n    => 0 ≤ n ∧ n.natAbs < 2 ^ 1024 - 2 ^ 970
  | .float x  => IsVisibility x
  | .str text =>
    let s := (strip text).toList
    (IsCapped py s → ∃ x, py.float (String.ofList s.dropLast) = some x ∧ IsVisibility x) ∧
      (¬IsCapped py s → ∀ x, py.float (String.ofList s) = some x → IsVisibility x)
  | _ => True

/-- A METAR of which every field is read. -/
structure IsReadableMetar (item : JsonObject) : Prop where
  obsTime : IsEpoch (item.get "obsTime")
  wspd : IsTruncatable (item.get "wspd")
  wdir : IsTruncatable (item.get "wdir")
  visib : IsVisibilityValue py (item.get "visib")
  temp : IsFloatable (item.get "temp")
  altim : IsFloatable (item.get "altim")

/-! ### What is promised -/

/-- The report of a METAR: a field that cannot be converted is null, and a visibility is one. -/
structure IsTolerantReport (item : JsonObject) (report : NoaaMetarReport) : Prop where
  icao : report.icao = reportIcao py item
  rawText : report.rawText = strOrNone (item.get "rawOb")
  observedAt : report.observedAt = (parseObsTime (item.get "obsTime")).toOption.join
  windKt : report.windKt = (intOrNone (item.get "wspd")).toOption.join
  windDirDeg : report.windDirDeg = (intOrNone (item.get "wdir")).toOption.join
  visibilitySm : report.visibilitySm = (parseVisibility py (item.get "visib")).toOption.join
  isVisibility : ∀ x ∈ report.visibilitySm, IsVisibility x
  temperatureC : report.temperatureC = (floatOrNone (item.get "temp")).toOption.join
  altimeterInHg :
    report.altimeterInHg = ((floatOrNone (item.get "altim")).toOption.join).map altimeterInHg
  clouds : report.clouds = cloudLayers (item.get "clouds")
  rawJson : report.rawJson = item

/-- A payload gives one report for each of its objects, and only a `NoaaError` is raised. -/
structure MetarsTolerated (icaos : List String) (answer : Except NoaaError Json) : Prop where
  reports : ∀ payload, icaos ≠ [] → answer = .ok (.arr payload) →
    ∃ reports, fetchMetars py icaos answer = .ok reports ∧
      List.Forall₂ (IsTolerantReport py) (Json.objects payload) reports
  raised : ∀ e, fetchMetars py icaos answer = .error e → ∃ noaa, e = .noaa noaa

/-! ### Numbers -/

variable {py} {value : Json} {item : JsonObject}

lemma exists_intOrNone_iff : (∃ n, intOrNone value = .ok n) ↔ IsTruncatable value := by
  cases value with
  | float x =>
    cases x <;> simp [intOrNone, Json.number?, IsTruncatable, truncate, FloatValue.isFinite,
      Except.map]
  | null | bool b | int n | str s | arr items | obj fields =>
    simp [intOrNone, Json.number?, IsTruncatable, truncate, Except.map]

/-- A boolean is a small number. -/
lemma natAbs_ite_lt (b : Bool) : (if b = true then (1 : ℤ) else 0).natAbs < 2 ^ 1024 - 2 ^ 970 := by
  cases b <;> decide +kernel

lemma exists_floatOrNone_iff : (∃ x, floatOrNone value = .ok x) ↔ IsFloatable value := by
  cases value with
  | int n =>
    simp only [floatOrNone, Json.number?, IsFloatable, toFloat]
    split_ifs with hrange
    · exact iff_of_true ⟨_, rfl⟩ hrange
    · exact iff_of_false (by rintro ⟨_, h⟩; cases h) hrange
  | bool b =>
    simp only [floatOrNone, Json.number?, IsFloatable, toFloat, if_pos (natAbs_ite_lt b)]
    exact iff_of_true ⟨_, rfl⟩ trivial
  | null | float x | str s | arr items | obj fields =>
    simp [floatOrNone, Json.number?, IsFloatable, toFloat, Except.map]

/-! ### The time of observation -/

lemma exists_fromTimestamp_iff {n : ℤ} (h : 0 ≤ n) :
    (∃ t, fromTimestamp n = .ok t) ↔ n ≤ 253402300799 := by
  rw [fromTimestamp]
  split_ifs with hover hrange
  · exact iff_of_false (by simp) (by omega)
  · exact iff_of_false (by simp) (by omega)
  · exact iff_of_true ⟨_, rfl⟩ (by omega)

/-- A number that is not positive is no time. -/
lemma parseObsTime_of_not_pos {n : JsonNumber} (hnumber : value.number? = some n)
    (hpos : n.isPos = false) : parseObsTime value = .ok none := by
  simp [parseObsTime, hnumber, hpos]

lemma parseObsTime_of_pos {n : JsonNumber} (hnumber : value.number? = some n)
    (hpos : n.isPos = true) {seconds : ℤ} (hseconds : truncate n = .ok seconds) :
    parseObsTime value = (fromTimestamp seconds).map some := by
  simp only [parseObsTime, hnumber, hpos, if_true, hseconds, bind, Except.bind]
  cases fromTimestamp seconds <;> rfl

lemma exists_map_some_iff {α : Type} {x : Except ConversionError α} :
    (∃ t, x.map some = .ok t) ↔ ∃ a, x = .ok a := by
  cases x <;> simp [Except.map]

lemma exists_parseObsTime_int {n : ℤ} (hnumber : value.number? = some (.int n)) :
    (∃ t, parseObsTime value = .ok t) ↔ n ≤ 253402300799 := by
  cases hpos : (JsonNumber.int n).isPos with
  | false =>
    have hle : ¬0 < n := by simpa [JsonNumber.isPos] using hpos
    exact iff_of_true ⟨none, parseObsTime_of_not_pos hnumber hpos⟩ (by omega)
  | true =>
    have hlt : 0 < n := by simpa [JsonNumber.isPos] using hpos
    rw [parseObsTime_of_pos hnumber hpos rfl, exists_map_some_iff, exists_fromTimestamp_iff hlt.le]

lemma exists_parseObsTime_float {x : FloatValue} :
    (∃ t, parseObsTime (.float x) = .ok t) ↔ IsEpoch (.float x) := by
  cases hpos : (JsonNumber.float x).isPos with
  | false =>
    refine iff_of_true ⟨none, parseObsTime_of_not_pos rfl hpos⟩ ?_
    cases x with
    | finite x =>
      have hle : ¬0 < x := by simpa [JsonNumber.isPos, FloatValue.gt] using hpos
      show x < 253402300800
      linarith
    | infinite negative =>
      show negative = true
      simpa [JsonNumber.isPos, FloatValue.gt] using hpos
    | nan => trivial
  | true =>
    cases x with
    | finite x =>
      have hlt : 0 < x := by simpa [JsonNumber.isPos, FloatValue.gt] using hpos
      have hnonneg : 0 ≤ x.num.tdiv x.den :=
        Int.tdiv_nonneg (Rat.num_nonneg.mpr hlt.le) (Int.natCast_nonneg _)
      have hcut : x.num.tdiv x.den < 253402300800 ↔ x < (253402300800 : ℤ) := tdiv_lt_iff (by decide)
      rw [parseObsTime_of_pos rfl hpos rfl, exists_map_some_iff, exists_fromTimestamp_iff hnonneg]
      show x.num.tdiv x.den ≤ 253402300799 ↔ x < 253402300800
      rw [← Int.lt_add_one_iff]
      exact_mod_cast hcut
    | infinite negative =>
      have hneg : negative = false := by simpa [JsonNumber.isPos, FloatValue.gt] using hpos
      subst hneg
      exact iff_of_false (by rintro ⟨_, h⟩; cases h) nofun
    | nan => cases hpos

lemma exists_parseObsTime_iff : (∃ t, parseObsTime value = .ok t) ↔ IsEpoch value := by
  cases value with
  | int n => exact exists_parseObsTime_int rfl
  | float x => exact exists_parseObsTime_float
  | bool b =>
    rw [exists_parseObsTime_int (n := if b then 1 else 0) rfl]
    exact iff_of_true (by split_ifs <;> decide) trivial
  | null | str s | arr items | obj fields => exact iff_of_true ⟨none, rfl⟩ trivial

/-! ### Visibilities -/

/-- The visibility of a value is one, or none. -/
lemma exists_parseVisibility_iff :
    (∃ v, parseVisibility py value = .ok v ∧ ∀ x ∈ v, IsVisibility x) ↔
      IsVisibilityValue py value := by
  cases value with
  | null | arr items | obj fields => exact iff_of_true ⟨none, rfl, by simp⟩ trivial
  | bool b =>
    refine iff_of_true ⟨some (.finite (double (if b then 1 else 0 : ℤ))), ?_, ?_⟩ trivial
    · simp only [parseVisibility, Json.number?, toFloat, if_pos (natAbs_ite_lt b)]
      rfl
    · intro x hx
      obtain rfl := Option.some.inj hx
      apply double_nonneg_iff.mpr
      split_ifs <;> simp
  | int n =>
    simp only [parseVisibility, Json.number?, toFloat, IsVisibilityValue]
    split_ifs with hrange
    · have hdouble : 0 ≤ double n ↔ 0 ≤ n := by
        rw [double_nonneg_iff]
        exact Int.cast_nonneg_iff
      simp only [Except.map, Except.ok.injEq, exists_eq_left', Option.mem_some_iff, forall_eq',
        hrange, and_true]
      exact hdouble
    · exact iff_of_false (by rintro ⟨_, h, -⟩; cases h) fun h => hrange h.2
  | float x => simp [parseVisibility, Json.number?, toFloat, IsVisibilityValue, Except.map]
  | str text =>
    simp only [parseVisibility, Json.number?, IsVisibilityValue]
    by_cases hcapped : IsCapped py (strip text).toList
    · rw [if_pos (show _ ∧ _ from hcapped)]
      simp only [hcapped, forall_const, not_true_eq_false, false_implies, and_true]
      cases py.float (String.ofList (strip text).toList.dropLast) with
      | none => simp
      | some x => simp
    · rw [if_neg (show ¬(_ ∧ _) from hcapped)]
      simp [hcapped]

/-! ### Reports -/

/-- A METAR is parsed to its tolerant report exactly when every field is read. -/
lemma exists_parseMetar_iff :
    (∃ report, parseMetar py item = .ok report ∧ IsTolerantReport py item report) ↔
      IsReadableMetar py item := by
  constructor
  · rintro ⟨report, h, htolerant⟩
    rw [parseMetar] at h
    obtain ⟨observedAt, hobserved, h⟩ := bind_eq_ok_iff.mp h
    obtain ⟨windKt, hwind, h⟩ := bind_eq_ok_iff.mp h
    obtain ⟨windDirDeg, hdirection, h⟩ := bind_eq_ok_iff.mp h
    obtain ⟨visibilitySm, hvisibility, h⟩ := bind_eq_ok_iff.mp h
    obtain ⟨temperatureC, htemperature, h⟩ := bind_eq_ok_iff.mp h
    obtain ⟨altimeter, haltimeter, h⟩ := bind_eq_ok_iff.mp h
    obtain rfl := Except.ok.inj h
    exact ⟨exists_parseObsTime_iff.mp ⟨_, hobserved⟩, exists_intOrNone_iff.mp ⟨_, hwind⟩,
      exists_intOrNone_iff.mp ⟨_, hdirection⟩,
      exists_parseVisibility_iff.mp ⟨_, hvisibility, htolerant.isVisibility⟩,
      exists_floatOrNone_iff.mp ⟨_, htemperature⟩, exists_floatOrNone_iff.mp ⟨_, haltimeter⟩⟩
  · intro h
    obtain ⟨observedAt, hobserved⟩ := exists_parseObsTime_iff.mpr h.obsTime
    obtain ⟨windKt, hwind⟩ := exists_intOrNone_iff.mpr h.wspd
    obtain ⟨windDirDeg, hdirection⟩ := exists_intOrNone_iff.mpr h.wdir
    obtain ⟨visibilitySm, hvisibility, hvisible⟩ := exists_parseVisibility_iff.mpr h.visib
    obtain ⟨temperatureC, htemperature⟩ := exists_floatOrNone_iff.mpr h.temp
    obtain ⟨altimeter, haltimeter⟩ := exists_floatOrNone_iff.mpr h.altim
    refine ⟨_, by simp only [parseMetar, hobserved, hwind, hdirection, hvisibility, htemperature,
      haltimeter]; rfl, ?_⟩
    exact {
      icao := rfl
      rawText := rfl
      observedAt := by rw [hobserved]; rfl
      windKt := by rw [hwind]; rfl
      windDirDeg := by rw [hdirection]; rfl
      visibilitySm := by rw [hvisibility]; rfl
      isVisibility := hvisible
      temperatureC := by rw [htemperature]; rfl
      altimeterInHg := by rw [haltimeter]; rfl
      clouds := rfl
      rawJson := rfl }

/-- What is raised beside a `NoaaError` comes from a METAR of the payload. -/
lemma fetchMetars_payload {icaos : List String} {payload : List Json} (hicaos : icaos ≠ []) :
    fetchMetars py icaos (.ok (.arr payload)) =
      ((Json.objects payload).mapM (parseMetar py)).mapError .conversion := by
  rw [fetchMetars, if_neg hicaos]

lemma exists_reports_iff {items : List JsonObject} :
    (∃ reports, items.mapM (parseMetar py) = .ok reports ∧
      List.Forall₂ (IsTolerantReport py) items reports) ↔
      ∀ item ∈ items, IsReadableMetar py item := by
  induction items with
  | nil => exact iff_of_true ⟨[], rfl, .nil⟩ (by simp)
  | cons item items ih =>
    rw [List.forall_mem_cons, ← ih, ← exists_parseMetar_iff]
    constructor
    · rintro ⟨reports, hreports, hforall⟩
      obtain ⟨report, more, hreport, hmore, rfl⟩ := mapM_cons_eq_ok_iff.mp hreports
      cases hforall with
      | cons htolerant hforall => exact ⟨⟨report, hreport, htolerant⟩, more, hmore, hforall⟩
    · rintro ⟨⟨report, hreport, htolerant⟩, more, hmore, hforall⟩
      exact ⟨report :: more, mapM_cons_eq_ok_iff.mpr ⟨report, more, hreport, hmore, rfl⟩,
        .cons htolerant hforall⟩

/-- The reports are as promised, and nothing but a `NoaaError` is raised, exactly when every field
of every METAR of the payload is read. -/
theorem metarsTolerated_iff (py : TextFunctions) (icaos : List String)
    (answer : Except NoaaError Json) :
    MetarsTolerated py icaos answer ↔
      ∀ payload, icaos ≠ [] → answer = .ok (.arr payload) →
        ∀ item ∈ Json.objects payload, IsReadableMetar py item := by
  constructor
  · rintro h payload hicaos rfl
    obtain ⟨reports, hreports, hforall⟩ := h.reports payload hicaos rfl
    rw [fetchMetars_payload hicaos] at hreports
    exact exists_reports_iff.mp ⟨reports, mapError_eq_ok_iff.mp hreports, hforall⟩
  · intro h
    have hreports : ∀ payload, icaos ≠ [] → answer = .ok (.arr payload) →
        ∃ reports, fetchMetars py icaos answer = .ok reports ∧
          List.Forall₂ (IsTolerantReport py) (Json.objects payload) reports := by
      rintro payload hicaos rfl
      obtain ⟨reports, hmapM, hforall⟩ := exists_reports_iff.mpr (h payload hicaos rfl)
      exact ⟨reports, by rw [fetchMetars_payload hicaos, hmapM]; rfl, hforall⟩
    refine ⟨hreports, fun e he => ?_⟩
    unfold fetchMetars at he
    split_ifs at he with hicaos
    split at he
    next d => exact ⟨d, (Except.error.inj he).symm⟩
    next payload =>
      obtain ⟨reports, hok, -⟩ := hreports payload hicaos rfl
      rw [fetchMetars_payload hicaos] at hok
      cases hok.symm.trans he
    next => exact ⟨_, (Except.error.inj he).symm⟩

/-- A station whose time of observation is in milliseconds. -/
def millisecondMetar : JsonObject := [("icaoId", .str "KSFO"), ("obsTime", .int 1767225600000)]

/-- The `ValueError` of its conversion leaves `fetch_metars`. -/
theorem millisecond_metar_raises :
    ¬∀ (py : TextFunctions) (icaos : List String) (answer : Except NoaaError Json),
      MetarsTolerated py icaos answer := by
  intro h
  have hraised : fetchMetars asciiText ["KSFO"] (.ok (.arr [.obj millisecondMetar])) =
      .error (.conversion .valueError) := rfl
  obtain ⟨noaa, hnoaa⟩ := (h asciiText ["KSFO"] (.ok (.arr [.obj millisecondMetar]))).raised _ hraised
  cases hnoaa

end FleetMonitor
