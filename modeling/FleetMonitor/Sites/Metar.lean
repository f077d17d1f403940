import FleetMonitor.Detection.Rules
import FleetMonitor.Foundry.FlightLifecycle
import FleetMonitor.Library.JsonValue
import FleetMonitor.Library.Rounding
import FleetMonitor.Library.Validation

/-!
# METAR reports

What `noaa_weather` makes of a METAR: the fields of the report, the ceiling, the flight category and
the row of `app.airport_conditions`. A field that is missing or that cannot be read becomes null; a
number that Python cannot convert fails the whole run.
-/

namespace FleetMonitor

open Library

/-! ### Numbers and text -/

/-- `ValueError` or `OverflowError`. -/
abbrev ConversionError := FlightIdError

/-- `int(x)` of a number. -/
def truncate : JsonNumber → Except ConversionError ℤ
  | .int n               => .ok n
  | .float (.finite x)   => .ok (x.num.tdiv x.den)
  | .float (.infinite _) => .error .overflowError
  | .float .nan          => .error .valueError

/-- `float(x)` of a number; the largest integers are out of range. -/
def toFloat : JsonNumber → Except ConversionError FloatValue
  | .int n   =>
    if n.natAbs < 2 ^ 1024 - 2 ^ 970 then .ok (.finite (double n)) else .error .overflowError
  | .float x => .ok x

/-- `int(x)` if the value is a number, else null. -/
def intOrNone (value : Json) : Except ConversionError (Option ℤ) :=
  match value.number? with
  | some n => (truncate n).map some
  | none   => .ok none

/-- `float(x)` if the value is a number, else null. -/
def floatOrNone (value : Json) : Except ConversionError (Option FloatValue) :=
  match value.number? with
  | some n => (toFloat n).map some
  | none   => .ok none

/-- `type(x).__name__`. -/
def typeName : Json → String
  | .null    => "NoneType"
  | .bool _  => "bool"
  | .int _   => "int"
  | .float _ => "float"
  | .str _   => "str"
  | .arr _   => "list"
  | .obj _   => "dict"

/-- `_str_or_none`. -/
def strOrNone : Json → Option String
  | .str s => if s = "" then none else some s
  | _      => none

variable (py : TextFunctions)

/-- `_parse_visibility`; in the first branch the `ValueError` of `float` is not caught. -/
def parseVisibility (value : Json) : Except ConversionError (Option FloatValue) :=
  match value.number?, value with
  | some n, _       => (toFloat n).map some
  | none, .str text =>
    let s := (strip text).toList
    if s.getLast? = some '+' ∧ py.isDigit (String.ofList (s.dropLast.erase '.')) then
      match py.float (String.ofList s.dropLast) with
      | some x => .ok (some x)
      | none   => .error .valueError
    else .ok (py.float (String.ofList s))
  | none, _         => .ok none

/-! ### Reports -/

/-- `NoaaMetarReport`. -/
structure NoaaMetarReport where
  icao : String
  rawText : Option String
  observedAt : Option Instant
  windKt : Option ℤ
  windDirDeg : Option ℤ
  visibilitySm : Option FloatValue
  temperatureC : Option FloatValue
  altimeterInHg : Option FloatValue
  clouds : List JsonObject
  rawJson : JsonObject

/-- `HPA_TO_IN_HG`. -/
def hpaToInHg : ℚ := double (2953 / 100000)

/-- `round(float(altim_raw) * HPA_TO_IN_HG, 2)`. -/
def altimeterInHg (altim : FloatValue) : FloatValue :=
  altim.map fun hpa => double (Library.roundHalfEven (100 * double (hpa * hpaToInHg)) / 100)

/-- `observed_at`. -/
def parseObsTime (value : Json) : Except ConversionError (Option Instant) :=
  match value.number? with
  | some n => if n.isPos then do return some (← fromTimestamp (← truncate n)) else .ok none
  | none   => .ok none

/-- The layers that are objects. -/
def cloudLayers : Json → List JsonObject
  | .arr layers => Json.objects layers
  | _           => []

/-- The station of a METAR. -/
def reportIcao (item : JsonObject) : String :=
  py.upper ((strOrNone (item.get "icaoId")).getD "")

/-- `_parse_metar`. -/
def parseMetar (item : JsonObject) : Except ConversionError NoaaMetarReport := do
  let observedAt ← parseObsTime (item.get "obsTime")
  let windKt ← intOrNone (item.get "wspd")
  let windDirDeg ← intOrNone (item.get "wdir")
  let visibilitySm ← parseVisibility py (item.get "visib")
  let temperatureC ← floatOrNone (item.get "temp")
  let altimeter ← floatOrNone (item.get "altim")
  return {
    icao := reportIcao py item
    rawText := strOrNone (item.get "rawOb")
    observedAt
    windKt
    windDirDeg
    visibilitySm
    temperatureC
    altimeterInHg := altimeter.map altimeterInHg
    clouds := cloudLayers (item.get "clouds")
    rawJson := item }

/-! ### Flight categories -/

/-- `CEILING_COVERS`. -/
def ceilingCovers : List String := ["BKN", "OVC", "OVX", "VV"]

/-- `_extract_ceiling_ft`, from the ceiling so far. -/
def extractCeilingFt : List JsonObject → Option ℤ → Except ConversionError (Option ℤ)
  | [], ceiling => .ok ceiling
  | layer :: clouds, ceiling =>
    match layer.get "cover", (layer.get "base").number? with
    | .str cover, some base =>
      if cover ∈ ceilingCovers then
        match truncate base with
        | .error e   => .error e
        | .ok baseFt =>
          extractCeilingFt clouds
            (if ∀ lowest ∈ ceiling, baseFt < lowest then some baseFt else ceiling)
      else extractCeilingFt clouds ceiling
    | _, _ => extractCeilingFt clouds ceiling

/-- `FLIGHT_CATEGORY_RANK`. -/
def FlightCategory.rank : FlightCategory → ℕ
  | .lifr => 0
  | .ifr  => 1
  | .mvfr => 2
  | .vfr  => 3

/-- `c_cat`. -/
def ceilingCategory : Option ℤ → FlightCategory
  | none => .vfr
  | some ceilingFt =>
    if ceilingFt < 500 then .lifr
    else if ceilingFt < 1000 then .ifr
    else if ceilingFt < 3000 then .mvfr
    else .vfr

/-- `v_cat`. -/
def visibilityCategory : Option FloatValue → FlightCategory
  | none => .vfr
  | some visibilitySm =>
    if visibilitySm.lt 1 then .lifr
    else if visibilitySm.lt 3 then .ifr
    else if visibilitySm.le 5 then .mvfr
    else .vfr

/-- `_compute_flight_category`. -/
def computeFlightCategory (ceilingFt : Option ℤ) (visibilitySm : Option FloatValue) :
    Option FlightCategory :=
  if ceilingFt = none ∧ visibilitySm = none then none
  else
    let cCat := ceilingCategory ceilingFt
    let vCat := visibilityCategory visibilitySm
    some (if vCat.rank < cCat.rank then vCat else cCat)

/-! ### Rows -/

/-- A row of `app.airport_conditions`, without `fetched_at`. -/
structure ConditionsRow where
  siteIcao : String
  metarRaw : Option String
  metarParsed : JsonObject
  tafRaw : Option String
  flightCategory : Option FlightCategory
  windKt : Option ℤ
  windDirDeg : Option ℤ
  visibilitySm : Option FloatValue
  ceilingFt : Option ℤ
  temperatureC : Option FloatValue
  altimeterInHg : Option FloatValue
  metarObservedAt : Option Instant

/-- The row of a report. -/
def conditionsRow (tafMap : String → Option String) (report : NoaaMetarReport) :
    Except ConversionError ConditionsRow := do
  let ceilingFt ← extractCeilingFt report.clouds none
  return {
    siteIcao := report.icao
    metarRaw := report.rawText
    metarParsed := report.rawJson
    tafRaw := tafMap report.icao
    flightCategory := computeFlightCategory ceilingFt report.visibilitySm
    windKt := report.windKt
    windDirDeg := report.windDirDeg
    visibilitySm := report.visibilitySm
    ceilingFt
    temperatureC := report.temperatureC
    altimeterInHg := report.altimeterInHg
    metarObservedAt := report.observedAt }

/-- `_build_airport_condition_rows`. -/
def buildAirportConditionRows (reports : List NoaaMetarReport) (tafMap : String → Option String) :
    Except ConversionError (List ConditionsRow) :=
  (reports.filter (·.icao ≠ "")).mapM (conditionsRow tafMap)

/-! ### What a row has -/

/-- The layer counts as a ceiling, and its base is a number. -/
def IsCeilingLayer (layer : JsonObject) : Prop :=
  ∃ cover base, layer.get "cover" = .str cover ∧ (layer.get "base").number? = some base ∧
    cover ∈ ceilingCovers

/-- The METAR has a time of observation. -/
def IsObserved (item : JsonObject) : Prop :=
  ∃ n, (item.get "obsTime").number? = some n ∧ n.isPos = true

/-- The METAR has a ceiling. -/
def HasCeiling (item : JsonObject) : Prop :=
  ∃ layer ∈ cloudLayers (item.get "clouds"), IsCeilingLayer layer

/-- What the row of a METAR is. -/
structure IsRowOf (item : JsonObject) (row : ConditionsRow) : Prop where
  siteIcao : row.siteIcao = reportIcao py item
  metarRaw : row.metarRaw = strOrNone (item.get "rawOb")
  visibilitySm : parseVisibility py (item.get "visib") = .ok row.visibilitySm
  flightCategory : row.flightCategory = none ↔ row.visibilitySm = none ∧ ¬HasCeiling item
  metarObservedAt : row.metarObservedAt = none ↔ ¬IsObserved item

variable {py}

lemma exists_truncate_iff {n : JsonNumber} :
    (∃ k, truncate n = .ok k) ↔ ∀ x, n = .float x → x.isFinite = true := by
  rcases n with n | x
  · simp [truncate]
  · cases x <;> simp [truncate, FloatValue.isFinite]

lemma exists_toFloat_iff {n : JsonNumber} :
    (∃ x, toFloat n = .ok x) ↔ ∀ k, n = .int k → k.natAbs < 2 ^ 1024 - 2 ^ 970 := by
  rcases n with n | x
  · rw [toFloat]
    split_ifs with hrange
    · refine iff_of_true ⟨_, rfl⟩ fun k hk => ?_
      obtain rfl := JsonNumber.int.inj hk
      exact hrange
    · exact iff_of_false (fun ⟨_, h⟩ => nomatch h) fun h => hrange (h n rfl)
  · exact iff_of_true ⟨x, rfl⟩ fun _ h => nomatch h

lemma extractCeilingFt_eq_none_iff {clouds : List JsonObject} {ceiling result : Option ℤ}
    (h : extractCeilingFt clouds ceiling = .ok result) :
    result = none ↔ ceiling = none ∧ ∀ layer ∈ clouds, ¬IsCeilingLayer layer := by
  induction clouds generalizing ceiling with
  | nil =>
    obtain rfl := Except.ok.inj h
    simp
  | cons layer clouds ih =>
    rw [extractCeilingFt] at h
    rw [List.forall_mem_cons]
    split at h
    next cover base hcover hbase =>
      split_ifs at h with hmem
      · have hlayer : IsCeilingLayer layer := ⟨cover, base, hcover, hbase, hmem⟩
        split at h
        next => cases h
        next baseFt _ =>
          rw [ih h]
          split_ifs with hlower
          · simp [hlayer]
          · cases ceiling with
            | none => simp at hlower
            | some lowest => simp
      · have hlayer : ¬IsCeilingLayer layer := by
          rintro ⟨cover', -, hcover', -, hmem'⟩
          rw [hcover] at hcover'
          obtain rfl := Json.str.inj hcover'
          exact hmem hmem'
        rw [ih h]
        simp [hlayer]
    next hnot =>
      have hlayer : ¬IsCeilingLayer layer := by
        rintro ⟨cover, base, hcover, hbase, -⟩
        exact hnot cover base hcover hbase
      rw [ih h]
      simp [hlayer]

lemma computeFlightCategory_eq_none_iff {ceilingFt : Option ℤ} {visibilitySm : Option FloatValue} :
    computeFlightCategory ceilingFt visibilitySm = none ↔ ceilingFt = none ∧ visibilitySm = none := by
  rw [computeFlightCategory]
  split_ifs with h
  · simp [h]
  · simp [h]

lemma parseObsTime_eq_none_iff {value : Json} {observedAt : Option Instant}
    (h : parseObsTime value = .ok observedAt) :
    observedAt = none ↔ ¬∃ n, value.number? = some n ∧ n.isPos = true := by
  rw [parseObsTime] at h
  split at h
  next n hn =>
    split_ifs at h with hpos
    · obtain ⟨seconds, -, h⟩ := bind_eq_ok_iff.mp h
      obtain ⟨t, -, h⟩ := bind_eq_ok_iff.mp h
      obtain rfl := Except.ok.inj h
      simp [hn, hpos]
    · obtain rfl := Except.ok.inj h
      simpa [hn] using hpos
  next hn =>
    obtain rfl := Except.ok.inj h
    simp [hn]

/-- The row that is built of a METAR. -/
lemma isRowOf {item : JsonObject} {report : NoaaMetarReport} {row : ConditionsRow}
    {tafMap : String → Option String} (hreport : parseMetar py item = .ok report)
    (hrow : conditionsRow tafMap report = .ok row) : IsRowOf py item row := by
  obtain ⟨observedAt, hobserved, hreport⟩ := bind_eq_ok_iff.mp hreport
  obtain ⟨windKt, -, hreport⟩ := bind_eq_ok_iff.mp hreport
  obtain ⟨windDirDeg, -, hreport⟩ := bind_eq_ok_iff.mp hreport
  obtain ⟨visibilitySm, hvisibility, hreport⟩ := bind_eq_ok_iff.mp hreport
  obtain ⟨temperatureC, -, hreport⟩ := bind_eq_ok_iff.mp hreport
  obtain ⟨altimeter, -, hreport⟩ := bind_eq_ok_iff.mp hreport
  obtain rfl := Except.ok.inj hreport
  obtain ⟨ceilingFt, hceiling, hrow⟩ := bind_eq_ok_iff.mp hrow
  obtain rfl := Except.ok.inj hrow
  refine ⟨rfl, rfl, hvisibility, ?_, parseObsTime_eq_none_iff hobserved⟩
  rw [computeFlightCategory_eq_none_iff, extractCeilingFt_eq_none_iff hceiling, and_comm]
  simp [HasCeiling]

end FleetMonitor
