import FleetMonitor.Foundry.Ontology
import FleetMonitor.Library.Table
import FleetMonitor.Sites.Metar

/-!
# Airport conditions

The asset `noaa_weather`: it fetches the METARs and TAFs of the watched airports and upserts a row
for every report. All rows of a run are written in one transaction, so a run is stored as a whole or
leaves the table as it is.
-/

namespace FleetMonitor

open Library

/-! ### Fetching -/

/-- The subclasses of `NoaaError`, with their texts. -/
inductive NoaaError where
  | rateLimited (text : String)
  | serverError (text : String)
  | parseError (text : String)
  | other (text : String)
  deriving DecidableEq, Repr

/-- What `fetch_metars` raises. -/
inductive MetarError where
  | noaa (e : NoaaError)
  | conversion (e : ConversionError)
  deriving DecidableEq, Repr

variable (py : TextFunctions)

/-- `fetch_metars`, of the answer of `_get_json`. -/
def fetchMetars (icaos : List String) (answer : Except NoaaError Json) :
    Except MetarError (List NoaaMetarReport) :=
  if icaos = [] then .ok []
  else
    match answer with
    | .error e           => .error (.noaa e)
    | .ok (.arr payload) => ((Json.objects payload).mapM (parseMetar py)).mapError .conversion
    | .ok payload        =>
      .error (.noaa (.parseError ("METAR payload is not a list: " ++ typeName payload)))

/-- An item of `fetch_tafs`. -/
def tafOf (item : JsonObject) : Option (String × String) :=
  match item.get "icaoId", item.get "rawTAF" with
  | .str icao, .str rawTaf => if rawTaf = "" then none else some (py.upper icao, rawTaf)
  | _, _                   => none

/-- `fetch_tafs`, as the items of its dictionary. -/
def fetchTafs (icaos : List String) (answer : Except NoaaError Json) :
    Except NoaaError (List (String × String)) :=
  if icaos = [] then .ok []
  else
    match answer with
    | .error e           => .error e
    | .ok (.arr payload) => .ok ((Json.objects payload).filterMap (tafOf py))
    | .ok payload        => .error (.parseError ("TAF payload is not a list: " ++ typeName payload))

/-- `taf_map.get`. -/
def tafLookup (tafs : List (String × String)) (icao : String) : Option String :=
  (tafs.reverse.find? (·.1 = icao)).map (·.2)

/-! ### Storing -/

abbrev AirportConditionsTable := Table ConditionsRow.siteIcao

/-- What Postgres makes of the values of a row: which rows fit into the columns, and what a number
becomes at the scale of its column. -/
structure ConditionColumns where
  accepts : ConditionsRow → Bool
  numeric : ℕ → ℚ → ℚ

variable (columns : ConditionColumns)

/-- The row as it is stored. -/
def ConditionColumns.store (row : ConditionsRow) : ConditionsRow :=
  { row with
    visibilitySm := row.visibilitySm.map (·.map (columns.numeric 1))
    temperatureC := row.temperatureC.map (·.map (columns.numeric 1))
    altimeterInHg := row.altimeterInHg.map (·.map (columns.numeric 2)) }

/-- No statement of `execute_values` fails: every row fits, and no page has two rows of a site. -/
def ConditionColumns.CanStore (rows : List ConditionsRow) : Prop :=
  (∀ row ∈ rows, columns.accepts row = true) ∧
    ∀ page ∈ chunks 100 rows, (page.map ConditionsRow.siteIcao).Nodup

instance : DecidablePred columns.CanStore := fun rows => by
  unfold ConditionColumns.CanStore; infer_instance

/-- `_upsert_airport_conditions`; none when it is rolled back. -/
def upsertAirportConditions (table : AirportConditionsTable) (rows : List ConditionsRow) :
    Option AirportConditionsTable :=
  if columns.CanStore rows then some (table.upsertAll (rows.map columns.store)) else none

/-! ### The asset -/

/-- The watched airports of a run, and what NOAA answers. -/
structure WeatherPoll where
  icaos : List String
  metars : Except NoaaError Json
  tafs : Except NoaaError Json

/-- The rows of a run; a failure of `fetch_tafs` is an empty map. -/
def WeatherPoll.rows (poll : WeatherPoll) : Except MetarError (List ConditionsRow) :=
  match fetchMetars py poll.icaos poll.metars with
  | .error e    => .error e
  | .ok reports =>
    let tafs :=
      match fetchTafs py poll.icaos poll.tafs with
      | .ok tafs => tafs
      | .error _ => []
    (buildAirportConditionRows reports (tafLookup tafs)).mapError .conversion

/-- `noaa_weather`: the table after a run, which is skipped, raises, or stores its rows. -/
def noaaWeather (table : AirportConditionsTable) (poll : WeatherPoll) : AirportConditionsTable :=
  match poll.rows py with
  | .error _ => table
  | .ok rows => (upsertAirportConditions columns table rows).getD table

/-- The table after some runs. -/
def conditionsAfter (polls : List WeatherPoll) : AirportConditionsTable :=
  polls.foldl (noaaWeather py columns) Table.empty

/-! ### What a run stores -/

/-- The METARs NOAA answers with that name a station. -/
def WeatherPoll.reports (poll : WeatherPoll) : List JsonObject :=
  match poll.metars with
  | .ok (.arr payload) =>
    if poll.icaos = [] then [] else (Json.objects payload).filter (reportIcao py · ≠ "")
  | _ => []

/-- The METAR of a site, the last one if there are several. -/
def WeatherPoll.reportOf (poll : WeatherPoll) (icao : String) : Option JsonObject :=
  (poll.reports py).reverse.find? (reportIcao py · = icao)

/-- The run neither raises nor is rolled back. -/
def WeatherPoll.IsStored (poll : WeatherPoll) : Prop :=
  ∃ rows, poll.rows py = .ok rows ∧ columns.CanStore rows

variable {py columns} {poll : WeatherPoll} {rows : List ConditionsRow}
  {table : AirportConditionsTable}

@[simp] lemma ConditionColumns.store_siteIcao (row : ConditionsRow) :
    (columns.store row).siteIcao = row.siteIcao := rfl

lemma parseMetar_icao {item : JsonObject} {report : NoaaMetarReport}
    (h : parseMetar py item = .ok report) : report.icao = reportIcao py item := by
  simp only [parseMetar, bind_eq_ok_iff] at h
  obtain ⟨_, -, _, -, _, -, _, -, _, -, _, -, h⟩ := h
  obtain rfl := Except.ok.inj h
  rfl

/-- Parsing the reports and building the rows goes through the METARs that name a station. -/
lemma mapM_conditionsRow {items : List JsonObject} {reports : List NoaaMetarReport}
    {tafMap : String → Option String} (hreports : items.mapM (parseMetar py) = .ok reports)
    (hrows : buildAirportConditionRows reports tafMap = .ok rows) :
    (items.filter (reportIcao py · ≠ "")).mapM
      (fun item => parseMetar py item >>= conditionsRow tafMap) = .ok rows := by
  rw [buildAirportConditionRows] at hrows
  induction items generalizing reports rows with
  | nil =>
    obtain rfl := Except.ok.inj hreports
    obtain rfl := Except.ok.inj hrows
    rfl
  | cons item items ih =>
    obtain ⟨report, more, hreport, hmore, rfl⟩ := mapM_cons_eq_ok_iff.mp hreports
    by_cases hicao : reportIcao py item = ""
    · rw [List.filter_cons_of_neg (by simpa [parseMetar_icao hreport] using hicao)] at hrows
      rw [List.filter_cons_of_neg (by simpa using hicao)]
      exact ih hmore hrows
    · rw [List.filter_cons_of_pos (by simpa [parseMetar_icao hreport] using hicao)] at hrows
      rw [List.filter_cons_of_pos (by simpa using hicao)]
      obtain ⟨row, moreRows, hrow, hmoreRows, rfl⟩ := mapM_cons_eq_ok_iff.mp hrows
      exact mapM_cons_eq_ok_iff.mpr
        ⟨row, moreRows, bind_eq_ok_iff.mpr ⟨report, hreport, hrow⟩, ih hmore hmoreRows, rfl⟩

/-- The rows of a run are those of its METARs. -/
lemma WeatherPoll.exists_mapM_reports (h : poll.rows py = .ok rows) :
    ∃ rowOf : JsonObject → Except ConversionError ConditionsRow,
      (poll.reports py).mapM rowOf = .ok rows ∧
        ∀ item row, rowOf item = .ok row → IsRowOf py item row := by
  rw [WeatherPoll.rows] at h
  split at h
  next => cases h
  next reports hreports =>
    set tafMap := tafLookup (match fetchTafs py poll.icaos poll.tafs with
      | .ok tafs => tafs
      | .error _ => [])
    have hrows : buildAirportConditionRows reports tafMap = .ok rows := mapError_eq_ok_iff.mp h
    refine ⟨fun item => parseMetar py item >>= conditionsRow tafMap, ?_, fun item row hrow => ?_⟩
    · unfold fetchMetars at hreports
      unfold WeatherPoll.reports
      split_ifs at hreports with hicaos
      · obtain rfl := Except.ok.inj hreports
        obtain rfl := Except.ok.inj hrows
        split
        next =>
          rw [if_pos hicaos]
          rfl
        next => rfl
      · split at hreports
        next => cases hreports
        next payload hmetars =>
          rw [hmetars]
          simp only [if_neg hicaos]
          exact mapM_conditionsRow (mapError_eq_ok_iff.mp hreports) hrows
        next => cases hreports
    · obtain ⟨report, hreport, hrow⟩ := bind_eq_ok_iff.mp hrow
      exact isRowOf hreport hrow

/-- A run that is not stored leaves the table as it is. -/
lemma noaaWeather_of_not_stored (h : ¬poll.IsStored py columns) :
    noaaWeather py columns table poll = table := by
  rw [noaaWeather]
  split
  next => rfl
  next rows hrows =>
    have hnot : ¬columns.CanStore rows := fun hstore => h ⟨rows, hrows, hstore⟩
    rw [upsertAirportConditions, if_neg hnot]
    rfl

variable (table) in
/-- A run that is stored writes the rows of its reports, and no others. -/
lemma noaaWeather_lookup (h : poll.IsStored py columns) (icao : String) :
    (∃ item row, poll.reportOf py icao = some item ∧ IsRowOf py item row ∧
      (noaaWeather py columns table poll).lookup icao = some (columns.store row)) ∨
    (poll.reportOf py icao = none ∧
      (noaaWeather py columns table poll).lookup icao = table.lookup icao) := by
  obtain ⟨rows, hrows, hstore⟩ := h
  obtain ⟨rowOf, hmapM, hrowOf⟩ := WeatherPoll.exists_mapM_reports hrows
  have hfind : rows.reverse.find? (·.siteIcao = icao) =
      (poll.reportOf py icao).bind fun item => (rowOf item).toOption :=
    find?_of_mapM_ok (mapM_reverse_ok hmapM) fun item row hrow => by
      rw [(hrowOf item row hrow).siteIcao]
  have hlookup : (noaaWeather py columns table poll).lookup icao =
      ((rows.reverse.find? (·.siteIcao = icao)).map columns.store).or (table.lookup icao) := by
    rw [noaaWeather, hrows]
    simp only [upsertAirportConditions, if_pos hstore, Option.getD_some]
    rw [Table.lookup_upsertAll, ← List.map_reverse, List.find?_map]
    rfl
  cases hreport : poll.reportOf py icao with
  | none =>
    refine .inr ⟨rfl, ?_⟩
    rw [hlookup, hfind, hreport]
    rfl
  | some item =>
    have hmem : item ∈ poll.reports py :=
      List.mem_reverse.mp (List.mem_of_find?_eq_some hreport)
    obtain ⟨row, hrow⟩ := exists_mapM_ok_iff.mp ⟨rows, hmapM⟩ item hmem
    refine .inl ⟨item, row, rfl, hrowOf item row hrow, ?_⟩
    rw [hlookup, hfind, hreport]
    simp [hrow, Except.toOption]

end FleetMonitor
