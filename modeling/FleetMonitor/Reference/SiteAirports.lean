import FleetMonitor.Foundry.SiteSync
import FleetMonitor.Reference.StaticReference

/-!
# The airports of the site queries

The queries of the sites read the table that `static_reference` loads, and take its coordinates to
be those of an airport and the codes of the watched airports to be capital letters. The table is
such after every run of the load, as long as the files are.
-/

namespace FleetMonitor.Reference

open Library

/-! ### Rows -/

/-- A coordinate between the bounds. -/
def Within (bound : ℚ) (x : FloatValue) : Prop := ∃ y, x = .finite y ∧ -bound ≤ y ∧ y ≤ bound

/-- A row as the queries of the sites take it. -/
structure AirportRow.IsSite (row : AirportRow) : Prop where
  lat : Within 90 row.lat
  lon : Within 180 row.lon
  isUpper_of_watched : row.isWatched = true → ∀ c ∈ row.icao.toList, c.isUpper

/-- The airport a query of the sites reads in the row. -/
structure IsAirportOf (a : Airport) (row : AirportRow) : Prop where
  icao : a.icao = row.icao
  iata : a.iata = row.iata
  name : a.name = row.name
  city : a.city = row.city
  state : a.state = row.state
  lat : row.lat = .finite a.lat
  lon : row.lon = .finite a.lon
  elevationFt : a.elevationFt = row.elevationFt
  timezone : a.timezone = row.timezone
  isWatched : a.isWatched = row.isWatched
  customerRegions : a.customerRegions = row.customerRegions.map CustomerRegion.text

variable {functions : CsvFunctions} {watchlist : WatchlistFile} {inputs : ReferenceInputs}
  {state start : ReferenceState} {records : List AirportRecord} {record : AirportRecord}
  {rows : List AirportRow} {row : AirportRow} {seen : List String}

lemma AirportRow.IsSite.exists_airport (h : row.IsSite) : ∃ a : Airport, IsAirportOf a row := by
  obtain ⟨lat, hlat, hlatBounds⟩ := h.lat
  obtain ⟨lon, hlon, hlonBounds⟩ := h.lon
  refine ⟨{ row with
    lat, lon
    customerRegions := row.customerRegions.map CustomerRegion.text
    lat_bounds := hlatBounds
    lon_bounds := hlonBounds
    isUpper_of_watched := h.isUpper_of_watched }, ?_⟩
  exact ⟨rfl, rfl, rfl, rfl, rfl, hlat, hlon, rfl, rfl, rfl, rfl⟩

/-- The airports of such rows are a table. -/
lemma exists_airports {airports : Airports} (h : ∀ row ∈ airports.rows, row.IsSite) :
    ∃ sites : FleetMonitor.Airports, List.Forall₂ IsAirportOf sites.rows airports.rows := by
  obtain ⟨as, has⟩ : ∃ as : List Airport, List.Forall₂ IsAirportOf as airports.rows := by
    generalize airports.rows = rows at h
    induction rows with
    | nil => exact ⟨[], .nil⟩
    | cons row rows ih =>
      obtain ⟨a, ha⟩ := (h row List.mem_cons_self).exists_airport
      obtain ⟨as, has⟩ := ih fun row hrow => h row (List.mem_cons_of_mem _ hrow)
      exact ⟨a :: as, .cons ha has⟩
  have hkeys : as.map Airport.icao = airports.rows.map AirportRow.icao := by
    rw [← List.forall₂_eq_eq_eq, List.forall₂_map_left_iff, List.forall₂_map_right_iff]
    exact has.imp fun _ _ ha => ha.icao
  exact ⟨⟨as, hkeys ▸ airports.nodup⟩, has⟩

/-! ### The files -/

/-- Every line that is not passed over has coordinates on the globe, and the watchlist has its codes
in capital letters. -/
structure ReferenceInputs.Placed (functions : CsvFunctions) (inputs : ReferenceInputs) : Prop where
  lat : ∀ records ∈ inputs.airportsFile, ∀ record ∈ records, record.skipped = false →
    ∀ text ∈ record.latitudeDeg, ∀ x ∈ functions.float text, Within 90 (functions.numeric x)
  lon : ∀ records ∈ inputs.airportsFile, ∀ record ∈ records, record.skipped = false →
    ∀ text ∈ record.longitudeDeg, ∀ x ∈ functions.float text, Within 180 (functions.numeric x)
  isUpper : ∀ icao ∈ inputs.watchlist.keys, ∀ c ∈ icao.toList, c.isUpper

/-- A row has the coordinates of its line. -/
lemma coordinates_of_convertAirport
    (h : convertAirport functions watchlist record = some (some row)) :
    record.skipped = false ∧
      (∃ text ∈ record.latitudeDeg, ∃ x ∈ functions.float text, row.lat = functions.numeric x) ∧
      ∃ text ∈ record.longitudeDeg, ∃ x ∈ functions.float text, row.lon = functions.numeric x := by
  rw [convertAirport] at h
  split_ifs at h with hskipped
  · simp at h
  · obtain ⟨ident, -, h⟩ := Option.bind_eq_some_iff.mp h
    split_ifs at h
    · simp at h
    · simp only [airportRow, Option.map_eq_some_iff, Option.some.injEq, exists_eq_right,
        Option.bind_eq_bind, Option.bind_eq_some_iff] at h
      obtain ⟨iata, -, name, -, city, -, latitude, hlatitude, longitude, hlongitude, lat, hlat,
        lon, hlon, ft, -, h⟩ := h
      simp only [pure, Option.some.injEq] at h
      subst h
      exact ⟨by simpa using hskipped, ⟨latitude, hlatitude, lat, hlat, rfl⟩,
        ⟨longitude, hlongitude, lon, hlon, rfl⟩⟩

/-- Every row is that of a line. -/
lemma exists_record_of_mem_rows
    (h : buildAirportRows functions watchlist records = some (rows, seen)) (hrow : row ∈ rows) :
    ∃ record ∈ records, convertAirport functions watchlist record = some (some row) := by
  induction records generalizing rows seen with
  | nil =>
    simp only [buildAirportRows, Option.some.injEq, Prod.mk.injEq] at h
    obtain ⟨rfl, rfl⟩ := h
    cases hrow
  | cons record records ih =>
    simp only [buildAirportRows, Option.bind_eq_some_iff, Option.map_eq_some_iff, Prod.exists] at h
    obtain ⟨converted, hconverted, later, seenLater, hlater, h⟩ := h
    cases converted with
    | none =>
      obtain ⟨rfl, rfl⟩ := Prod.mk.inj h
      obtain ⟨record', hrecord', hbuilt⟩ := ih hlater hrow
      exact ⟨record', List.mem_cons_of_mem _ hrecord', hbuilt⟩
    | some first =>
      obtain ⟨rfl, rfl⟩ := Prod.mk.inj h
      rcases List.mem_cons.mp hrow with rfl | hrow
      · exact ⟨record, List.mem_cons_self, hconverted⟩
      · obtain ⟨record', hrecord', hbuilt⟩ := ih hlater hrow
        exact ⟨record', List.mem_cons_of_mem _ hrecord', hbuilt⟩

/-- The rows a load commits. -/
lemma ReferenceInputs.Placed.isSite (h : inputs.Placed functions)
    (hcommits : inputs.Commits functions rows) (hrow : row ∈ rows) : row.IsSite := by
  obtain ⟨records, seen, hfile, hbuild⟩ := hcommits.built
  obtain ⟨record, hrecord, hconvert⟩ := exists_record_of_mem_rows hbuild hrow
  obtain ⟨hkept, ⟨latitude, hlatitude, lat, hlat, hrowLat⟩,
    ⟨longitude, hlongitude, lon, hlon, hrowLon⟩⟩ := coordinates_of_convertAirport hconvert
  refine ⟨?_, ?_, fun hwatched => h.isUpper _ ?_⟩
  · rw [hrowLat]
    exact h.lat records hfile record hrecord hkept latitude hlatitude lat hlat
  · rw [hrowLon]
    exact h.lon records hfile record hrecord hkept longitude hlongitude lon hlon
  · rw [(hcommits.follows row hrow).isWatched, Option.isSome_iff_ne_none] at hwatched
    exact Table.mem_keys_iff.mpr hwatched

/-! ### Runs -/

/-- A run of the load keeps the table such. -/
lemma isSite_staticReference (hplaced : inputs.Placed functions)
    (h : ∀ row ∈ state.airports.rows, row.IsSite) :
    ∀ row ∈ (staticReference functions inputs state).1.airports.rows, row.IsSite := by
  rw [staticReference_airports]
  rcases loadAirports_cases functions inputs.watchlist inputs.airportsRefused inputs.airportsFile
    state.airports with ⟨-, e, hload⟩ | ⟨rows, hcommits, hload, -⟩
  · rw [hload]
    exact h
  · rw [hload]
    intro row hrow
    rcases Table.mem_of_mem_upsertAll hrow with hrow | hrow
    · exact hplaced.isSite hcommits hrow
    · exact h row hrow

/-- After any runs of the load on such files the queries of the sites can read its table, and every
site can be read exactly when the weather of every watched row can. -/
theorem loaded_sites_readable_iff (hstart : ∀ row ∈ start.airports.rows, row.IsSite)
    (hrun : Reached (referenceStep functions) (fun _ inputs => inputs.Placed functions) (· = start)
      state) :
    ∃ sites : FleetMonitor.Airports, List.Forall₂ IsAirportOf sites.rows state.airports.rows ∧
      ∀ py statusText counts conditions, SitesReadable py statusText sites counts conditions ↔
        ∀ row ∈ state.airports.rows, row.isWatched = true →
          ∀ weather ∈ conditions.lookup row.icao, weather.IsReadable := by
  have hsites : ∀ row ∈ state.airports.rows, row.IsSite := by
    refine hrun.invariant (I := fun s => ∀ row ∈ s.airports.rows, row.IsSite) ?_ ?_
    · rintro _ rfl
      exact hstart
    · intro s inputs t hs hplaced hstep
      obtain rfl := Option.some.inj hstep
      exact isSite_staticReference hplaced hs
  obtain ⟨sites, hread⟩ := exists_airports hsites
  refine ⟨sites, hread, fun py statusText counts conditions => ?_⟩
  rw [sitesReadable_iff]
  generalize state.airports.rows = rows at hread
  generalize sites.rows = as at hread
  induction hread with
  | nil => simp
  | cons ha _ ih => rw [List.forall_mem_cons, List.forall_mem_cons, ih, ha.icao, ha.isWatched]

end FleetMonitor.Reference
