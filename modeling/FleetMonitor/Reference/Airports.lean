import FleetMonitor.Positions.RepeatedAircraft

/-!
# The airports

The airports half of `static_reference`: the airports of the CSV that the watchlist allows for are
upserted in pages, and committed before the watched ones are counted. An airport that was watched
and is no longer in the CSV keeps its row, so the count is that of the watchlist only when there is
none.
-/

namespace FleetMonitor

open Library

namespace Reference

/-! ### The files -/

/-- The functions the fields are read with; `numeric` is how a column with five decimals keeps a
float. -/
structure CsvFunctions extends TextFunctions where
  numeric : FloatValue → FloatValue

/-- An entry of `watchlist.json`. -/
structure WatchlistEntry where
  icao : String
  customerRegions : List CustomerRegion
  deriving DecidableEq, Repr

abbrev WatchlistFile := Table WatchlistEntry.icao

/-- A line of `airports.csv`, which has all the columns that are read; a line may be short of
fields. -/
structure AirportRecord where
  isoCountry : Option String := none
  type : Option String := none
  scheduledService : Option String := none
  ident : Option String := none
  iataCode : Option String := none
  name : Option String := none
  municipality : Option String := none
  isoRegion : Option String := none
  latitudeDeg : Option String := none
  longitudeDeg : Option String := none
  elevationFt : Option String := none
  deriving DecidableEq, Repr

/-- A row of `ref.airports`. -/
structure AirportRow where
  icao : String
  iata : Option String
  name : String
  city : Option String
  state : Option String
  country : String
  lat : FloatValue
  lon : FloatValue
  elevationFt : Option ℤ
  timezone : Option String
  isWatched : Bool
  customerRegions : List CustomerRegion
  deriving DecidableEq, Repr

abbrev Airports := Table AirportRow.icao

/-- `ALLOWED_AIRPORT_TYPES`. -/
def allowedAirportTypes : List String := ["large_airport", "medium_airport"]

/-- `_parse_state`. -/
def parseState : Option String → Option String
  | none           => none
  | some isoRegion =>
    match (isoRegion.toList.dropWhile (· ≠ '-')).drop 1 with
    | []    => none
    | state => some (String.ofList state)

variable (functions : CsvFunctions) (watchlist : WatchlistFile)

/-- `_parse_int`; it fails where the field is no number. -/
def parseInt : Option String → Option (Option ℤ)
  | none     => some none
  | some raw => if raw = "" then some none else (pyInt raw.toList).map some

/-- Why a line is passed over. -/
def AirportRecord.skipped (record : AirportRecord) : Bool :=
  record.isoCountry ≠ some "US" || !record.type.any (· ∈ allowedAirportTypes) ||
    record.scheduledService ≠ some "yes"

/-- The row of a line with an ICAO. -/
def airportRow (icao : String) (record : AirportRecord) : Option AirportRow := do
  let iataCode ← record.iataCode
  let name ← record.name
  let municipality ← record.municipality
  let latitudeDeg ← record.latitudeDeg
  let longitudeDeg ← record.longitudeDeg
  let lat ← functions.float latitudeDeg
  let lon ← functions.float longitudeDeg
  let elevationFt ← parseInt record.elevationFt
  return {
    icao
    iata := stripOrNone iataCode
    name := strip name
    city := stripOrNone municipality
    state := parseState record.isoRegion
    country := "US"
    lat := functions.numeric lat
    lon := functions.numeric lon
    elevationFt
    timezone := none
    isWatched := (watchlist.lookup icao).isSome
    customerRegions := ((watchlist.lookup icao).map WatchlistEntry.customerRegions).getD [] }

/-- The pass over one line: it may fail, and it may give no row. -/
def convertAirport (record : AirportRecord) : Option (Option AirportRow) :=
  if record.skipped then some none
  else
    record.ident.bind fun ident =>
      if strip ident = "" then some none
      else (airportRow functions watchlist (strip ident) record).map some

/-- `_build_airport_rows`: the rows and the watched airports among them. -/
def buildAirportRows : List AirportRecord → Option (List AirportRow × List String)
  | []                => some ([], [])
  | record :: records =>
    (convertAirport functions watchlist record).bind fun row =>
      (buildAirportRows records).map fun (rows, seen) =>
        match row with
        | none     => (rows, seen)
        | some row => (row :: rows, if row.isWatched then row.icao :: seen else seen)

/-! ### Loading -/

/-- The `page_size` of `execute_values`. -/
def airportsPageSize : ℕ := 500

inductive ReferenceError where
  | fileNotFound
  /-- A field is missing or is no number. -/
  | conversion
  /-- The watchlist names airports that are not in the CSV. -/
  | missing (icaos : List String)
  | database (text : String)
  /-- `ON CONFLICT DO UPDATE` cannot affect a row a second time. -/
  | affectedTwice
  | postUpsert (watched expected : ℕ)
  | postLoad (total expected : ℕ)
  deriving DecidableEq, Repr

structure AirportCounts where
  total : ℕ
  watched : ℕ
  watchlistSize : ℕ
  deriving DecidableEq, Repr

/-- `SELECT … FROM ref.airports WHERE is_watched`. -/
def watchedRows (airports : Airports) : List AirportRow := airports.rows.filter (·.isWatched)

/-- Any error of the transaction other than that a statement has an airport twice. -/
abbrev Refusals := List AirportRow → Option String

variable (refused : Refusals)

/-- The transaction that upserts the rows, page by page. -/
def upsertAirports (airports : Airports) (rows : List AirportRow) :
    Except ReferenceError Airports :=
  match refused rows with
  | some text => .error (.database text)
  | none      =>
    if ∀ page ∈ chunks airportsPageSize rows, (page.map AirportRow.icao).Nodup then
      .ok (airports.upsertAll rows)
    else .error .affectedTwice

/-- `_load_airports`: the table it leaves, and what it returns or raises. -/
def loadAirports (file : Option (List AirportRecord)) (airports : Airports) :
    Airports × Except ReferenceError AirportCounts :=
  match file with
  | none         => (airports, .error .fileNotFound)
  | some records =>
    match buildAirportRows functions watchlist records with
    | none              => (airports, .error .conversion)
    | some (rows, seen) =>
      match watchlist.keys.filter (· ∉ seen) with
      | icao :: icaos => (airports, .error (.missing (sortedIds (icao :: icaos))))
      | []            =>
        match upsertAirports refused airports rows with
        | .error e     => (airports, .error e)
        | .ok upserted =>
          -- the transaction is committed by now
          let watched := (watchedRows upserted).length
          if watched ≠ watchlist.rows.length then
            (upserted, .error (.postUpsert watched watchlist.rows.length))
          else (upserted, .ok ⟨upserted.rows.length, watched, watchlist.rows.length⟩)

/-! ### Rows -/

variable {functions watchlist refused} {records : List AirportRecord} {record : AirportRecord}
  {rows : List AirportRow} {row : AirportRow} {seen : List String} {airports : Airports} {icao : String}

/-- A row has the flag and the regions that the watchlist has for its airport. -/
structure AirportRow.Follows (row : AirportRow) (watchlist : WatchlistFile) : Prop where
  isWatched : row.isWatched = (watchlist.lookup row.icao).isSome
  customerRegions : row.customerRegions =
    ((watchlist.lookup row.icao).map WatchlistEntry.customerRegions).getD []

lemma follows_of_convertAirport (h : convertAirport functions watchlist record = some (some row)) :
    row.Follows watchlist := by
  rw [convertAirport] at h
  split_ifs at h
  · simp at h
  · obtain ⟨ident, -, h⟩ := Option.bind_eq_some_iff.mp h
    split_ifs at h
    · simp at h
    · simp only [airportRow, Option.map_eq_some_iff, Option.some.injEq, exists_eq_right,
        Option.bind_eq_bind, Option.bind_eq_some_iff] at h
      obtain ⟨iata, -, name, -, city, -, latitude, -, longitude, -, lat, -, lon, -, ft, -, h⟩ := h
      simp only [pure, Option.some.injEq] at h
      subst h
      exact ⟨rfl, rfl⟩

/-- All rows that are built follow the watchlist, and the watched ones have been seen. -/
lemma buildAirportRows_spec (h : buildAirportRows functions watchlist records = some (rows, seen)) :
    (∀ row ∈ rows, row.Follows watchlist) ∧
      seen = (rows.filter (·.isWatched)).map AirportRow.icao := by
  induction records generalizing rows seen with
  | nil =>
    simp only [buildAirportRows, Option.some.injEq, Prod.mk.injEq] at h
    obtain ⟨rfl, rfl⟩ := h
    simp
  | cons record records ih =>
    simp only [buildAirportRows, Option.bind_eq_some_iff, Option.map_eq_some_iff, Prod.exists] at h
    obtain ⟨converted, hconverted, later, seenLater, hlater, h⟩ := h
    obtain ⟨hfollow, hseen⟩ := ih hlater
    cases converted with
    | none =>
      obtain ⟨rfl, rfl⟩ := Prod.mk.inj h
      exact ⟨hfollow, hseen⟩
    | some first =>
      obtain ⟨rfl, rfl⟩ := Prod.mk.inj h
      refine ⟨List.forall_mem_cons.mpr ⟨follows_of_convertAirport hconverted, hfollow⟩, ?_⟩
      rw [hseen, List.filter_cons]
      split_ifs <;> simp

/-- An airport of the watchlist has been seen if it has a row. -/
lemma mem_seen_iff (h : buildAirportRows functions watchlist records = some (rows, seen))
    (hicao : icao ∈ watchlist.keys) : icao ∈ seen ↔ icao ∈ rows.map AirportRow.icao := by
  obtain ⟨hfollow, hseen⟩ := buildAirportRows_spec h
  rw [hseen, List.mem_map, List.mem_map]
  constructor
  · rintro ⟨row, hrow, hrowIcao⟩
    exact ⟨row, (List.mem_filter.mp hrow).1, hrowIcao⟩
  · rintro ⟨row, hrow, rfl⟩
    refine ⟨row, List.mem_filter.mpr ⟨hrow, ?_⟩, rfl⟩
    rw [(hfollow row hrow).isWatched, Option.isSome_iff_ne_none]
    exact Table.mem_keys_iff.mp hicao

/-! ### What a load leaves -/

/-- The airport is watched in the table. -/
def Watched (airports : Airports) (icao : String) : Prop :=
  ∃ row, airports.lookup icao = some row ∧ row.isWatched

lemma mem_watchedRows_iff :
    icao ∈ (watchedRows airports).map AirportRow.icao ↔ Watched airports icao := by
  simp only [watchedRows, List.mem_map, List.mem_filter, Watched, Table.lookup_eq_some_iff]
  constructor
  · rintro ⟨row, ⟨hrow, hwatched⟩, hicao⟩
    exact ⟨row, ⟨hrow, hicao⟩, hwatched⟩
  · rintro ⟨row, ⟨hrow, hicao⟩, hwatched⟩
    exact ⟨row, ⟨hrow, hwatched⟩, hicao⟩

/-- The load of the file commits these rows. -/
structure Commits (functions : CsvFunctions) (watchlist : WatchlistFile) (refused : Refusals)
    (file : Option (List AirportRecord)) (rows : List AirportRow) : Prop where
  built : ∃ records seen, file = some records ∧
    buildAirportRows functions watchlist records = some (rows, seen)
  covered : ∀ icao ∈ watchlist.keys, icao ∈ rows.map AirportRow.icao
  accepted : refused rows = none
  distinct : ¬RepeatsOnPage airportsPageSize (rows.map AirportRow.icao)

variable {file : Option (List AirportRecord)}

lemma Commits.follows (h : Commits functions watchlist refused file rows) :
    ∀ row ∈ rows, row.Follows watchlist := by
  obtain ⟨records, seen, -, hbuild⟩ := h.built
  exact (buildAirportRows_spec hbuild).1

/-- The rows are those of the file. -/
lemma Commits.eq_of_built {rows' : List AirportRow}
    (h : Commits functions watchlist refused (some records) rows')
    (hbuild : buildAirportRows functions watchlist records = some (rows, seen)) : rows' = rows := by
  obtain ⟨_, _, hfile, hbuild'⟩ := h.built
  obtain rfl := Option.some.inj hfile
  rw [hbuild] at hbuild'
  exact (Prod.mk.inj (Option.some.inj hbuild')).1.symm

/-- An airport of the watchlist is watched after the upsert; another one only if it was before, and
is not in the CSV. -/
lemma Commits.watched_iff (h : Commits functions watchlist refused file rows) :
    Watched (airports.upsertAll rows) icao ↔
      icao ∈ watchlist.keys ∨ Watched airports icao ∧ icao ∉ rows.map AirportRow.icao := by
  rw [Watched, Table.lookup_upsertAll]
  cases hfind : rows.reverse.find? (·.icao = icao) with
  | none =>
    have hnot : icao ∉ rows.map AirportRow.icao := by
      simpa using hfind
    have hkeys : icao ∉ watchlist.keys := fun hmem => hnot (h.covered icao hmem)
    simp [hnot, hkeys, Watched]
  | some row =>
    have hicao : row.icao = icao := by simpa using List.find?_some hfind
    have hrow : row ∈ rows := by simpa using List.mem_of_find?_eq_some hfind
    have hmem : icao ∈ rows.map AirportRow.icao := List.mem_map.mpr ⟨row, hrow, hicao⟩
    have hwatched := (h.follows row hrow).isWatched
    rw [hicao] at hwatched
    rw [Table.mem_keys_iff, ← Option.isSome_iff_ne_none, ← hwatched]
    simp [hmem]

/-- The regions of an airport of the watchlist are those of its entry. -/
lemma Commits.customerRegions_eq (h : Commits functions watchlist refused file rows)
    {entry : WatchlistEntry} (hentry : watchlist.lookup icao = some entry) :
    ∃ row, (airports.upsertAll rows).lookup icao = some row ∧
      row.customerRegions = entry.customerRegions := by
  have hmem : icao ∈ rows.map AirportRow.icao :=
    h.covered icao (Table.mem_keys_iff.mpr (by simp [hentry]))
  cases hfind : rows.reverse.find? (·.icao = icao) with
  | none =>
    have hnot : icao ∉ rows.map AirportRow.icao := by simpa using hfind
    exact absurd hmem hnot
  | some row =>
    have hicao : row.icao = icao := by simpa using List.find?_some hfind
    have hrow : row ∈ rows := by simpa using List.mem_of_find?_eq_some hfind
    refine ⟨row, by rw [Table.lookup_upsertAll, hfind, Option.some_or], ?_⟩
    simpa [hicao, hentry] using (h.follows row hrow).customerRegions

/-- As many are watched as the watchlist has entries iff no other one is watched. -/
lemma Commits.length_watchedRows_iff (h : Commits functions watchlist refused file rows) :
    (watchedRows (airports.upsertAll rows)).length = watchlist.rows.length ↔
      ∀ icao, Watched (airports.upsertAll rows) icao → icao ∈ watchlist.keys := by
  have hnodup : ((watchedRows (airports.upsertAll rows)).map AirportRow.icao).Nodup :=
    (List.filter_sublist.map _).nodup (airports.upsertAll rows).nodup
  have hkeys : watchlist.keys.Nodup := watchlist.nodup
  have hsubset : watchlist.keys ⊆ (watchedRows (airports.upsertAll rows)).map AirportRow.icao :=
    fun icao hicao => mem_watchedRows_iff.mpr (h.watched_iff.mpr (.inl hicao))
  have hlength : watchlist.keys.length = watchlist.rows.length := List.length_map _
  have hsubperm := hkeys.subperm hsubset
  constructor
  · intro heq icao hicao
    have hperm := hsubperm.perm_of_length_le (by rw [List.length_map, heq, hlength])
    exact hperm.mem_iff.mpr (mem_watchedRows_iff.mpr hicao)
  · intro hall
    have hback : (watchedRows (airports.upsertAll rows)).map AirportRow.icao ⊆ watchlist.keys :=
      fun icao hicao => hall icao (mem_watchedRows_iff.mp hicao)
    have hperm := hsubperm.antisymm (hnodup.subperm hback)
    rw [← hlength, hperm.length_eq, List.length_map]

/-- What a load does: it fails and leaves the table, or commits its rows and then fails exactly when
an airport that is not in the watchlist is still watched. -/
lemma loadAirports_cases (functions : CsvFunctions) (watchlist : WatchlistFile) (refused : Refusals)
    (file : Option (List AirportRecord)) (airports : Airports) :
    ((∀ rows, ¬Commits functions watchlist refused file rows) ∧
      ∃ e, loadAirports functions watchlist refused file airports = (airports, .error e)) ∨
    ∃ rows, Commits functions watchlist refused file rows ∧
      (loadAirports functions watchlist refused file airports).1 = airports.upsertAll rows ∧
      ((loadAirports functions watchlist refused file airports).2.toBool ↔
        ∀ icao, Watched (airports.upsertAll rows) icao → icao ∈ watchlist.keys) := by
  cases hfile : file with
  | none =>
    refine .inl ⟨?_, .fileNotFound, rfl⟩
    rintro rows ⟨⟨records, seen, h, -⟩, -, -, -⟩
    cases h
  | some records =>
    cases hbuild : buildAirportRows functions watchlist records with
    | none =>
      refine .inl ⟨?_, .conversion, by simp [loadAirports, hbuild]⟩
      rintro rows ⟨⟨_, seen, ⟨⟩, h⟩, -, -, -⟩
      rw [hbuild] at h
      cases h
    | some built =>
      obtain ⟨rows, seen⟩ := built
      cases hmissing : watchlist.keys.filter (· ∉ seen) with
      | cons icao icaos =>
        refine .inl ⟨fun rows' h => ?_, .missing (sortedIds (icao :: icaos)), by
          simp only [loadAirports, hbuild, hmissing]⟩
        have hin : icao ∈ watchlist.keys.filter (· ∉ seen) := by
          rw [hmissing]
          exact List.mem_cons_self
        simp only [List.mem_filter, decide_eq_true_eq] at hin
        obtain rfl := h.eq_of_built hbuild
        exact hin.2 ((mem_seen_iff hbuild hin.1).mpr (h.covered icao hin.1))
      | nil =>
        have hcovered : ∀ icao ∈ watchlist.keys, icao ∈ rows.map AirportRow.icao := by
          intro icao hicao
          rw [List.filter_eq_nil_iff] at hmissing
          exact (mem_seen_iff hbuild hicao).mp (by simpa using hmissing icao hicao)
        cases hrefused : refused rows with
        | some text =>
          refine .inl ⟨fun rows' h => ?_, .database text, by
            simp only [loadAirports, hbuild, hmissing, upsertAirports, hrefused]⟩
          obtain rfl := h.eq_of_built hbuild
          rw [h.accepted] at hrefused
          cases hrefused
        | none =>
          by_cases hpages : ∀ page ∈ chunks airportsPageSize rows, (page.map AirportRow.icao).Nodup
          · have hcommits : Commits functions watchlist refused (some records) rows :=
              ⟨⟨records, seen, rfl, hbuild⟩, hcovered, hrefused,
                (nodup_chunks_iff (by decide) _ _).mp hpages⟩
            refine .inr ⟨rows, hcommits, ?_⟩
            rw [← hcommits.length_watchedRows_iff]
            simp only [loadAirports, hbuild, hmissing, upsertAirports, hrefused, if_pos hpages]
            split_ifs with hcount
            · exact ⟨rfl, by simpa [Except.toBool] using hcount⟩
            · exact ⟨rfl, by simpa [Except.toBool] using hcount⟩
          · refine .inl ⟨fun rows' h => ?_, .affectedTwice, by
              simp only [loadAirports, hbuild, hmissing, upsertAirports, hrefused, if_neg hpages]⟩
            obtain rfl := h.eq_of_built hbuild
            exact hpages ((nodup_chunks_iff (by decide) _ _).mpr h.distinct)

/-- A load returns iff it commits its rows and every airport that was watched is in the watchlist or
in the CSV; then exactly the airports of the watchlist are watched, with its regions. A load that
does not commit leaves the table, and one that commits but fails leaves the others watched. -/
lemma loadAirports_spec (functions : CsvFunctions) (watchlist : WatchlistFile) (refused : Refusals)
    (file : Option (List AirportRecord)) (airports : Airports) :
    let loaded := loadAirports functions watchlist refused file airports
    (loaded.2.toBool ↔ ∃ rows, Commits functions watchlist refused file rows ∧
      ∀ icao, Watched airports icao → icao ∈ watchlist.keys ∨ icao ∈ rows.map AirportRow.icao) ∧
    ((∀ rows, ¬Commits functions watchlist refused file rows) → loaded.1 = airports) ∧
    ∀ rows, Commits functions watchlist refused file rows →
      (∀ icao, Watched loaded.1 icao ↔
        icao ∈ watchlist.keys ∨ Watched airports icao ∧ icao ∉ rows.map AirportRow.icao) ∧
      ∀ entry ∈ watchlist.rows, ∃ row, loaded.1.lookup entry.icao = some row ∧
        row.customerRegions = entry.customerRegions := by
  intro loaded
  rcases loadAirports_cases functions watchlist refused file airports with
    ⟨hnone, e, hload⟩ | ⟨rows, hcommits, hload, hok⟩
  · change loaded = (airports, .error e) at hload
    refine ⟨?_, fun _ => by rw [hload], fun rows h => absurd h (hnone rows)⟩
    rw [hload]
    refine iff_of_false (by simp [Except.toBool]) ?_
    rintro ⟨rows, hrows, -⟩
    exact hnone rows hrows
  · change loaded.1 = _ at hload
    change loaded.2.toBool ↔ _ at hok
    have huniq : ∀ rows', Commits functions watchlist refused file rows' → rows' = rows := by
      intro rows' h
      obtain ⟨records, seen, rfl, hbuild⟩ := hcommits.built
      exact h.eq_of_built hbuild
    refine ⟨?_, fun hnone => absurd hcommits (hnone rows), fun rows' h => ?_⟩
    · rw [hok]
      constructor
      · intro hall
        refine ⟨rows, hcommits, fun icao hicao => ?_⟩
        by_cases hmem : icao ∈ rows.map AirportRow.icao
        · exact .inr hmem
        · exact .inl (hall icao (hcommits.watched_iff.mpr (.inr ⟨hicao, hmem⟩)))
      · rintro ⟨rows', h, hall⟩ icao hicao
        obtain rfl := huniq rows' h
        rcases hcommits.watched_iff.mp hicao with hkey | ⟨hwatched, hnot⟩
        · exact hkey
        · exact (hall icao hwatched).resolve_right hnot
    · obtain rfl := huniq rows' h
      rw [hload]
      refine ⟨fun icao => hcommits.watched_iff, fun entry hentry => ?_⟩
      exact hcommits.customerRegions_eq (Table.lookup_of_mem hentry)

end Reference

end FleetMonitor
