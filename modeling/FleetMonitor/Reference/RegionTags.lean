import FleetMonitor.Library.Validation
import FleetMonitor.Positions.Watchlist
import FleetMonitor.Reference.StaticReference

/-!
# The regions of the positions

What a row of a poll is tagged with comes from the watchlist file in three steps: the weekly load
flags the airports, the watchlist reads the flagged ones once, and a cycle passes its positions to
`infer_regions` in one call and pairs the answers with its states.
-/

namespace FleetMonitor.RegionTags

open Library

/-! ### Reading the airports -/

/-- A row as the watchlist reads it; coordinates that are not finite are left out of the model. -/
def watchedAirport (row : Reference.AirportRow) : Option Watchlist.WatchedAirport :=
  match row.lat, row.lon with
  | .finite lat, .finite lon => some ⟨row.icao, lat, lon, row.customerRegions⟩
  | _, _                     => none

/-- `SELECT icao, lat, lon, customer_regions FROM ref.airports WHERE is_watched = TRUE ORDER BY
icao`. -/
def readWatched (airports : Reference.Airports) : Option (List Watchlist.WatchedAirport) :=
  ((Reference.watchedRows airports).insertionSort (·.icao ≤ ·.icao)).mapM watchedAirport

variable {airports : Reference.Airports} {watched : List Watchlist.WatchedAirport}

lemma mem_of_mapM_some {α β : Type*} {f : α → Option β} {as : List α} {bs : List β} {b : β}
    (h : as.mapM f = some bs) (hb : b ∈ bs) : ∃ a ∈ as, f a = some b := by
  induction as generalizing bs with
  | nil =>
    simp only [List.mapM_nil, pure, Option.some.injEq] at h
    subst h
    cases hb
  | cons a as ih =>
    rw [List.mapM_cons] at h
    simp only [Option.bind_eq_bind, Option.bind_eq_some_iff, pure, Option.some.injEq] at h
    obtain ⟨first, hfirst, rest, hrest, rfl⟩ := h
    rcases List.mem_cons.mp hb with rfl | hb
    · exact ⟨a, List.mem_cons_self, hfirst⟩
    · obtain ⟨a', ha', hb'⟩ := ih hrest hb
      exact ⟨a', List.mem_cons_of_mem a ha', hb'⟩

/-- What is read is a flagged row. -/
lemma exists_row_of_mem_readWatched (h : readWatched airports = some watched)
    {a : Watchlist.WatchedAirport} (ha : a ∈ watched) :
    ∃ row ∈ airports.rows, row.isWatched ∧ row.icao = a.icao ∧ row.customerRegions = a.customerRegions := by
  obtain ⟨row, hrow, hread⟩ := mem_of_mapM_some h ha
  rw [List.mem_insertionSort, Reference.watchedRows, List.mem_filter] at hrow
  refine ⟨row, hrow.1, hrow.2, ?_⟩
  rw [watchedAirport] at hread
  split at hread
  · obtain rfl := Option.some.inj hread
    exact ⟨rfl, rfl⟩
  · cases hread

/-- After a run of the load that returned, what is read has the regions of the watchlist file. -/
lemma exists_entry_of_mem_readWatched {watchlist : Reference.WatchlistFile}
    (hlist : Reference.WatchesList airports watchlist) (h : readWatched airports = some watched)
    {a : Watchlist.WatchedAirport} (ha : a ∈ watched) :
    ∃ entry ∈ watchlist.rows, entry.icao = a.icao ∧ entry.customerRegions = a.customerRegions := by
  obtain ⟨row, hrow, hflag, hicao, hregions⟩ := exists_row_of_mem_readWatched h ha
  have hkey := hlist.others row.icao ⟨row, Table.lookup_of_mem hrow, hflag⟩
  obtain ⟨entry, hentry, hentryIcao⟩ := List.mem_map.mp hkey
  obtain ⟨row', hrow', -, hentryRegions⟩ := hlist.listed entry hentry
  rw [hentryIcao, Table.lookup_of_mem hrow] at hrow'
  obtain rfl := Option.some.inj hrow'
  exact ⟨entry, hentry, hentryIcao.trans hicao, hentryRegions.symm.trans hregions⟩

/-! ### Converting the states -/

/-- The coordinates that `infer_regions` masks: `NaN` stands for a missing one. -/
def positionOf (lat lon : Option FloatValue) : Option (ℚ × ℚ) :=
  match lat, lon with
  | some (.finite lat), some (.finite lon) => some (lat, lon)
  | _, _                                   => none

/-- The argument of `infer_regions` for the states of a cycle. -/
def positionsOf (states : List OpenSkyState) : List (Option (ℚ × ℚ)) :=
  states.map fun state => positionOf state.lat state.lon

/-- `_convert_states_to_rows`, with the answer of `infer_regions`, which has as many entries. -/
def convertTagged (polledAt : Instant) (states : List OpenSkyState)
    (regions : List (Option (List CustomerRegion))) : Except StateError (List PolledRow) :=
  ((states.zip regions).mapM fun (state, region) =>
    convertState (fun _ _ => region) polledAt state).map List.reduceOption

/-- Asking for all positions in one call gives the rows of asking for each of them. -/
theorem convertTagged_eq (answer : Option (ℚ × ℚ) → Option (List CustomerRegion))
    (polledAt : Instant)
    (states : List OpenSkyState) :
    convertTagged polledAt states ((positionsOf states).map answer) =
      convertStatesToRows (fun lat lon => answer (positionOf (some lat) (some lon))) polledAt states := by
  have hstate : ∀ state : OpenSkyState,
      convertState (fun _ _ => answer (positionOf state.lat state.lon)) polledAt state =
        convertState (fun lat lon => answer (positionOf (some lat) (some lon))) polledAt state := by
    intro state
    cases hlat : state.lat <;> cases hlon : state.lon <;> simp only [convertState, hlat, hlon]
  have hzip : states.zip ((positionsOf states).map answer) =
      states.map fun state => (state, answer (positionOf state.lat state.lon)) := by
    rw [positionsOf, List.map_map, List.zip_map_right, List.zip_eq_zipWith, List.zipWith_self,
      List.map_map]
    rfl
  rw [convertTagged, convertStatesToRows, hzip, List.mapM_map]
  simp only [Function.comp_def, hstate]

/-- What a row has of its state. -/
lemma convertState_tag {region : Option (List CustomerRegion)} {polledAt : Instant}
    {state : OpenSkyState} {row : PolledRow}
    (h : convertState (fun _ _ => region) polledAt state = .ok (some row)) :
    state.lat = some row.lat ∧ state.lon = some row.lon ∧ row.customerRegion = denormalizeRegion region := by
  rw [convertState] at h
  split at h
  next lat lon hlat hlon =>
    obtain ⟨_, -, h⟩ := bind_eq_ok_iff.mp h
    obtain ⟨_, -, h⟩ := bind_eq_ok_iff.mp h
    obtain ⟨_, -, h⟩ := bind_eq_ok_iff.mp h
    obtain ⟨_, -, h⟩ := bind_eq_ok_iff.mp h
    obtain ⟨_, -, h⟩ := bind_eq_ok_iff.mp h
    obtain rfl := Option.some.inj (Except.ok.inj h)
    exact ⟨hlat, hlon, rfl⟩
  next => cases h

/-- Every row comes from a state and the answer at its place. -/
lemma exists_pair_of_mem_convertTagged {polledAt : Instant} {states : List OpenSkyState}
    {regions : List (Option (List CustomerRegion))} {rows : List PolledRow} {row : PolledRow}
    (h : convertTagged polledAt states regions = .ok rows) (hrow : row ∈ rows) :
    ∃ state region, (state, region) ∈ states.zip regions ∧ state.lat = some row.lat ∧
      state.lon = some row.lon ∧ row.customerRegion = denormalizeRegion region := by
  rw [convertTagged] at h
  cases hmapM : (states.zip regions).mapM fun (state, region) =>
      convertState (fun _ _ => region) polledAt state with
  | error e =>
    rw [hmapM] at h
    cases h
  | ok converted =>
    rw [hmapM] at h
    obtain rfl := Except.ok.inj h
    obtain ⟨⟨state, region⟩, hpair, hconvert⟩ :=
      (mem_of_mapM_ok hmapM).mp (List.reduceOption_mem_iff.mp hrow)
    exact ⟨state, region, hpair, convertState_tag hconvert⟩

/-! ### Tags -/

/-- How a row is tagged: not at all where its position is not finite or far from every airport, else
with the entry of the watchlist file for an airport that is nearest. -/
inductive Tagged (dist : Watchlist.Distance) (watchlist : Reference.WatchlistFile)
    (watched : List Watchlist.WatchedAirport) (row : PolledRow) : Prop where
  | unplaced (hplace : positionOf (some row.lat) (some row.lon) = none) (htag : row.customerRegion = none)
  | far (position : ℚ × ℚ) (hplace : positionOf (some row.lat) (some row.lon) = some position)
      (hfar : ∀ a ∈ watched, Watchlist.regionInferenceRadiusMeters < dist position a.coords)
      (htag : row.customerRegion = none)
  | near (position : ℚ × ℚ) (hplace : positionOf (some row.lat) (some row.lon) = some position)
      (a : Watchlist.WatchedAirport) (ha : a ∈ watched)
      (hnear : dist position a.coords ≤ Watchlist.regionInferenceRadiusMeters)
      (hleast : ∀ b ∈ watched, dist position a.coords ≤ dist position b.coords)
      (entry : Reference.WatchlistEntry) (hentry : entry ∈ watchlist.rows) (hicao : entry.icao = a.icao)
      (htag : row.customerRegion = denormalizeRegion (some entry.customerRegions))

variable {dist : Watchlist.Distance} {watchlist : Reference.WatchlistFile}

/-- The tag of a row from the answer for its position. -/
lemma tagged_of_inferred (hlist : Reference.WatchesList airports watchlist)
    (hread : readWatched airports = some watched) {row : PolledRow}
    {region : Option (List CustomerRegion)}
    (hinferred : Watchlist.Inferred dist watched (positionOf (some row.lat) (some row.lon)) region)
    (htag : row.customerRegion = denormalizeRegion region) : Tagged dist watchlist watched row := by
  cases hplace : positionOf (some row.lat) (some row.lon) with
  | none =>
    rw [hplace] at hinferred
    obtain rfl : region = none := hinferred
    exact .unplaced hplace htag
  | some position =>
    rw [hplace] at hinferred
    cases region with
    | none => exact .far position hplace hinferred htag
    | some found =>
      obtain ⟨a, ha, rfl, hnear, hleast⟩ := hinferred
      obtain ⟨entry, hentry, hicao, hregions⟩ := exists_entry_of_mem_readWatched hlist hread ha
      exact .near position hplace a ha hnear hleast entry hentry hicao (hregions ▸ htag)

/-- Let a run of the load have returned, and let a watchlist that read its table have answered for
the states of a cycle, among any other calls. Then each row of the cycle is tagged from the
watchlist file of that run. -/
theorem rows_tagged {functions : Reference.CsvFunctions} {inputs : Reference.ReferenceInputs}
    {start : Reference.ReferenceState} {s : Watchlist.State} {polledAt : Instant}
    {states : List OpenSkyState} {regions : List (Option (List CustomerRegion))}
    {rows : List PolledRow}
    (hreturned : (Reference.staticReference functions inputs start).2.toBool)
    (hread : readWatched (Reference.staticReference functions inputs start).1.airports = some watched)
    (hreached : Reached (Watchlist.act dist) unguarded Watchlist.Fresh s)
    (hreads : s.reads = [watched])
    (hanswer : (positionsOf states, .regions regions) ∈ s.ended)
    (hrows : convertTagged polledAt states regions = .ok rows) :
    ∀ row ∈ rows, Tagged dist inputs.watchlist watched row := by
  have hinv : Watchlist.Inv dist s :=
    hreached.invariant (fun _ => Watchlist.Fresh.inv) fun _ _ _ hs _ => hs.act
  obtain ⟨found, hfound, hinferred⟩ := hinv.ended _ hanswer
  obtain rfl : watched = found := by simpa [hreads] using hfound
  intro row hrow
  obtain ⟨state, region, hpair, hlat, hlon, htag⟩ := exists_pair_of_mem_convertTagged hrows hrow
  rw [positionsOf, List.forall₂_map_left_iff] at hinferred
  have hplace := List.forall₂_iff_zip.mp hinferred |>.2 hpair
  rw [hlat, hlon] at hplace
  exact tagged_of_inferred (Reference.watchesList_of_returned hreturned) hread hplace htag

/-! ### A cycle -/

def bareState (icao24 : String) (lat lon : Option FloatValue) : OpenSkyState where
  icao24
  callsign := none
  originCountry := "United States"
  timePosition := none
  lastContact := 0
  lon
  lat
  baroAltitudeM := none
  onGround := false
  velocityMs := none
  trueTrackDeg := none
  verticalRateMs := none
  geoAltitudeM := none
  squawk := none
  spi := false
  positionSource := 0

/-- One aircraft near Atlanta, and one without coordinates. -/
def cycleStates : List OpenSkyState :=
  [bareState "a1b2c3" (some (.finite 33.7)) (some (.finite (-84.4))), bareState "d4e5f6" none none]

/-- A single call. -/
def cycleRun : List Watchlist.Action :=
  [.call 1 (positionsOf cycleStates), .step 1, .step 1, .step 1, .answer 1 (some Watchlist.watched),
    .step 1, .step 1, .step 1, .step 1, .step 1]

theorem cycle_tagged : ∃ rows, convertTagged 0 cycleStates [some [.east], none] = .ok rows ∧
    rows.map PolledRow.customerRegion = [some .east] ∧
      ∀ row ∈ rows, Tagged Watchlist.flatDistance Reference.bothWatched.watchlist Watchlist.watched row := by
  have hrun : (runActions (Watchlist.act Watchlist.flatDistance) Watchlist.startState cycleRun).any
      (fun s => s.reads = [Watchlist.watched] ∧
        s.ended = [(positionsOf cycleStates, .regions [some [.east], none])]) = true := by
    decide +kernel
  obtain ⟨s, hs, hends⟩ := (Option.any_eq_true _ _).mp hrun
  obtain ⟨hreads, hended⟩ := of_decide_eq_true hends
  have hreached : Reached (Watchlist.act Watchlist.flatDistance) unguarded Watchlist.Fresh s :=
    (Reached.start Watchlist.fresh_startState).run (guardsHold_unguarded _ _) hs
  have hreturned : (Reference.staticReference Reference.plainFunctions Reference.bothWatched
      Reference.emptyReference).2.toBool = true := by decide +kernel
  have hread : readWatched Reference.bothLoaded.airports = some Watchlist.watched := by decide +kernel
  obtain ⟨row, hrow, htag⟩ : ∃ row : PolledRow,
      convertTagged 0 cycleStates [some [.east], none] = .ok [row] ∧
        row.customerRegion = some .east :=
    ⟨_, rfl, rfl⟩
  refine ⟨[row], hrow, by rw [List.map_singleton, htag], ?_⟩
  exact rows_tagged hreturned hread hreached hreads (hended ▸ List.mem_singleton_self _) hrow

end FleetMonitor.RegionTags
