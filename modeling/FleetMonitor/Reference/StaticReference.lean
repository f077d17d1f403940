import FleetMonitor.Library.Runs
import FleetMonitor.Reference.AircraftRegistry

/-!
# The weekly reference load

`static_reference` loads the airports and then the aircraft, in two transactions. A failure of the
first half keeps the second from running. An airport that was watched, is in the watchlist no more
and has left the CSV fails the first half in every later run, so the aircraft registry is not loaded
again.
-/

namespace FleetMonitor.Reference

open Library

/-! ### The asset -/

structure ReferenceState where
  airports : Airports
  registry : AircraftTable

/-- What a run finds: the watchlist it was built with, the files, and what the database refuses. -/
structure ReferenceInputs where
  watchlist : WatchlistFile
  airportsFile : Option (List AirportRecord)
  aircraftFile : Option (List AircraftRecord)
  airportsRefused : Refusals
  aircraftRefused : Option String

/-- The rows the airports half would commit. -/
abbrev ReferenceInputs.Commits (functions : CsvFunctions) (inputs : ReferenceInputs) :
    List AirportRow → Prop :=
  Reference.Commits functions inputs.watchlist inputs.airportsRefused inputs.airportsFile

/-- `static_reference`: what it leaves, and what it returns or raises. -/
def staticReference (functions : CsvFunctions) (inputs : ReferenceInputs) (state : ReferenceState) :
    ReferenceState × Except ReferenceError (AirportCounts × AircraftCounts) :=
  match loadAirports functions inputs.watchlist inputs.airportsRefused inputs.airportsFile
    state.airports with
  | (airports, .error e)          => ({ state with airports }, .error e)
  | (airports, .ok airportCounts) =>
    match loadAircraft functions inputs.aircraftRefused inputs.aircraftFile state.registry with
    | (registry, .error e)          => (⟨airports, registry⟩, .error e)
    | (registry, .ok aircraftCounts) => (⟨airports, registry⟩, .ok (airportCounts, aircraftCounts))

/-- A run of the asset as a step; it can always be taken. -/
def referenceStep (functions : CsvFunctions) (state : ReferenceState) (inputs : ReferenceInputs) :
    Option ReferenceState :=
  some (staticReference functions inputs state).1

/-! ### One run -/

variable {functions : CsvFunctions} {inputs : ReferenceInputs} {state state' : ReferenceState}
  {icao : String}

/-- The airports are those of the first half, whatever the second does. -/
lemma staticReference_airports : (staticReference functions inputs state).1.airports =
    (loadAirports functions inputs.watchlist inputs.airportsRefused inputs.airportsFile
      state.airports).1 := by
  rw [staticReference]
  split
  next h => rw [h]
  next h =>
    rw [h]
    split <;> rfl

/-- A first half that fails keeps the second from running. -/
lemma staticReference_of_error
    (h : (loadAirports functions inputs.watchlist inputs.airportsRefused inputs.airportsFile
      state.airports).2.toBool = false) :
    (staticReference functions inputs state).1.registry = state.registry ∧
      (staticReference functions inputs state).2.toBool = false := by
  rw [staticReference]
  split
  next => exact ⟨rfl, rfl⟩
  next heq =>
    rw [heq] at h
    simp [Except.toBool] at h

/-- The second half runs when the first one has returned. -/
lemma staticReference_of_ok
    (h : (loadAirports functions inputs.watchlist inputs.airportsRefused inputs.airportsFile
      state.airports).2.toBool) :
    (staticReference functions inputs state).1.registry =
        (loadAircraft functions inputs.aircraftRefused inputs.aircraftFile state.registry).1 ∧
      (staticReference functions inputs state).2.toBool =
        (loadAircraft functions inputs.aircraftRefused inputs.aircraftFile state.registry).2.toBool := by
  rw [staticReference]
  split
  next heq =>
    rw [heq] at h
    simp [Except.toBool] at h
  next => split <;> simp_all [Except.toBool]

/-- A run returns iff both halves do. -/
lemma staticReference_toBool_iff : (staticReference functions inputs state).2.toBool ↔
    (loadAirports functions inputs.watchlist inputs.airportsRefused inputs.airportsFile
      state.airports).2.toBool ∧
    (loadAircraft functions inputs.aircraftRefused inputs.aircraftFile state.registry).2.toBool := by
  cases hfirst : (loadAirports functions inputs.watchlist inputs.airportsRefused inputs.airportsFile
      state.airports).2.toBool with
  | false => simp [(staticReference_of_error hfirst).2]
  | true  => simp [(staticReference_of_ok hfirst).2]

/-- After a run that returned the watched airports are those of the watchlist, with its regions. -/
structure WatchesList (airports : Airports) (watchlist : WatchlistFile) : Prop where
  listed : ∀ entry ∈ watchlist.rows, ∃ row, airports.lookup entry.icao = some row ∧ row.isWatched ∧
    row.customerRegions = entry.customerRegions
  others : ∀ icao, Watched airports icao → icao ∈ watchlist.keys

lemma watchesList_of_returned (h : (staticReference functions inputs state).2.toBool) :
    WatchesList (staticReference functions inputs state).1.airports inputs.watchlist := by
  obtain ⟨hok, -, hcommitted⟩ := loadAirports_spec functions inputs.watchlist
    inputs.airportsRefused inputs.airportsFile state.airports
  obtain ⟨rows, hcommits, hall⟩ := hok.mp (staticReference_toBool_iff.mp h).1
  obtain ⟨hwatched, hregions⟩ := hcommitted rows hcommits
  rw [staticReference_airports]
  constructor
  · intro entry hentry
    obtain ⟨row, hrow, hcustomer⟩ := hregions entry hentry
    obtain ⟨row', hrow', hflag⟩ := (hwatched entry.icao).mpr (.inl (List.mem_map_of_mem hentry))
    obtain rfl := Option.some.inj (hrow.symm.trans hrow')
    exact ⟨row, hrow, hflag, hcustomer⟩
  · intro icao hstill
    rcases (hwatched icao).mp hstill with hkey | ⟨hbefore, hnot⟩
    · exact hkey
    · exact (hall icao hbefore).resolve_right hnot

/-- A run returns iff the rows of the CSV can be committed, every airport that is watched is in the
watchlist or among them, and the aircraft can be copied. Then the airports of the watchlist are
watched, with its regions, and no others. -/
theorem staticReference_returns_iff (functions : CsvFunctions) (inputs : ReferenceInputs)
    (state : ReferenceState) :
    ((staticReference functions inputs state).2.toBool ↔
      (∃ rows, inputs.Commits functions rows ∧ ∀ icao, Watched state.airports icao →
        icao ∈ inputs.watchlist.keys ∨ icao ∈ rows.map AirportRow.icao) ∧
      inputs.aircraftRefused = none ∧
      ∃ records, inputs.aircraftFile = some records ∧ Loadable functions records) ∧
    ((staticReference functions inputs state).2.toBool →
      WatchesList (staticReference functions inputs state).1.airports inputs.watchlist) := by
  have hfirst := (loadAirports_spec functions inputs.watchlist inputs.airportsRefused
    inputs.airportsFile state.airports).1
  have hsecond : (loadAircraft functions inputs.aircraftRefused inputs.aircraftFile
      state.registry).2.toBool ↔ inputs.aircraftRefused = none ∧
        ∃ records, inputs.aircraftFile = some records ∧ Loadable functions records := by
    rcases loadAircraft_cases functions inputs.aircraftRefused inputs.aircraftFile state.registry with
      ⟨hnot, e, hload⟩ | ⟨records, stream, rows, _, hrefused, hfile, hloadable, hload⟩
    · rw [hload]
      exact iff_of_false (by simp [Except.toBool]) hnot
    · rw [hload]
      exact iff_of_true rfl ⟨hrefused, records, hfile, hloadable⟩
  rw [← hfirst, ← hsecond]
  exact ⟨staticReference_toBool_iff, watchesList_of_returned⟩

/-! ### Runs -/

/-- The airport is neither in the watchlist of the run nor among the rows of its CSV. -/
def LeavesOut (functions : CsvFunctions) (icao : String) (inputs : ReferenceInputs) : Prop :=
  icao ∉ inputs.watchlist.keys ∧
    ∀ rows, inputs.Commits functions rows → icao ∉ rows.map AirportRow.icao

/-- A run that leaves out a watched airport leaves it watched, and fails before the second half. -/
lemma staticReference_of_leavesOut (hwatched : Watched state.airports icao)
    (hleaves : LeavesOut functions icao inputs) :
    Watched (staticReference functions inputs state).1.airports icao ∧
      (staticReference functions inputs state).1.registry = state.registry ∧
      (staticReference functions inputs state).2.toBool = false := by
  obtain ⟨hkeys, hrows⟩ := hleaves
  obtain ⟨hok, hleft, hcommitted⟩ := loadAirports_spec functions inputs.watchlist
    inputs.airportsRefused inputs.airportsFile state.airports
  refine ⟨?_, staticReference_of_error ?_⟩
  · rw [staticReference_airports]
    by_cases hcommits : ∃ rows, inputs.Commits functions rows
    · obtain ⟨rows, hcommits⟩ := hcommits
      exact ((hcommitted rows hcommits).1 icao).mpr (.inr ⟨hwatched, hrows rows hcommits⟩)
    · rw [hleft (not_exists.mp hcommits)]
      exact hwatched
  · rw [Bool.eq_false_iff]
    intro hreturned
    obtain ⟨rows, hcommits, hall⟩ := hok.mp hreturned
    exact (hall icao hwatched).elim hkeys (hrows rows hcommits)

/-- Every run so far has left the airport out. -/
abbrev LeftOutSince (functions : CsvFunctions) (icao : String) (start : ReferenceState) :
    ReferenceState → Prop :=
  Reached (referenceStep functions) (fun _ inputs => LeavesOut functions icao inputs) (· = start)

/-- While an airport that was watched is left out, no run returns, and the registry stays what it
was, however often the files change. -/
theorem no_run_returns_while_left_out {start : ReferenceState}
    (hwatched : Watched start.airports icao)
    (hrun : LeftOutSince functions icao start state) :
    state.registry = start.registry ∧ ∀ inputs, LeavesOut functions icao inputs →
      (staticReference functions inputs state).2.toBool = false := by
  have hinv : Watched state.airports icao ∧ state.registry = start.registry := by
    refine hrun.invariant (I := fun s => Watched s.airports icao ∧ s.registry = start.registry) ?_ ?_
    · rintro _ rfl
      exact ⟨hwatched, rfl⟩
    · rintro s inputs t ⟨hs, hregistry⟩ hleaves hstep
      obtain rfl := Option.some.inj hstep
      obtain ⟨hstill, hsame, -⟩ := staticReference_of_leavesOut hs hleaves
      exact ⟨hstill, hsame.trans hregistry⟩
  exact ⟨hinv.2, fun inputs hleaves => (staticReference_of_leavesOut hinv.1 hleaves).2.2⟩

/-! ### A watched airport that is closed -/

/-- Enough for the texts of the files below. -/
def plainFunctions : CsvFunctions where
  __ := asciiText
  float text :=
    if text = "33.64" then some (.finite 33.64)
    else if text = "-84.43" then some (.finite (-84.43))
    else if text = "37.62" then some (.finite 37.62)
    else if text = "-122.38" then some (.finite (-122.38))
    else none
  numeric := id

def airportRecord (ident name latitude longitude : String) : AirportRecord where
  isoCountry := some "US"
  type := some "large_airport"
  scheduledService := some "yes"
  ident := some ident
  iataCode := some ""
  name := some name
  municipality := some ""
  isoRegion := some "US-GA"
  latitudeDeg := some latitude
  longitudeDeg := some longitude
  elevationFt := some "1026"

def atlanta : AirportRecord := airportRecord "KATL" "Atlanta" "33.64" "-84.43"

def sanFrancisco : AirportRecord := airportRecord "KSFO" "San Francisco" "37.62" "-122.38"

/-- Both airports are watched; the model of the aircraft has a comma and quotes. -/
def bothWatched : ReferenceInputs where
  watchlist := ⟨[⟨"KATL", [.east]⟩, ⟨"KSFO", [.west]⟩], by decide⟩
  airportsFile := some [atlanta, sanFrancisco]
  aircraftFile := some
    [{ icao24 := some "A1B2C3", registration := some "N1", typecode := some "B738",
       model := some "737, \"NG\"", operator := some "", operatoricao := some "" }]
  airportsRefused _ := none
  aircraftRefused := none

/-- Later the one airport is in neither file. -/
def oneClosed : ReferenceInputs :=
  { bothWatched with
    watchlist := ⟨[⟨"KATL", [.east]⟩], by decide⟩
    airportsFile := some [atlanta]
    aircraftFile := some [] }

def emptyReference : ReferenceState := ⟨Table.empty, Table.empty⟩

def bothLoaded : ReferenceState := (staticReference plainFunctions bothWatched emptyReference).1

example : bothLoaded.registry.rows =
    [⟨"a1b2c3", some "N1", some "B738", some "737, \"NG\"", none, none, none⟩] := by
  decide +kernel

lemma watched_bothLoaded : Watched bothLoaded.airports "KSFO" := by
  rw [← mem_watchedRows_iff]
  decide +kernel

lemma leavesOut_oneClosed : LeavesOut plainFunctions "KSFO" oneClosed := by
  refine ⟨by decide +kernel, fun rows hrows => ?_⟩
  have hbuilt : ∃ row seen, buildAirportRows plainFunctions oneClosed.watchlist [atlanta] =
      some ([row], seen) ∧ row.icao = "KATL" := ⟨_, _, rfl, rfl⟩
  obtain ⟨row, seen, hbuild, hicao⟩ := hbuilt
  obtain rfl := Commits.eq_of_built hrows hbuild
  simp [hicao]

/-- The run after the airport has been closed fails, and so does the next one. -/
theorem oneClosed_never_returns : ∃ state, LeftOutSince plainFunctions "KSFO" bothLoaded state ∧
    state.registry = bothLoaded.registry ∧
    (staticReference plainFunctions oneClosed state).2.toBool = false := by
  have hstart : LeftOutSince plainFunctions "KSFO" bothLoaded bothLoaded := Reached.start rfl
  have hrun : LeftOutSince plainFunctions "KSFO" bothLoaded
      (staticReference plainFunctions oneClosed bothLoaded).1 :=
    Reached.step (a := oneClosed) hstart leavesOut_oneClosed rfl
  obtain ⟨hregistry, hfail⟩ := no_run_returns_while_left_out watched_bothLoaded hrun
  exact ⟨_, hrun, hregistry, hfail oneClosed leavesOut_oneClosed⟩

end FleetMonitor.Reference
