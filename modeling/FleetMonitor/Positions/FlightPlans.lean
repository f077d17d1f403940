import FleetMonitor.Detection.EnrichedPositions
import FleetMonitor.Library.OrderedQuery
import FleetMonitor.Positions.OpenSkyClient
import Mathlib.Data.Int.ConditionallyCompleteOrder
import Mathlib.Data.Prod.Lex

/-!
# The cache of flight plans

`flight_plan_enrichment` selects the active aircraft whose flight plan is missing or older than the
time to live, those that wait longest first, asks for the flights of the first of them one by one,
and writes a row for every answer.
-/

namespace FleetMonitor

open Library

/-! ### Rows -/

inductive FetchStatus where
  | success
  | notFound
  | error
  deriving DecidableEq, Repr

/-- The value of the column `fetch_status`. -/
def FetchStatus.text : FetchStatus → String
  | .success  => "success"
  | .notFound => "not_found"
  | .error    => "error"

/-- A row of `app.flight_plans`. -/
structure FlightPlanRow where
  icao24 : String
  originIcao : Option String
  destinationIcao : Option String
  callsign : Option String
  departureTime : Option Instant
  arrivalTime : Option Instant
  refreshedAt : Instant
  fetchStatus : FetchStatus
  deriving DecidableEq, Repr

abbrev FlightPlanCache := Table FlightPlanRow.icao24

/-- `FETCH_WINDOW_SECONDS`. -/
def fetchWindowSeconds : ℤ := 6 * 3600

/-- `CACHE_TTL_SECONDS`. -/
def cacheTtl : Instant := 12 * 3600000000

/-- `MAX_FETCHES_PER_CYCLE`. -/
def maxFetchesPerCycle : ℕ := 30

/-- `ACTIVE_WINDOW_SECONDS`. -/
def activeWindow : Instant := 3600000000

/-! ### Selection -/

/-- `fp.refreshed_at` of the join; an aircraft without a row sorts first. -/
def refreshedAt (plans : FlightPlanCache) (icao24 : String) : WithBot Instant :=
  match plans.lookup icao24 with
  | none     => ⊥
  | some row => (row.refreshedAt : Instant)

/-- The aircraft has no flight plan that was refreshed within the time to live. -/
def isStale (now : Instant) (plans : FlightPlanCache) (icao24 : String) : Bool :=
  match plans.lookup icao24 with
  | none     => true
  | some row => row.refreshedAt < now - cacheTtl

/-- The `WHERE` clause of `_select_stale_icao24s`. -/
def staleWhere (now : Instant) (plans : FlightPlanCache) (row : CurrentPosition) : Bool :=
  now - activeWindow ≤ row.lastSeenAt ∧ row.customerRegion.isSome ∧ isStale now plans row.icao24

/-- `_select_stale_icao24s`. -/
def selectStaleIcao24s (now : Instant) (positions : CurrentPositions) (plans : FlightPlanCache) :
    List String :=
  (orderedQuery positions (staleWhere now plans) fun row =>
    toLex (refreshedAt plans row.icao24, row.icao24)).map CurrentPosition.icao24

/-! ### One aircraft -/

/-- `_pick_most_recent`; `max` takes the first of several. -/
def pickMostRecent : List OpenSkyFlight → Option OpenSkyFlight
  | []              => none
  | first :: others =>
    some (others.foldl (fun best flight => if best.lastSeen < flight.lastSeen then flight else best)
      first)

/-- What ends a cycle with an error. -/
inductive PlanError where
  | opensky (e : OpenSkyError)
  | timestamp (e : FlightIdError)
  | database (text : String)
  deriving DecidableEq, Repr

/-- The row of `_upsert_flight_plan`, written at `now`. -/
def planRow (now : Instant) (icao24 : String) (flight : Option OpenSkyFlight)
    (status : FetchStatus) :
    Except PlanError FlightPlanRow :=
  match flight with
  | some flight => do
    let departure ← (fromTimestamp flight.firstSeen).mapError .timestamp
    let arrival ← (fromTimestamp flight.lastSeen).mapError .timestamp
    return {
      icao24
      originIcao := flight.estDepartureAirport
      destinationIcao := flight.estArrivalAirport
      callsign := flight.callsign
      departureTime := some departure
      arrivalTime := some arrival
      refreshedAt := now
      fetchStatus := status }
  | none => .ok {
      icao24
      originIcao := none
      destinationIcao := none
      callsign := none
      departureTime := none
      arrivalTime := none
      refreshedAt := now
      fetchStatus := status }

/-- What a cycle meets: the positions, `NOW()` of the selection and of the write after the `n`-th
request, `time.time()`, the hosts, and what the database refuses. The clock of the database does not
go back within a cycle. -/
structure PlanWorld where
  positions : CurrentPositions
  selectedAt : Instant
  writtenAt : ℕ → Instant
  selectedAt_le : ∀ n, selectedAt ≤ writtenAt n
  now : ℤ
  hosts : OpenSkyHosts
  refuses : ℕ → Option String

/-- A row that is written, with the answer it was written for. -/
structure PlanWrite where
  row : FlightPlanRow
  answer : Except OpenSkyError (List OpenSkyFlight)

/-- The cache and the client, and what a cycle has counted and written so far. -/
structure PlanRun where
  plans : FlightPlanCache
  client : OpenSkyClient
  written : List PlanWrite := []
  attempts : ℕ := 0
  success : ℕ := 0
  notFound : ℕ := 0
  errors : ℕ := 0

inductive PlanEnd where
  | completed
  | rateLimited
  | raised (e : PlanError)
  deriving DecidableEq, Repr

variable (py : TextFunctions) (world : PlanWorld)

/-- `_upsert_flight_plan`; `count` is what the cycle counts for it. -/
def upsertFlightPlan (icao24 : String) (answer : Except OpenSkyError (List OpenSkyFlight))
    (flight : Option OpenSkyFlight) (status : FetchStatus) (count : PlanRun → PlanRun)
    (run : PlanRun) : Option PlanEnd × PlanRun :=
  match planRow (world.writtenAt run.attempts) icao24 flight status with
  | .error e => (some (.raised e), run)
  | .ok row  =>
    match world.refuses run.attempts with
    | some text => (some (.raised (.database text)), run)
    | none      =>
      (none, count { run with plans := run.plans.upsert row, written := run.written ++ [⟨row, answer⟩] })

/-- The body of the loop of `run_flight_plan_enrichment`. -/
def enrichAircraft (icao24 : String) (run : PlanRun) : Option PlanEnd × PlanRun :=
  let (answer, client) :=
    run.client.fetchFlightHistory py world.hosts icao24 (world.now - fetchWindowSeconds) world.now
  let asked := { run with client, attempts := run.attempts + 1 }
  match answer with
  | .error (.rateLimited _) => (some .rateLimited, { asked with attempts := run.attempts })
  | .error (.auth text)     => (some (.raised (.opensky (.auth text))), asked)
  | .error e                =>
    if e.isCaught then
      upsertFlightPlan world icao24 answer none .error (fun r => { r with errors := r.errors + 1 }) asked
    else (some (.raised (.opensky e)), asked)
  | .ok flights             =>
    match pickMostRecent flights with
    | none        =>
      upsertFlightPlan world icao24 answer none .notFound
        (fun r => { r with notFound := r.notFound + 1 }) asked
    | some flight =>
      upsertFlightPlan world icao24 answer (some flight) .success
        (fun r => { r with success := r.success + 1 }) asked

/-- The loop, until something ends it. -/
def enrichAll : List String → PlanRun → PlanEnd × PlanRun
  | [], run             => (.completed, run)
  | icao24 :: rest, run =>
    match enrichAircraft py world icao24 run with
    | (some ended, run) => (ended, run)
    | (none, run)       => enrichAll rest run

/-! ### The cycle -/

/-- `EnrichmentResult`. -/
structure PlanResult where
  candidates : ℕ
  fetchAttempts : ℕ
  fetchedSuccess : ℕ
  fetchedNotFound : ℕ
  fetchedError : ℕ
  rateLimited : Bool
  deferred : ℕ
  deriving DecidableEq, Repr

/-- What a cycle starts from and leaves: the cache, the client and all rows written so far. -/
structure PlanState where
  plans : FlightPlanCache := Table.empty
  client : OpenSkyClient := {}
  history : List PlanWrite := []

/-- The aircraft a cycle selects. -/
def PlanWorld.stale (state : PlanState) : List String :=
  selectStaleIcao24s world.selectedAt world.positions state.plans

/-- The loop of a cycle. -/
def PlanWorld.loop (state : PlanState) : PlanEnd × PlanRun :=
  enrichAll py world ((world.stale state).take maxFetchesPerCycle)
    { plans := state.plans, client := state.client }

/-- `run_flight_plan_enrichment`: what it returns or raises. -/
def runFlightPlanEnrichment (state : PlanState) : Except PlanError PlanResult :=
  let (ended, run) := world.loop py state
  let result (rateLimited : Bool) : PlanResult := {
    candidates := (world.stale state).length
    fetchAttempts := run.attempts
    fetchedSuccess := run.success
    fetchedNotFound := run.notFound
    fetchedError := run.errors
    rateLimited
    deferred := (world.stale state).length - ((world.stale state).take maxFetchesPerCycle).length }
  match ended with
  | .completed   => .ok (result false)
  | .rateLimited => .ok (result true)
  | .raised e    => .error e

/-- What a cycle leaves; rows are committed one by one. -/
def PlanWorld.cycle (state : PlanState) : PlanState :=
  let (_, run) := world.loop py state
  { plans := run.plans, client := run.client, history := state.history ++ run.written }

/-- Cycles one after the other. -/
def runCycles (worlds : List PlanWorld) (state : PlanState) : PlanState :=
  worlds.foldl (fun state world => world.cycle py state) state

/-! ### What the detector reads -/

/-- `_load_flight_plans`. -/
def loadFlightPlans (plans : FlightPlanCache) : FlightPlans where
  rows := (plans.rows.filter fun row => row.fetchStatus = .success).map fun row =>
    { icao24 := row.icao24
      originIcao := row.originIcao
      destinationIcao := row.destinationIcao
      departureTime := row.departureTime }
  nodup := by
    rw [List.map_map]
    exact (List.filter_sublist.map FlightPlanRow.icao24).nodup plans.nodup

end FleetMonitor
