import FleetMonitor.Cases.Schema
import FleetMonitor.Salesforce.Org
import Mathlib.Algebra.Group.Nat.Defs
import Mathlib.Algebra.Ring.Int.Defs
import Mathlib.Logic.Function.Basic

/-!
# The flight lifecycle

`incremental_sync_positions` feeds one batch of live positions to a `FlightLifecycleDetector`. The
detector knows the last on-ground flag of every aircraft and the flight it has open; a change of the
flag is a takeoff, which mints a flight id, or a landing, which closes the open flight.
-/

namespace FleetMonitor

open Library

/-! ### Flight ids -/

/-- `a / b` rounded to the nearest natural number, ties to even. -/
def roundHalfEven (a b : ℕ) : ℕ :=
  let q := a / b
  let r := a % b
  if 2 * r < b then q else if b < 2 * r then q + 1 else q + q % 2

/-- `int(t.timestamp())`: the seconds since the epoch as a double, cut to an integer. A double has
53 bits, so far in the future the last microseconds of a second round up. -/
def timestampSeconds (t : Instant) : ℤ :=
  let micros := t.natAbs
  let scale := 2 ^ (52 - Nat.log2 (micros / 1000000))
  Int.sign t * (roundHalfEven (micros * scale) 1000000 / scale : ℕ)

/-- `synthesize_flight_id`. -/
def synthesizeFlightId (icao24 : String) (takeoffTs : Instant) : String :=
  icao24 ++ "-" ++ toString (timestampSeconds takeoffTs)

/-- What `parse_flight_id` raises. -/
inductive FlightIdError where
  | valueError
  | overflowError
  deriving DecidableEq, Repr

/-- `datetime.fromtimestamp(seconds, tz=UTC)`: the years 1 to 9999, and a `time_t` of 64 bits. The
`OSError` of a platform whose years do not go as far as its `time_t` is left out. -/
def fromTimestamp (seconds : ℤ) : Except FlightIdError Instant :=
  if seconds < -2 ^ 63 ∨ 2 ^ 63 ≤ seconds then .error .overflowError
  else if seconds < -62135596800 ∨ 253402300799 < seconds then .error .valueError
  else .ok (seconds * 1000000 : ℤ)

/-- `parse_flight_id`. -/
def parseFlightId (flightId : String) : Except FlightIdError (String × Instant) :=
  let reversed := flightId.toList.reverse
  let ts := (reversed.takeWhile (· ≠ '-')).reverse
  let icao24 := ((reversed.dropWhile (· ≠ '-')).drop 1).reverse
  if icao24 = [] ∨ ts = [] then .error .valueError
  else
    match pyInt ts with
    | none         => .error .valueError
    | some seconds => (fromTimestamp seconds).map fun t => (String.ofList icao24, t)

/-! ### Positions -/

/-- `Position`, as far as the lifecycle reads it. -/
structure Position where
  icao24 : String
  onGround : Bool
  customerRegion : Option CustomerRegion
  lastSeenAt : Instant
  deriving DecidableEq, Repr

/-- `PositionsLiveResponse`. -/
structure PositionsLiveResponse where
  items : List Position
  serverTime : Instant
  deriving DecidableEq, Repr

/-- One turn of the loop of `_dedupe_latest`; a row that is replaced keeps its place. -/
def keepLatest (latest : List Position) (p : Position) : List Position :=
  match latest.find? (·.icao24 = p.icao24) with
  | none => latest ++ [p]
  | some prev =>
    if prev.lastSeenAt < p.lastSeenAt then
      latest.map fun q => if q.icao24 = p.icao24 then p else q
    else latest

/-- `_dedupe_latest`. -/
def dedupeLatest (positions : List Position) : List Position := positions.foldl keepLatest []

/-- `_LIVE_SCOPE_REGIONS`. -/
def liveScopeRegions : Option (List CustomerRegion) := none

/-- `_in_live_scope`. -/
def inLiveScope (p : Position) : Bool :=
  match liveScopeRegions with
  | none         => true
  | some regions => p.customerRegion.any regions.contains

/-- The rows a tick works on. -/
def scopedPositions (response : PositionsLiveResponse) : List Position :=
  (dedupeLatest response.items).filter inLiveScope

/-! ### The detector -/

/-- A Python dict with texts as keys, by what `get` returns. -/
abbrev Dict (α : Type) := String → Option α

/-- `Takeoff`. -/
structure Takeoff where
  icao24 : String
  takeoffTs : Instant
  flightId : String
  deriving DecidableEq, Repr

/-- `Landing`. -/
structure Landing where
  icao24 : String
  flightId : String
  landedAt : Instant
  deriving DecidableEq, Repr

/-- `DetectedEdges`. -/
structure DetectedEdges where
  takeoffs : List Takeoff := []
  landings : List Landing := []
  deriving DecidableEq, Repr

/-- The two maps of a `FlightLifecycleDetector`. -/
structure FlightLifecycleDetector where
  onGround : Dict Bool
  openFlight : Dict String

/-- `FlightLifecycleDetector.__init__`. -/
def newDetector (priorOnGround : Option (Dict Bool)) (priorOpenFlight : Option (Dict String)) :
    FlightLifecycleDetector where
  onGround := priorOnGround.getD fun _ => none
  openFlight := priorOpenFlight.getD fun _ => none

/-- The entries of a map under the given keys. -/
def Dict.restrict {α : Type} (d : Dict α) (icao24s : List String) : Dict α := fun k =>
  if k ∈ icao24s then d k else none

/-- `FlightLifecycleDetector.state_for`. -/
def FlightLifecycleDetector.stateFor (d : FlightLifecycleDetector) (icao24s : List String) :
    Dict Bool := d.onGround.restrict icao24s

/-- `FlightLifecycleDetector.open_flight_state_for`. -/
def FlightLifecycleDetector.openFlightStateFor (d : FlightLifecycleDetector)
    (icao24s : List String) : Dict String := d.openFlight.restrict icao24s

/-- The takeoff of one row, if it is one. -/
def takeoffOf (d : FlightLifecycleDetector) (p : Position) : Option Takeoff :=
  if d.onGround p.icao24 = some true ∧ p.onGround = false then
    some ⟨p.icao24, p.lastSeenAt, synthesizeFlightId p.icao24 p.lastSeenAt⟩
  else none

/-- The landing of one row: the flag has changed and a flight is open. -/
def landingOf (d : FlightLifecycleDetector) (p : Position) : Option Landing :=
  if d.onGround p.icao24 = some false ∧ p.onGround = true then
    (d.openFlight p.icao24).map fun flightId => ⟨p.icao24, flightId, p.lastSeenAt⟩
  else none

/-- The maps after one row. -/
def FlightLifecycleDetector.afterRow (d : FlightLifecycleDetector) (p : Position) :
    FlightLifecycleDetector where
  onGround := Function.update d.onGround p.icao24 (some p.onGround)
  openFlight :=
    if d.onGround p.icao24 = some true ∧ p.onGround = false then
      Function.update d.openFlight p.icao24 (some (synthesizeFlightId p.icao24 p.lastSeenAt))
    else if d.onGround p.icao24 = some false ∧ p.onGround = true then
      Function.update d.openFlight p.icao24 none
    else d.openFlight

/-- `FlightLifecycleDetector.observe`. -/
def FlightLifecycleDetector.observe (d : FlightLifecycleDetector) :
    List Position → DetectedEdges × FlightLifecycleDetector
  | [] => ({}, d)
  | p :: ps =>
    let (edges, d') := (d.afterRow p).observe ps
    ({ takeoffs := (takeoffOf d p).toList ++ edges.takeoffs
       landings := (landingOf d p).toList ++ edges.landings }, d')

/-! ### The positions job -/

/-- `BatchResult`. -/
structure BatchResult where
  attempted : ℕ
  succeeded : ℕ
  failed : ℕ := 0
  deriving DecidableEq, Repr

/-- `FlightLandedStamp`. -/
structure FlightLandedStamp where
  flightId : String
  icao24 : String
  takeoffTs : Instant
  landedAt : Instant
  deriving DecidableEq, Repr

/-- `SyncResult`. -/
structure SyncResult where
  attempted : ℕ
  succeeded : ℕ
  failed : ℕ := 0
  cursor : Option Instant := none
  takeoffsDetected : ℕ := 0
  flightsWritten : ℕ := 0
  landingsDetected : ℕ := 0
  flightsLanded : ℕ := 0
  detectorState : Option (Dict Bool) := none
  openFlightState : Option (Dict String) := none

/-- The results of the three writes of a tick. -/
structure PositionsWrites where
  aircraft : BatchResult
  flights : BatchResult
  landed : BatchResult
  deriving DecidableEq, Repr

/-- The stamp of a landing; the takeoff time is read off the flight id. -/
def landedStamp (landing : Landing) : Except FlightIdError FlightLandedStamp :=
  (parseFlightId landing.flightId).map fun parsed =>
    ⟨landing.flightId, landing.icao24, parsed.2, landing.landedAt⟩

/-- `incremental_sync_positions` with a detector, once the positions are read and the writer has
answered; the edges are what it sends to the writer. -/
def incrementalSyncPositions (detector : FlightLifecycleDetector)
    (response : PositionsLiveResponse) (writes : PositionsWrites) :
    Except FlightIdError (SyncResult × DetectedEdges) :=
  let rows := scopedPositions response
  let (edges, detector') := detector.observe rows
  let icao24s := rows.map Position.icao24
  match edges.landings.mapM landedStamp with
  | .error e => .error e
  | .ok _ => .ok
    ({ attempted := writes.aircraft.attempted
       succeeded := writes.aircraft.succeeded
       failed := writes.aircraft.failed
       cursor := some response.serverTime
       takeoffsDetected := edges.takeoffs.length
       flightsWritten := writes.flights.succeeded
       landingsDetected := edges.landings.length
       flightsLanded := writes.landed.succeeded
       detectorState := some (detector'.stateFor icao24s)
       openFlightState := some (detector'.openFlightStateFor icao24s) }, edges)

/-! ### First sightings -/

lemma keepLatest_nodup {latest : List Position} (h : (latest.map Position.icao24).Nodup)
    (p : Position) : ((keepLatest latest p).map Position.icao24).Nodup := by
  unfold keepLatest
  split
  next hnone =>
    have hnotin : p.icao24 ∉ latest.map Position.icao24 := by
      intro hmem
      obtain ⟨q, hq, he⟩ := List.mem_map.mp hmem
      simpa [he] using List.find?_eq_none.mp hnone q hq
    rw [List.map_append, List.map_singleton]
    refine List.nodup_append.mpr ⟨h, by simp, ?_⟩
    rintro x hx y hy rfl
    exact hnotin (List.mem_singleton.mp hy ▸ hx)
  next =>
    split_ifs
    · have hkeys : (latest.map fun q => if q.icao24 = p.icao24 then p else q).map Position.icao24 =
          latest.map Position.icao24 := by
        rw [List.map_map]
        refine List.map_congr_left fun q _ => ?_
        by_cases hq : q.icao24 = p.icao24 <;> simp [hq]
      rwa [hkeys]
    · exact h

lemma foldl_keepLatest_nodup (positions : List Position) {latest : List Position}
    (h : (latest.map Position.icao24).Nodup) :
    ((positions.foldl keepLatest latest).map Position.icao24).Nodup := by
  induction positions generalizing latest with
  | nil => exact h
  | cons p positions ih => exact ih (keepLatest_nodup h p)

/-- A tick works on one row of each aircraft. -/
lemma nodup_scopedPositions (response : PositionsLiveResponse) :
    ((scopedPositions response).map Position.icao24).Nodup :=
  (List.filter_sublist.map _).nodup (foldl_keepLatest_nodup response.items (by simp))

@[simp] lemma FlightLifecycleDetector.afterRow_onGround_of_ne (d : FlightLifecycleDetector)
    {p : Position} {k : String} (h : k ≠ p.icao24) : (d.afterRow p).onGround k = d.onGround k := by
  simp [afterRow, h]

/-- Aircraft the detector has not seen before give no edge. -/
lemma FlightLifecycleDetector.observe_unseen {d : FlightLifecycleDetector} {ps : List Position}
    (hnodup : (ps.map Position.icao24).Nodup) (h : ∀ p ∈ ps, d.onGround p.icao24 = none) :
    (d.observe ps).1 = {} := by
  induction ps generalizing d with
  | nil => rfl
  | cons p ps ih =>
    obtain ⟨hnotin, hnodup⟩ := List.nodup_cons.mp hnodup
    have hp : d.onGround p.icao24 = none := h p List.mem_cons_self
    have htail : ((d.afterRow p).observe ps).1 = {} := by
      refine ih hnodup fun q hq => ?_
      have hne : q.icao24 ≠ p.icao24 := fun he => hnotin (he ▸ List.mem_map_of_mem hq)
      rw [afterRow_onGround_of_ne d hne, h q (List.mem_cons_of_mem _ hq)]
    simp [observe, htail, takeoffOf, landingOf, hp]

/-- A detector without a prior state completes its tick. -/
lemma incrementalSyncPositions_unseen (response : PositionsLiveResponse)
    (writes : PositionsWrites) :
    ∃ result, incrementalSyncPositions (newDetector none none) response writes = .ok (result, {}) ∧
      result.cursor = some response.serverTime := by
  have hedges : ((newDetector none none).observe (scopedPositions response)).1 = {} :=
    FlightLifecycleDetector.observe_unseen (nodup_scopedPositions response) fun _ _ => rfl
  simp only [incrementalSyncPositions, hedges]
  exact ⟨_, rfl, rfl⟩

/-- A tick that completes gives a cursor and both maps. -/
lemma incrementalSyncPositions_ok {d : FlightLifecycleDetector} {response : PositionsLiveResponse}
    {writes : PositionsWrites} {result : SyncResult} {edges : DetectedEdges}
    (h : incrementalSyncPositions d response writes = .ok (result, edges)) :
    result.cursor = some response.serverTime ∧ result.detectorState.isSome ∧
      result.openFlightState.isSome := by
  simp only [incrementalSyncPositions] at h
  split at h
  · simp at h
  · obtain ⟨rfl, -⟩ := Prod.mk.inj (Except.ok.inj h)
    simp

end FleetMonitor
