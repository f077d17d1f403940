import FleetMonitor.Foundry.FlightModels
import FleetMonitor.Library.Validation
import FleetMonitor.Positions.LiveQuery

/-!
# Reading one flight

`QueryService.get_flight`, and the scope checks the reads of a single flight share. A row of another
region is refused; a row without a region, or of all regions, is shown to every caller. The response
models check what they are built from, so a row with impossible coordinates fails the read.
-/

namespace FleetMonitor

open Library

/-! ### Scope -/

/-- `Scope.includes_region`. -/
def Scope.includesRegion (scope : Scope) (region : Region) : Bool :=
  scope.region = .all ∨ region = scope.region

/-- `customer_region in ("west", "east")`: the regions a flight is refused for. -/
def gatingRegion : Option CustomerRegion → Option Region
  | some .west => some .west
  | some .east => some .east
  | _          => none

/-- `_check_flight_scope`. -/
def checkFlightScope (scope : Scope) (customerRegion : Option CustomerRegion) (icao24 : String) :
    Except ScopeViolation Unit :=
  match gatingRegion customerRegion with
  | none        => .ok ()
  | some region =>
    if scope.includesRegion region then .ok ()
    else .error
      { message := "User scope '" ++ scope.region.text ++ "' cannot access flight '" ++ icao24 ++
          "' in region '" ++ region.text ++ "'"
        details := [("flight_region", region.text)] }

/-- `_flight_in_scope`. -/
def flightInScope (scope : Scope) (customerRegion : Option CustomerRegion) : Bool :=
  match gatingRegion customerRegion with
  | none        => true
  | some region => scope.includesRegion region

/-- The two checks agree. -/
lemma checkFlightScope_isOk_iff {scope : Scope} {customerRegion : Option CustomerRegion}
    {icao24 : String} :
    checkFlightScope scope customerRegion icao24 = .ok () ↔
      flightInScope scope customerRegion = true := by
  rw [checkFlightScope, flightInScope]
  cases gatingRegion customerRegion with
  | none => simp
  | some region => simp

/-! ### Responses -/

structure UpstreamUnavailable where
  message : String
  details : List (String × String) := []
  deriving DecidableEq, Repr

/-- What a read raises. -/
inductive QueryError where
  | scopeViolation (e : ScopeViolation)
  | notFound (message : String)
  | validation (e : ValidationError)
  | upstreamUnavailable (e : UpstreamUnavailable)
  deriving DecidableEq, Repr

/-- The errors of a `Position`. -/
def positionErrors (row : CurrentPosition) : List FieldError :=
  boundErrors "lat" (-90) 90 row.lat ++ boundErrors "lon" (-180) 180 row.lon ++
    literalErrors "customer_region" "'west', 'east', 'all' or None"
      (row.customerRegion ∈ [some .west, some .east, some .all, none])

/-- The `Position` of a row, or its errors. -/
def CurrentPosition.buildPosition (now : Instant) (row : CurrentPosition) :
    Except ValidationError LivePosition :=
  buildModel "Position" (positionErrors row) (row.toPosition now)

/-- `QueryService.list_live_positions`, with the checks of its response model. -/
def readLivePositions (scope : Scope) (bbox : Option BoundingBox) (region : Option Region)
    (now : Instant) (positions : CurrentPositions) (order : List CurrentPosition) :
    Except QueryError (Option LiveResponse) :=
  match effectiveRegion scope region with
  | .error e      => .error (.scopeViolation e)
  | .ok effective =>
    match liveRows now effective bbox positions order with
    | none      => .ok none
    | some rows =>
      match (rows.take livePositionCeiling).mapM (·.buildPosition now) with
      | .error e => .error (.validation e)
      | .ok _    => .ok (some (liveResponse now rows))

/-- A row of `ref.aircraft_registry`. -/
structure RegistryEntry where
  icao24 : String
  registration : Option String
  operatorIcao : Option String
  deriving DecidableEq, Repr

abbrev AircraftRegistry := Table RegistryEntry.icao24

/-- `FlightDetail`, with all of its position. -/
structure FlightView extends FlightDetail where
  position : LivePosition
  deriving DecidableEq, Repr

/-- How recent a row `get_flight` reads. -/
def flightWindow : Instant := 30 * 60000000

/-- `QueryService.get_flight`; `lower` is `str.lower`. -/
def getFlight (lower : String → String) (scope : Scope) (icao24 : String) (now : Instant)
    (positions : CurrentPositions) (registry : AircraftRegistry) : Except QueryError FlightView :=
  let icao24Lower := lower icao24
  match (positions.lookup icao24Lower).filter fun row => now - flightWindow ≤ row.lastSeenAt with
  | none     => .error (.notFound ("Flight '" ++ icao24 ++ "' not seen in the last 30 minutes"))
  | some row =>
    match checkFlightScope scope row.customerRegion icao24 with
    | .error e => .error (.scopeViolation e)
    | .ok ()   =>
      match row.buildPosition now with
      | .error e     => .error (.validation e)
      | .ok position =>
        let entry := registry.lookup row.icao24
        .ok
          { icao24 := row.icao24
            callsign := row.callsign
            registration := entry.bind RegistryEntry.registration
            aircraftType := row.aircraftType
            operatorIcao := entry.bind RegistryEntry.operatorIcao
            originIcao := none
            destinationIcao := none
            customerRegion := row.customerRegion
            lat := row.lat
            lon := row.lon
            etaMinutes := none
            statusTimeline := []
            openCaseIds := []
            position }

/-! ### Lemmas -/

variable {scope : Scope} {bbox : Option BoundingBox} {region : Option Region} {now : Instant}
  {positions : CurrentPositions} {order : List CurrentPosition} {row : CurrentPosition}

/-- A row whose model is built. -/
structure Readable (row : CurrentPosition) : Prop where
  lat : -90 ≤ row.lat ∧ row.lat ≤ 90
  lon : -180 ≤ row.lon ∧ row.lon ≤ 180
  region : row.customerRegion ∈ [some .west, some .east, some .all, none]

lemma positionErrors_eq_nil_iff : positionErrors row = [] ↔ Readable row := by
  simp only [positionErrors, List.append_eq_nil_iff, boundErrors_eq_nil_iff,
    literalErrors_eq_nil_iff, decide_eq_true_eq]
  constructor
  · rintro ⟨⟨hlat, hlon⟩, hregion⟩
    exact ⟨by simpa using hlat, by simpa using hlon, hregion⟩
  · intro h
    exact ⟨⟨by simpa using h.lat, by simpa using h.lon⟩, h.region⟩

section

variable {effective : Region} {rows : List CurrentPosition} {response : LiveResponse}
  (heffective : effectiveRegion scope region = .ok effective)
  (hrows : liveRows now effective bbox positions order = some rows)

include heffective hrows

/-- The checked read answers when every row it keeps can be read. -/
lemma readLivePositions_ok_iff :
    readLivePositions scope bbox region now positions order = .ok (some response) ↔
      (∀ row ∈ rows.take livePositionCeiling, Readable row) ∧ liveResponse now rows = response := by
  have hbuilt : (∀ row ∈ rows.take livePositionCeiling, Readable row) ↔
      ∃ items, (rows.take livePositionCeiling).mapM (·.buildPosition now) = .ok items := by
    rw [exists_mapM_ok_iff]
    refine forall₂_congr fun row _ => ?_
    rw [← positionErrors_eq_nil_iff]
    simp [CurrentPosition.buildPosition, buildModel_eq_ok_iff]
  rw [hbuilt, readLivePositions]
  simp only [heffective, hrows]
  cases (rows.take livePositionCeiling).mapM (·.buildPosition now) with
  | error e => simp
  | ok items => simp

end

end FleetMonitor
