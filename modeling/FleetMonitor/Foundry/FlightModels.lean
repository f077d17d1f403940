import FleetMonitor.Cases.Schema
import Mathlib.Data.Rat.Defs

/-!
# Flight records

What `/v1/flights` answers of an aircraft, and the Flight object it is turned into. A coordinate is
the rational number the double is.
-/

namespace FleetMonitor

inductive FlightStage where
  | departed
  | climb
  | cruise
  | descent
  | approach
  | landed
  deriving DecidableEq, Repr

inductive FlightStatus where
  | scheduled
  | departed
  | enroute
  | approaching
  | landed
  | unknown
  deriving DecidableEq, Repr

def FlightStage.text : FlightStage → String
  | .departed => "departed"
  | .climb    => "climb"
  | .cruise   => "cruise"
  | .descent  => "descent"
  | .approach => "approach"
  | .landed   => "landed"

def FlightStatus.text : FlightStatus → String
  | .scheduled   => "scheduled"
  | .departed    => "departed"
  | .enroute     => "enroute"
  | .approaching => "approaching"
  | .landed      => "landed"
  | .unknown     => "unknown"

/-- `FlightStatusEvent`. -/
structure FlightStatusEvent where
  stage : FlightStage
  occurredAt : Instant
  deriving DecidableEq, Repr

/-- `TrailPoint`. -/
structure TrailPoint where
  ts : Instant
  lat : ℚ
  lon : ℚ
  altitudeFt : Option ℤ
  speedKt : Option ℤ
  deriving DecidableEq, Repr

/-- `TrailResponse`, as far as the enrichment reads it. -/
structure TrailResponse where
  icao24 : String
  points : List TrailPoint
  deriving DecidableEq, Repr

/-- `FlightDetail`; of its position the enrichment reads the coordinates. -/
structure FlightDetail where
  icao24 : String
  callsign : Option String
  registration : Option String
  aircraftType : Option String
  operatorIcao : Option String
  originIcao : Option String
  destinationIcao : Option String
  customerRegion : Option CustomerRegion
  lat : ℚ
  lon : ℚ
  etaMinutes : Option ℤ
  statusTimeline : List FlightStatusEvent
  openCaseIds : List String
  deriving DecidableEq, Repr

/-- The `Flight` of the ontology. -/
structure Flight where
  flightId : String
  icao24 : String
  takeoffTs : Instant
  landedAt : Option Instant
  callsign : Option String
  registration : Option String
  aircraftType : Option String
  operatorIcao : Option String
  customerRegion : Option CustomerRegion
  originIcao : Option String
  destinationIcao : Option String
  etaMinutes : Option ℤ
  status : Option FlightStatus
  currentStage : Option FlightStage
  isLive : Option Bool := none
  lat : Option ℚ
  lon : Option ℚ
  openCaseCount : ℕ
  openCaseIds : List String
  statusTimeline : List FlightStatusEvent
  trail2h : List TrailPoint
  deriving DecidableEq, Repr

end FleetMonitor
