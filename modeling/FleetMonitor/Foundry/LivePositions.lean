import FleetMonitor.Foundry.FlightLifecycle
import FleetMonitor.Foundry.Ontology

/-!
# Live positions and Aircraft

The rows of `/v1/positions/live` in full, the Aircraft object each of them is mapped to, and what is
sent of it. `FlightLifecycle` reads the same rows without the fields it does not need.
-/

namespace FleetMonitor

/-! ### Aircraft -/

inductive Staleness where
  | fresh
  | stale
  | lost
  deriving DecidableEq, Repr

def Staleness.text : Staleness → String
  | .fresh => "fresh"
  | .stale => "stale"
  | .lost  => "lost"

/-- `Position`, all of it. -/
structure LivePosition extends Position where
  callsign : Option String
  lat : ℚ
  lon : ℚ
  altitudeFt : Option ℤ
  speedKt : Option ℤ
  headingDeg : Option ℤ
  verticalRateFpm : Option ℤ
  staleness : Staleness
  deriving DecidableEq, Repr

/-- The `Aircraft` of the ontology. -/
structure Aircraft where
  icao24 : String
  callsign : Option String
  lat : ℚ
  lon : ℚ
  altitudeFt : Option ℤ
  speedKt : Option ℤ
  headingDeg : Option ℤ
  verticalRateFpm : Option ℤ
  onGround : Bool
  customerRegion : Option CustomerRegion
  lastSeenAt : Instant
  staleness : Staleness
  deriving DecidableEq, Repr

/-- `position_to_aircraft`. -/
def positionToAircraft (position : LivePosition) : Aircraft where
  icao24 := position.icao24
  callsign := position.callsign
  lat := position.lat
  lon := position.lon
  altitudeFt := position.altitudeFt
  speedKt := position.speedKt
  headingDeg := position.headingDeg
  verticalRateFpm := position.verticalRateFpm
  onGround := position.onGround
  customerRegion := position.customerRegion
  lastSeenAt := position.lastSeenAt
  staleness := position.staleness

/-- `aircraft_params`, with the parameter names `_camel` gives. -/
def aircraftParams (a : Aircraft) : UpsertRequest where
  locator := a.icao24
  params :=
    [("lat", .coordinate a.lat), ("lon", .coordinate a.lon), ("position", .geopoint a.lon a.lat),
     ("onGround", .flag a.onGround), ("lastSeenAt", .instant a.lastSeenAt),
     ("staleness", .text a.staleness.text)] ++
    putOptional "callsign" (a.callsign.map .text) ++
    putOptional "altitudeFt" (a.altitudeFt.map .integer) ++
    putOptional "speedKt" (a.speedKt.map .integer) ++
    putOptional "headingDeg" (a.headingDeg.map .integer) ++
    putOptional "verticalRateFpm" (a.verticalRateFpm.map .integer) ++
    putOptional "customerRegion" (a.customerRegion.map fun r => .text r.text)

/-! ### The rows of a tick -/

/-- One turn of the loop of `_dedupe_latest`, on whole rows. -/
def keepLatestRow (latest : List LivePosition) (p : LivePosition) : List LivePosition :=
  match latest.find? (·.icao24 = p.icao24) with
  | none => latest ++ [p]
  | some prev =>
    if prev.lastSeenAt < p.lastSeenAt then
      latest.map fun q => if q.icao24 = p.icao24 then p else q
    else latest

/-- The rows a positions tick writes to the tenant. -/
def aircraftRows (items : List LivePosition) : List LivePosition :=
  (items.foldl keepLatestRow []).filter fun p => inLiveScope p.toPosition

lemma keepLatestRow_toPosition (latest : List LivePosition) (p : LivePosition) :
    (keepLatestRow latest p).map LivePosition.toPosition =
      keepLatest (latest.map LivePosition.toPosition) p.toPosition := by
  have hfind : (latest.map LivePosition.toPosition).find? (·.icao24 = p.icao24) =
      (latest.find? (·.icao24 = p.icao24)).map LivePosition.toPosition := List.find?_map ..
  unfold keepLatestRow keepLatest
  rw [hfind]
  cases latest.find? (·.icao24 = p.icao24) with
  | none => simp
  | some prev =>
    simp only [Option.map_some]
    split_ifs
    · rw [List.map_map, List.map_map]
      refine List.map_congr_left fun q _ => ?_
      simp only [Function.comp_apply]
      split_ifs <;> rfl
    · rfl

lemma foldl_keepLatestRow_toPosition (items latest : List LivePosition) :
    (items.foldl keepLatestRow latest).map LivePosition.toPosition =
      (items.map LivePosition.toPosition).foldl keepLatest
        (latest.map LivePosition.toPosition) := by
  induction items generalizing latest with
  | nil => rfl
  | cons p items ih => rw [List.foldl_cons, ih, keepLatestRow_toPosition, List.map_cons,
    List.foldl_cons]

/-- What the lifecycle reads of the rows are the rows it works on. -/
lemma aircraftRows_toPosition (items : List LivePosition) (serverTime : Instant) :
    (aircraftRows items).map LivePosition.toPosition =
      scopedPositions ⟨items.map LivePosition.toPosition, serverTime⟩ := by
  rw [aircraftRows, scopedPositions, dedupeLatest, ← List.map_nil (f := LivePosition.toPosition),
    ← foldl_keepLatestRow_toPosition, List.filter_map]
  rfl

end FleetMonitor
