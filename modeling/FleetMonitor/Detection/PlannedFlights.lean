import FleetMonitor.Detection.EnrichedPositions
import FleetMonitor.Detection.Rules

/-!
# Flights off their plan

The two rules that read the flight plan of an aircraft: `DiversionRule`, which sees it on the ground
at another airport than its destination, and `DelayRule`, which sees it in the air well past the
duration a baseline expects.
-/

namespace FleetMonitor

open Library

/-! ### Diversions -/

/-- `DIVERSION_RADIUS_NM`. -/
def diversionRadiusNm : ℚ := 5

/-- The loop body of `DiversionRule.detect`. -/
def diversionAnomaly (icao24 : String) (grp : List EnrichedPosition) : Option Anomaly :=
  (latestRow grp).bind fun last =>
    (optStr last.destinationIcao).bind fun destination =>
      if ¬last.onGround then none
      else
        (optStr last.nearestSiteIcao).bind fun landingSite =>
          last.nearestSiteDistanceNm.bind fun distance =>
            if diversionRadiusNm < distance then none
            else if landingSite = destination then none
            else some
              { rule := .diversion
                icao24 := some icao24
                siteIcao := some landingSite
                customerRegion := regionOf last
                severityHint := some .high
                detectionFacts :=
                  [("callsign", optText (optStr last.callsign)),
                   ("origin", optText (optStr last.originIcao)),
                   ("expected_destination", .text destination),
                   ("alternate", .text landingSite)] }

/-- `DiversionRule.detect`. -/
def diversionDetect (positions : List EnrichedPosition) : List Anomaly :=
  (groupKeys positions).filterMap fun icao24 => diversionAnomaly icao24 (group positions icao24)

/-! ### Delays -/

/-- `BaselineProvider.expected_duration` of an origin and a destination. -/
abbrev Baseline := String → String → Option Instant

/-- `DELAY_FACTOR`, the double. -/
def delayFactor : ℚ := double (13 / 10)

/-- A duration times the factor: `timedelta` rounds to whole microseconds. -/
def delayThreshold (expected : Instant) : Instant :=
  Library.roundHalfEven ((expected : ℚ) * delayFactor)

/-- The loop body of `DelayRule.detect`. -/
def delayAnomaly (baseline : Baseline) (now : Instant) (icao24 : String)
    (grp : List EnrichedPosition) : Option Anomaly :=
  (latestRow grp).bind fun last =>
    if last.onGround then none
    else
      (optStr last.originIcao).bind fun origin =>
        (optStr last.destinationIcao).bind fun destination =>
          last.departureTime.bind fun departure =>
            (baseline origin destination).bind fun expected =>
              let elapsed := now - departure
              if elapsed ≤ delayThreshold expected then none
              else some
                { rule := .delay
                  icao24 := some icao24
                  siteIcao := some destination
                  customerRegion := regionOf last
                  severityHint := some .medium
                  detectionFacts :=
                    [("callsign", optText (optStr last.callsign)),
                     ("origin", .text origin),
                     ("destination", .text destination),
                     ("elapsed_minutes", .number (roundedMinutes elapsed)),
                     ("expected_minutes", .number (roundedMinutes expected))] }

/-- `DelayRule.detect`. -/
def delayDetect (baseline : Baseline) (positions : List EnrichedPosition) : List Anomaly :=
  match (positions.map fun pos => pos.tsPolled).max? with
  | none     => []
  | some now =>
    (groupKeys positions).filterMap fun icao24 =>
      delayAnomaly baseline now icao24 (group positions icao24)

/-! ### What they report -/

variable {baseline : Baseline} {positions : List EnrichedPosition} {a : Anomaly}

/-- A diversion is to another airport than the one planned. -/
theorem diversion_elsewhere (h : a ∈ diversionDetect positions) :
    a.rule = .diversion ∧ ∃ destination landingSite, destination ≠ landingSite ∧
      a.siteIcao = some landingSite ∧
      factValue a.detectionFacts "expected_destination" = .text destination ∧
      factValue a.detectionFacts "alternate" = .text landingSite := by
  obtain ⟨icao24, -, h⟩ := List.mem_filterMap.mp h
  obtain ⟨last, -, h⟩ := Option.bind_eq_some_iff.mp h
  obtain ⟨destination, -, h⟩ := Option.bind_eq_some_iff.mp h
  obtain ⟨-, h⟩ := Option.ite_none_left_eq_some.mp h
  obtain ⟨landingSite, -, h⟩ := Option.bind_eq_some_iff.mp h
  obtain ⟨distance, -, h⟩ := Option.bind_eq_some_iff.mp h
  obtain ⟨-, h⟩ := Option.ite_none_left_eq_some.mp h
  obtain ⟨hne, h⟩ := Option.ite_none_left_eq_some.mp h
  obtain rfl := Option.some.inj h
  exact ⟨rfl, destination, landingSite, fun heq => hne heq.symm, rfl, rfl, rfl⟩

/-- A delayed flight is past the threshold of its baseline. -/
theorem delay_past_threshold (h : a ∈ delayDetect baseline positions) :
    a.rule = .delay ∧ ∃ origin destination expected elapsed,
      baseline origin destination = some expected ∧ delayThreshold expected < elapsed ∧
      a.siteIcao = some destination ∧
      factValue a.detectionFacts "destination" = .text destination ∧
      factValue a.detectionFacts "elapsed_minutes" = .number (roundedMinutes elapsed) := by
  rw [delayDetect] at h
  split at h
  next => cases h
  next now _ =>
    obtain ⟨icao24, -, h⟩ := List.mem_filterMap.mp h
    obtain ⟨last, -, h⟩ := Option.bind_eq_some_iff.mp h
    obtain ⟨-, h⟩ := Option.ite_none_left_eq_some.mp h
    obtain ⟨origin, -, h⟩ := Option.bind_eq_some_iff.mp h
    obtain ⟨destination, -, h⟩ := Option.bind_eq_some_iff.mp h
    obtain ⟨departure, -, h⟩ := Option.bind_eq_some_iff.mp h
    obtain ⟨expected, hexpected, h⟩ := Option.bind_eq_some_iff.mp h
    obtain ⟨hpast, h⟩ := Option.ite_none_left_eq_some.mp h
    obtain rfl := Option.some.inj h
    exact ⟨rfl, origin, destination, expected, now - departure, hexpected, not_le.mp hpast, rfl,
      rfl, rfl⟩

end FleetMonitor
