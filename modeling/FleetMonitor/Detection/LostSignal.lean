import FleetMonitor.Detection.EnrichedPositions
import FleetMonitor.Detection.Rules

/-!
# Lost signals

`LostSignalRule`: an aircraft in level cruise that the feed has not shown for 14 to 30 minutes. The
graded severity and the facts of the anomaly follow from its last row in scope and the gap.
-/

namespace FleetMonitor

open Library

/-! ### Severity -/

/-- `SEVERITY_TIERS`. -/
def severityTiers : List Severity := [.low, .medium, .high]

/-- `ALT_HIGH_CEILING_FT`. -/
def altHighCeilingFt : ℤ := 30000

/-- `ALT_MED_CEILING_FT`. -/
def altMedCeilingFt : ℤ := 35000

/-- `LONG_GAP_THRESHOLD`. -/
def longGapThreshold : Instant := minutes 20

/-- `_shift_tier`; the severity is one of the tiers. -/
def shiftTier (severity : Severity) (delta : ℤ) : Severity :=
  let newIdx : ℤ := max 0 (min (severityTiers.length - 1) (severityTiers.idxOf severity + delta))
  severityTiers.getD newIdx.toNat .low

/-- `_classify_severity`, with the cells of `_SPARSE_CELLS`. -/
def classifySeverity (sparseCells : List (ℤ × ℤ)) (altFt : ℤ) (gap : Instant)
    (lat lon : Option ℚ) : Severity :=
  let base :=
    if altFt < altHighCeilingFt then .high
    else if altFt < altMedCeilingFt then .medium
    else .low
  let demoted :=
    match lat, lon with
    | some lat, some lon => if (⌊lat⌋, ⌊lon⌋) ∈ sparseCells then shiftTier base (-1) else base
    | _, _               => base
  if longGapThreshold ≤ gap then shiftTier demoted 1 else demoted

/-! ### The rule -/

/-- `CRUISE_FLOOR_FT`. -/
def cruiseFloorFt : ℤ := 25000

/-- `LOST_MIN_GAP`. -/
def lostMinGap : Instant := minutes 14

/-- `LOST_MAX_GAP`. -/
def lostMaxGap : Instant := minutes 30

/-- `LEVEL_VRATE_FPM`. -/
def levelVrateFpm : ℤ := 500

/-- The newest snapshot of the aircraft in the whole feed. -/
def feedLast (grp : List EnrichedPosition) (last : EnrichedPosition) : Instant :=
  (grp.head?.bind EnrichedPosition.feedLastTs).getD last.tsPolled

variable (libs : Libraries) (sparseCells : List (ℤ × ℤ))

/-- The loop body of `LostSignalRule.detect`. -/
def lostSignalAnomaly (now : Instant) (icao24 : String) (grp : List EnrichedPosition) :
    Option Anomaly :=
  (latestRow grp).bind fun last =>
    if last.onGround then none
    else
      last.altitudeFt.bind fun alt =>
        if alt < cruiseFloorFt then none
        else
          let gap := now - feedLast grp last
          if ¬(lostMinGap ≤ gap ∧ gap ≤ lostMaxGap) then none
          else if last.verticalRateFpm.any fun vrate => levelVrateFpm < |vrate| then none
          else
            let severity := classifySeverity sparseCells alt gap (some last.lat) (some last.lon)
            if severity = .low then none
            else some
              { rule := .lostSignal
                icao24 := some icao24
                siteIcao := optStr last.nearestSiteIcao
                customerRegion := regionOf last
                severityHint := some severity
                detectionFacts :=
                  [("callsign", optText (optStr last.callsign)),
                   ("last_lat", .number last.lat),
                   ("last_lon", .number last.lon),
                   ("last_altitude_ft", .number alt),
                   ("last_seen", .text (libs.isoformat last.tsPolled)),
                   ("gap_minutes", .number (roundedMinutes gap))] }

/-- `LostSignalRule.detect`. -/
def lostSignalDetect (positions : List EnrichedPosition) : List Anomaly :=
  match (positions.map fun pos => pos.tsPolled).max? with
  | none     => []
  | some now =>
    (groupKeys positions).filterMap fun icao24 =>
      lostSignalAnomaly libs sparseCells now icao24 (group positions icao24)

/-! ### The facts of an anomaly -/

/-- What an anomaly of the rule says about its aircraft. -/
structure LostInCruise (a : Anomaly) (alt : ℤ) (gap : Instant) : Prop where
  cruise : cruiseFloorFt ≤ alt
  silent : lostMinGap ≤ gap ∧ gap ≤ lostMaxGap
  altitudeFact : factValue a.detectionFacts "last_altitude_ft" = .number alt
  gapFact : factValue a.detectionFacts "gap_minutes" = .number (roundedMinutes gap)
  severity : a.severityHint = some .medium ∨ a.severityHint = some .high

variable {libs sparseCells} {positions : List EnrichedPosition} {a : Anomaly}

lemma shiftTier_mem (severity : Severity) (delta : ℤ) :
    shiftTier severity delta ∈ severityTiers := by
  have hidx : ∀ i : ℤ, (max 0 (min ((severityTiers.length : ℤ) - 1) i)).toNat < 3 := by
    intro i
    have hlength : (severityTiers.length : ℤ) = 3 := rfl
    omega
  rw [shiftTier, ← List.getElem_eq_getD (h := hidx _)]
  exact List.getElem_mem _

lemma classifySeverity_mem (sparseCells : List (ℤ × ℤ)) (altFt : ℤ) (gap : Instant)
    (lat lon : Option ℚ) : classifySeverity sparseCells altFt gap lat lon ∈ severityTiers := by
  have hbase : (if altFt < altHighCeilingFt then Severity.high
      else if altFt < altMedCeilingFt then .medium else .low) ∈ severityTiers := by
    split_ifs <;> decide
  have hdemoted : ∀ base ∈ severityTiers,
      (match lat, lon with
        | some lat, some lon => if (⌊lat⌋, ⌊lon⌋) ∈ sparseCells then shiftTier base (-1) else base
        | _, _               => base) ∈ severityTiers := by
    intro base hbase
    split
    · split_ifs
      · exact shiftTier_mem _ _
      · exact hbase
    · exact hbase
  have hpromoted : ∀ demoted ∈ severityTiers,
      (if longGapThreshold ≤ gap then shiftTier demoted 1 else demoted) ∈ severityTiers := by
    intro demoted hdemoted
    split_ifs
    · exact shiftTier_mem _ _
    · exact hdemoted
  exact hpromoted _ (hdemoted _ hbase)

/-- An anomaly of the rule is of an aircraft in cruise with a gap in the window. -/
theorem lostInCruise_of_mem (h : a ∈ lostSignalDetect libs sparseCells positions) :
    a.rule = .lostSignal ∧ ∃ alt gap, LostInCruise a alt gap := by
  simp only [lostSignalDetect] at h
  split at h
  next => simp at h
  next now _ =>
    obtain ⟨icao24, -, hsome⟩ := List.mem_filterMap.mp h
    obtain ⟨last, -, hlast⟩ := Option.bind_eq_some_iff.mp hsome
    obtain ⟨-, hlast⟩ := Option.ite_none_left_eq_some.mp hlast
    obtain ⟨alt, -, halt⟩ := Option.bind_eq_some_iff.mp hlast
    obtain ⟨hfloor, halt⟩ := Option.ite_none_left_eq_some.mp halt
    obtain ⟨hgap, halt⟩ := Option.ite_none_left_eq_some.mp halt
    obtain ⟨-, halt⟩ := Option.ite_none_left_eq_some.mp halt
    obtain ⟨hlow, halt⟩ := Option.ite_none_left_eq_some.mp halt
    obtain rfl := Option.some.inj halt
    have htier := classifySeverity_mem sparseCells alt
      (now - feedLast (group positions icao24) last) (some last.lat) (some last.lon)
    refine ⟨rfl, alt, now - feedLast (group positions icao24) last, not_lt.mp hfloor,
      not_not.mp hgap, rfl, rfl, ?_⟩
    simp only [severityTiers, List.mem_cons, List.not_mem_nil, or_false] at htier
    rcases htier with hlow' | hmedium | hhigh
    · exact absurd hlow' hlow
    · exact .inl (congrArg some hmedium)
    · exact .inr (congrArg some hhigh)

end FleetMonitor
