import FleetMonitor.Detection.Deduplication
import FleetMonitor.Detection.ExcessiveHold
import FleetMonitor.Detection.GoAround
import FleetMonitor.Detection.LostSignal
import FleetMonitor.Detection.PlannedFlights

/-!
# The identity of a case

An anomaly is suppressed when an open case has its identity key, which is computed again from the
row of the case. The row stores a missing site as an empty text and a missing aircraft as a
sentinel, so a rule that keys on either does not recognize its own case.
-/

namespace FleetMonitor

open Library

/-! ### The rules of a tick -/

/-- What the rules read. -/
structure TickInputs where
  positions : List EnrichedPosition
  weather : List AirportConditions
  baseline : Baseline

/-- `Rule.detect`; no rule reads the existing cases. -/
def Rule.detect (libs : Libraries) (sparseCells : List (ℤ × ℤ)) (inputs : TickInputs) :
    Rule → List Anomaly
  | .lostSignal    => lostSignalDetect libs sparseCells inputs.positions
  | .diversion     => diversionDetect inputs.positions
  | .excessiveHold => excessiveHoldDetect libs inputs.positions
  | .weatherImpact => weatherImpactDetect inputs.weather
  | .goAround      => goAroundDetect libs inputs.positions
  | .delay         => delayDetect inputs.baseline inputs.positions

variable {libs : Libraries} {sparseCells : List (ℤ × ℤ)} {inputs : TickInputs} {rule : Rule}
  {a : Anomaly}

/-- A rule reports under its own case type. -/
lemma rule_of_detect (h : a ∈ rule.detect libs sparseCells inputs) : a.rule = rule.caseType := by
  cases rule with
  | lostSignal => exact (lostInCruise_of_mem h).1
  | diversion => exact (diversion_elsewhere h).1
  | excessiveHold =>
    obtain ⟨icao24, -, h⟩ := List.mem_filterMap.mp h
    obtain ⟨-, h⟩ := Option.ite_none_left_eq_some.mp h
    obtain ⟨-, h⟩ := Option.ite_none_left_eq_some.mp h
    obtain ⟨-, h⟩ := Option.ite_none_left_eq_some.mp h
    obtain ⟨last, -, h⟩ := Option.bind_eq_some_iff.mp h
    obtain ⟨-, h⟩ := Option.ite_none_left_eq_some.mp h
    obtain rfl := Option.some.inj h
    rfl
  | weatherImpact =>
    obtain ⟨cond, -, h⟩ := List.mem_filterMap.mp h
    split at h
    next category _ =>
      obtain ⟨-, h⟩ := Option.ite_none_right_eq_some.mp h
      obtain rfl := Option.some.inj h
      rfl
    next => cases h
  | goAround =>
    obtain ⟨icao24, -, h⟩ := List.mem_filterMap.mp h
    obtain ⟨low, -, h⟩ := Option.bind_eq_some_iff.mp h
    obtain ⟨last, -, h⟩ := Option.bind_eq_some_iff.mp h
    obtain ⟨-, h⟩ := Option.ite_none_left_eq_some.mp h
    obtain rfl := Option.some.inj h
    rfl
  | delay => exact (delay_past_threshold h).1

/-! ### Storing and reading back -/

/-- What `_load_open_cases` reads of a row: a `jsonb` object keeps the values of its keys, not their
order. -/
structure LoadsAs (row : CaseRow) (existing : ExistingCase) : Prop where
  caseType : existing.caseType = some row.caseType
  flightId : existing.flightId = some row.flightId
  siteIcao : existing.siteIcao = some row.siteIcao
  createdAt : existing.createdAt = some row.createdAt
  facts : ∃ facts, existing.detectionFacts = some facts ∧
    ∀ key, facts.lookup key = row.detectionFacts.lookup key

lemma loadsAs_toExistingCase (row : CaseRow) : LoadsAs row row.toExistingCase :=
  ⟨rfl, rfl, rfl, rfl, row.detectionFacts, rfl, fun _ => rfl⟩

/-- A key depends on the values of the facts. -/
lemma dedupKey_congr {facts facts' : DetectionFacts}
    (h : ∀ key, facts.lookup key = facts'.lookup key)
    (icao24 : String) (siteIcao : Option String) :
    rule.dedupKey icao24 siteIcao facts = rule.dedupKey icao24 siteIcao facts' := by
  have hvalue : ∀ key, factValue facts key = factValue facts' key := by
    intro key
    rw [factValue, factValue, h key]
  cases rule <;> simp [Rule.dedupKey, hvalue]

lemma LoadsAs.existingKey_eq {row : CaseRow} {existing : ExistingCase}
    (h : LoadsAs row existing) : existingKey rule existing = caseKey rule row := by
  obtain ⟨facts, hfacts, hlookup⟩ := h.facts
  rw [existingKey, caseKey, h.flightId, h.siteIcao, hfacts]
  exact dedupKey_congr hlookup _ _

/-- The anomaly is about an aircraft. -/
def HasAircraft (a : Anomaly) : Prop := a.icao24.getD "" ≠ ""

/-- What a rule keys on is stored as it is. -/
def StorableIdentity (a : Anomaly) : Rule → Prop
  | .weatherImpact      => a.siteIcao ≠ none
  | .diversion | .delay => HasAircraft a
  | _                   => HasAircraft a ∧ a.siteIcao ≠ none

instance (a : Anomaly) : Decidable (HasAircraft a) := inferInstanceAs (Decidable (_ ≠ _))

section

variable {createdAt : Instant} {caseId : String} {runbookRefs : List String}

/-- The aircraft is stored as it is when there is one. -/
lemma flightId_insertedRow_iff :
    (insertedRow createdAt a caseId runbookRefs).flightId = a.icao24.getD "" ↔ HasAircraft a := by
  rw [insertedRow, HasAircraft]
  cases a.icao24 with
  | none => simp [orText]
  | some v =>
    by_cases hv : v = ""
    · simp [orText, hv]
    · simp [orText, hv]

/-- The site is stored as it is when there is one. -/
lemma siteIcao_insertedRow_iff :
    optText (some (insertedRow createdAt a caseId runbookRefs).siteIcao) = optText a.siteIcao ↔
      a.siteIcao ≠ none := by
  rw [insertedRow]
  cases a.siteIcao with
  | none => simp [orText, optText]
  | some v =>
    by_cases hv : v = ""
    · simp [orText, optText, hv]
    · simp [orText, optText, hv]

/-- The key of the row is that of the anomaly when the rule keys on what is stored as it is. -/
lemma caseKey_insertedRow_iff :
    caseKey rule (insertedRow createdAt a caseId runbookRefs) = anomalyKey rule a ↔
      StorableIdentity a rule := by
  have hflight : (insertedRow createdAt a caseId runbookRefs).flightId = a.icao24.getD "" ↔
      HasAircraft a := flightId_insertedRow_iff
  have hsite : optText (some (insertedRow createdAt a caseId runbookRefs).siteIcao) =
      optText a.siteIcao ↔ a.siteIcao ≠ none := siteIcao_insertedRow_iff
  have hfacts : (insertedRow createdAt a caseId runbookRefs).detectionFacts = a.detectionFacts := rfl
  rw [caseKey, anomalyKey, hfacts]
  cases rule with
  | weatherImpact => simp [Rule.dedupKey, StorableIdentity, hsite]
  | diversion => simp [Rule.dedupKey, StorableIdentity, hflight]
  | delay => simp [Rule.dedupKey, StorableIdentity, hflight]
  | lostSignal => simp [Rule.dedupKey, StorableIdentity, hflight, hsite]
  | excessiveHold => simp [Rule.dedupKey, StorableIdentity, hflight, hsite]
  | goAround => simp [Rule.dedupKey, StorableIdentity, hflight, hsite]

end

/-! ### Suppression -/

/-- The identity of an anomaly survives its storage: its key is that of the row read back, and while
the row is open and in the window the anomaly is suppressed. -/
def IdentityStable (rule : Rule) (a : Anomaly) : Prop :=
  ∀ createdAt caseId runbookRefs existing,
    LoadsAs (insertedRow createdAt a caseId runbookRefs) existing →
      existingKey rule existing = anomalyKey rule a ∧
        ∀ frame now anomalies, existing ∈ frame → now - rule.dedupWindow ≤ createdAt →
          (a, rule) ∉ keptPairs frame now anomalies

/-- The identity of what a rule reports is stable exactly when everything the rule keys on is stored
as it is: the aircraft, unless it reports the weather, and the site, unless it is a diversion or a
delay. -/
theorem identity_stable_iff (libs : Libraries) (sparseCells : List (ℤ × ℤ)) (inputs : TickInputs)
    (rule : Rule) (a : Anomaly) (hdetect : a ∈ rule.detect libs sparseCells inputs) :
    IdentityStable rule a ↔ StorableIdentity a rule := by
  constructor
  · intro h
    have hkey := (h 0 "" [] _ (loadsAs_toExistingCase _)).1
    exact caseKey_insertedRow_iff.mp hkey
  · intro hstorable createdAt caseId runbookRefs existing hread
    have hkey : existingKey rule existing = anomalyKey rule a :=
      hread.existingKey_eq.trans (caseKey_insertedRow_iff.mpr hstorable)
    refine ⟨hkey, fun frame now anomalies hmem hwindow hkept => ?_⟩
    have hrecent : isRecent rule now existing = true := by
      have htype : existing.caseType = some rule.caseType :=
        hread.caseType.trans (congrArg some (rule_of_detect hdetect))
      have hcreated : existing.createdAt = some createdAt := hread.createdAt
      simpa [-tsub_le_iff_right, isRecent, htype, hcreated] using hwindow
    have hmatches : matchesFrame frame now (a, rule) = true :=
      List.any_eq_true.mpr ⟨existing, List.mem_filter.mpr ⟨hmem, hrecent⟩, decide_eq_true hkey⟩
    rw [keptPairs] at hkept
    rw [(of_mem_keepFirst hkept).2] at hmatches
    cases hmatches

/-! ### A signal lost far from any airport -/

/-- An aircraft falls silent in cruise while the feed goes on. -/
def silentPositions : List PositionSnapshot :=
  [sampleSnapshot "a00001" "DAL123" 28000 90 0,
   sampleSnapshot "b00001" "DAL456" 36000 90 (minutes 20)]

/-- No airport is watched. -/
def siteless : Reference where
  flightPlans := Table.empty
  watchedCoords := []

/-- The inputs of a tick. -/
def silentInputs (ref : Reference) : TickInputs where
  positions := detectorFrame planarLibs ref silentPositions
  weather := []
  baseline := fun _ _ => none

/-- What the rule reports. -/
def silentAnomaly (siteIcao : Option String) : Anomaly where
  rule := .lostSignal
  icao24 := some "a00001"
  siteIcao := siteIcao
  customerRegion := .east
  severityHint := some .high
  detectionFacts :=
    [("callsign", .text "DAL123"), ("last_lat", .number kjfk.lat), ("last_lon", .number kjfk.lon),
     ("last_altitude_ft", .number 28000), ("last_seen", .text "1970-01-01T00:00:00+00:00"),
     ("gap_minutes", .number 20)]

theorem identity_stable_nearAirport : IdentityStable .lostSignal (silentAnomaly (some "KJFK")) :=
  (identity_stable_iff planarLibs [] (silentInputs kjfkReference) .lostSignal
    (silentAnomaly (some "KJFK")) (by decide +kernel)).mpr ⟨by decide, by decide⟩

/-- Far from any airport the case of a lost signal is not recognized. -/
theorem siteless_signal_unrecognized :
    ¬∀ (libs : Libraries) (sparseCells : List (ℤ × ℤ)) (inputs : TickInputs) (rule : Rule)
        (a : Anomaly), a ∈ rule.detect libs sparseCells inputs → IdentityStable rule a := by
  intro h
  have hstable := h planarLibs [] (silentInputs siteless) .lostSignal (silentAnomaly none)
    (by decide +kernel)
  have hkey := (hstable 0 "CASE-1" [] _ (loadsAs_toExistingCase _)).1
  have hsite := (caseKey_insertedRow_iff.mp hkey).2
  exact hsite rfl

end FleetMonitor
