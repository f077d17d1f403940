import FleetMonitor.Cases.Pull
import FleetMonitor.Library.KeepFirst

/-!
# Rules and deduplication

The registered rules with their dedup windows and identity keys, and `deduplicate`, which suppresses
the anomalies of a tick whose key an earlier one or a recent open case has. The key of a case is
computed again from the columns it is stored in.
-/

namespace FleetMonitor

open Library

/-! ### Rules -/

/-- The registered rules, `ALL_RULE_CLASSES`. -/
inductive Rule where
  | lostSignal
  | diversion
  | excessiveHold
  | weatherImpact
  | goAround
  | delay
  deriving DecidableEq, Repr

/-- `ALL_RULES`: the order of the declarations is the order they run in. -/
def allRules : List Rule :=
  [.lostSignal, .diversion, .excessiveHold, .weatherImpact, .goAround, .delay]

/-- `Rule.case_type`. -/
def Rule.caseType : Rule → CaseType
  | .lostSignal    => .lostSignal
  | .diversion     => .diversion
  | .excessiveHold => .excessiveHold
  | .weatherImpact => .weatherImpact
  | .goAround      => .goAround
  | .delay         => .delay

/-- `Rule.dedup_window`. -/
def Rule.dedupWindow : Rule → Instant
  | .lostSignal    => 6 * 3600000000
  | .diversion     => 24 * 3600000000
  | .excessiveHold => 30 * 60000000
  | .weatherImpact => 3600000000
  | .goAround      => 30 * 60000000
  | .delay         => 4 * 3600000000

/-- `facts.get(key)`. -/
def factValue (facts : DetectionFacts) (key : String) : FactValue := (facts.lookup key).getD .null

/-- An optional text among the facts. -/
def optText (value : Option String) : FactValue := (value.map .text).getD .null

/-- An identity tuple. -/
abbrev DedupKey := CaseType × List FactValue

/-- `Rule.dedup_key`, with the overrides of three of the rules. -/
def Rule.dedupKey (rule : Rule) (icao24 : String) (siteIcao : Option String)
    (facts : DetectionFacts) : DedupKey :=
  (rule.caseType,
    match rule with
    | .diversion =>
      [.text icao24, factValue facts "expected_destination", factValue facts "alternate"]
    | .weatherImpact => [optText siteIcao, factValue facts "flight_category"]
    | .delay         => [.text icao24, factValue facts "destination"]
    | _              => [.text icao24, optText siteIcao])

/-! ### Deduplication -/

/-- The key of an anomaly. -/
def anomalyKey (rule : Rule) (anomaly : Anomaly) : DedupKey :=
  rule.dedupKey (anomaly.icao24.getD "") anomaly.siteIcao anomaly.detectionFacts

/-- The key of a case, of its columns. -/
def caseKey (rule : Rule) (row : CaseRow) : DedupKey :=
  rule.dedupKey row.flightId (some row.siteIcao) row.detectionFacts

/-- `_load_open_cases`. -/
def loadOpenCases (cases : CaseTable) : List CaseRow :=
  cases.rows.filter fun row => row.status ∉ [CaseStatus.resolved, .closed]

/-- `_matches_existing`. -/
def matchesExisting (key : DedupKey) (rule : Rule) (existingCases : List CaseRow) (now : Instant) :
    Bool :=
  existingCases.any fun row =>
    row.caseType = rule.caseType ∧ now - rule.dedupWindow ≤ row.createdAt ∧ caseKey rule row = key

/-- The loop of `deduplicate`, with the rules of what it keeps. -/
def survivors (existingCases : List CaseRow) (now : Instant) :
    List (Anomaly × Rule) → List DedupKey → List (Anomaly × Rule)
  | [], _ => []
  | (anomaly, rule) :: anomalies, seen =>
    let key := anomalyKey rule anomaly
    if key ∈ seen then survivors existingCases now anomalies seen
    else if matchesExisting key rule existingCases now then
      survivors existingCases now anomalies seen
    else (anomaly, rule) :: survivors existingCases now anomalies (key :: seen)

/-- `deduplicate`. -/
def deduplicate (anomalies : List (Anomaly × Rule)) (existingCases : List CaseRow) (now : Instant) :
    List Anomaly :=
  (survivors existingCases now anomalies []).map Prod.fst

variable {existingCases : List CaseRow} {now : Instant} {anomalies : List (Anomaly × Rule)}
  {seen : List DedupKey} {d : Anomaly × Rule} {rule rule' : Rule}

lemma Rule.caseType_injective (h : rule.caseType = rule'.caseType) : rule = rule' := by
  cases rule <;> cases rule' <;> first | rfl | cases h

lemma Rule.mem_allRules (rule : Rule) : rule ∈ allRules := by
  cases rule <;> decide

/-- The loop is a pass that keeps the first of each key. -/
lemma survivors_eq : survivors existingCases now anomalies seen =
    keepFirst (fun d => anomalyKey d.2 d.1)
      (fun d => matchesExisting (anomalyKey d.2 d.1) d.2 existingCases now) anomalies seen := by
  induction anomalies generalizing seen with
  | nil => rfl
  | cons d anomalies ih => simp only [survivors, keepFirst, ih]

/-- What is kept has been detected; no open case in the window has its key, and none of the keys
seen before is its. -/
lemma mem_survivors (h : d ∈ survivors existingCases now anomalies seen) :
    d ∈ anomalies ∧ matchesExisting (anomalyKey d.2 d.1) d.2 existingCases now = false ∧
      anomalyKey d.2 d.1 ∉ seen := by
  rw [survivors_eq] at h
  obtain ⟨hseen, hnone⟩ := of_mem_keepFirst h
  exact ⟨keepFirst_sublist.subset h, hnone, hseen⟩

/-- The keys of what is kept are distinct. -/
lemma survivors_pairwise : (survivors existingCases now anomalies seen).Pairwise
    fun d e => anomalyKey d.2 d.1 ≠ anomalyKey e.2 e.1 := by
  rw [survivors_eq]
  exact keepFirst_pairwise

/-! ### Weather -/

/-- `FlightCategory`. -/
inductive FlightCategory where
  | vfr
  | mvfr
  | ifr
  | lifr
  deriving DecidableEq, Repr

def FlightCategory.text : FlightCategory → String
  | .vfr  => "VFR"
  | .mvfr => "MVFR"
  | .ifr  => "IFR"
  | .lifr => "LIFR"

/-- `AirportConditions`. -/
structure AirportConditions where
  siteIcao : String
  flightCategory : Option FlightCategory
  windKt : Option ℤ := none
  visibilitySm : Option ℚ := none
  ceilingFt : Option ℤ := none
  deriving DecidableEq, Repr

/-- `IMPACT_CATEGORIES`. -/
def impactCategories : List FlightCategory := [.ifr, .lifr]

/-- An optional number among the facts. -/
def optNumber (value : Option ℚ) : FactValue := (value.map .number).getD .null

/-- The anomaly `WeatherImpactRule` reports of a site. -/
def weatherAnomaly (cond : AirportConditions) (category : FlightCategory) : Anomaly where
  rule := .weatherImpact
  icao24 := some ""
  siteIcao := some cond.siteIcao
  customerRegion := .all
  severityHint := some (if category = .lifr then .high else .medium)
  detectionFacts :=
    [("flight_category", .text category.text),
     ("ceiling_ft", optNumber (cond.ceilingFt.map fun n => (n : ℚ))),
     ("visibility_sm", optNumber cond.visibilitySm),
     ("wind_kt", optNumber (cond.windKt.map fun n => (n : ℚ)))]

/-- `WeatherImpactRule.detect`. -/
def weatherImpactDetect (weather : List AirportConditions) : List Anomaly :=
  weather.filterMap fun cond =>
    match cond.flightCategory with
    | some category =>
      if category ∈ impactCategories then some (weatherAnomaly cond category) else none
    | none => none

end FleetMonitor
