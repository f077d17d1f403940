import FleetMonitor.Detection.Rules
import FleetMonitor.Salesforce.Service
import Mathlib.Algebra.Order.Ring.Rat

/-!
# The critical escalation

`AFM_CaseTriageService.criticalEscalation`: the Task for the engineering queue that a `lost_signal`
Case gets when its detection facts show a long gap at altitude. The facts are the JSON text the push
has sent; reading that text back gives the object it was made from.
-/

namespace FleetMonitor

/-- What the service takes from the platform: `JSON.deserializeUntyped` of a text that is not known
to be the JSON of an object, `Decimal.valueOf` of a text, the text of a number and of an object, and
`Date.today`. -/
structure Apex where
  deserializeUntyped : String → Option DetectionFacts
  decimalValueOf : String → Option ℚ
  decimalText : ℚ → String
  jsonText : DetectionFacts → String
  today : ℤ

/-- The fields of a Case the escalation reads. -/
structure TriageCase where
  id : String
  subject : String
  afmCaseType : Option String
  afmDetectionFacts : Option SfValue
  deriving DecidableEq, Repr

/-- The Task fields it sets. -/
structure SfTask where
  whatId : String
  subject : String
  description : String
  priority : String
  activityDate : ℤ
  ownerId : Option String
  deriving DecidableEq, Repr

/-- `CRIT_GAP_MINUTES`. -/
def critGapMinutes : ℚ := 30

/-- `CRIT_ALTITUDE_FT`. -/
def critAltitudeFt : ℚ := 10000

/-- `String.abbreviate`. -/
def abbreviate (s : String) (maxWidth : ℕ) : String :=
  if s.length ≤ maxWidth then s else String.ofList (s.toList.take (maxWidth - 3)) ++ "..."

/-- `==` of two Strings, which ignores case. -/
def apexEq (s t : String) : Bool := s.toList.map Char.toLower = t.toList.map Char.toLower

variable (apex : Apex)

def SfValue.asText : SfValue → String
  | .text value => value
  | .json facts => apex.jsonText facts

/-- `String.isBlank`; the JSON of an object has its braces. -/
def isBlank : Option SfValue → Bool
  | none               => true
  | some (.text value) => value.toList.all Char.isWhitespace
  | some (.json _)     => false

/-- The map of the facts, unless the text is not the JSON of an object. -/
def deserializeFacts : Option SfValue → Option DetectionFacts
  | some (.json facts) => some facts
  | some (.text value) => apex.deserializeUntyped value
  | none               => none

/-- `asDecimal`. -/
def asDecimal : FactValue → Option ℚ
  | .number x => some x
  | .text s   => apex.decimalValueOf s
  | .null     => none

/-- The Task of an escalation. -/
def escalationTask (c : TriageCase) (engQueueId : Option String) (gap alt : ℚ) : SfTask where
  whatId := c.id
  subject := abbreviate ("CRITICAL ESCALATION: " ++ c.subject) 255
  description :=
    "Lost-signal critical escalation — gap " ++ apex.decimalText gap ++ " min at " ++
      apex.decimalText alt ++ " ft (no recovery).\n\nDetection facts:\n" ++
      (c.afmDetectionFacts.map (SfValue.asText apex)).getD ""
  priority := "High"
  activityDate := apex.today
  ownerId := engQueueId

/-- `criticalEscalation`. -/
def criticalEscalation (c : TriageCase) (engQueueId : Option String) : Option SfTask :=
  if ¬c.afmCaseType.any (apexEq "lost_signal") ∨ isBlank c.afmDetectionFacts then none
  else
    (deserializeFacts apex c.afmDetectionFacts).bind fun facts =>
      (asDecimal apex (factValue facts "gap_minutes")).bind fun gap =>
        (asDecimal apex (factValue facts "last_altitude_ft")).bind fun alt =>
          if gap ≤ critGapMinutes ∨ alt ≤ critAltitudeFt then none
          else some (escalationTask apex c engQueueId gap alt)

/-- The Case that `Case.create` makes of the fields. -/
def caseOfFields (id : String) (fields : List (String × SfValue)) : TriageCase where
  id := id
  subject := ((fields.lookup "Subject").map (SfValue.asText apex)).getD ""
  afmCaseType := (fields.lookup "AFM_Case_Type__c").map (SfValue.asText apex)
  afmDetectionFacts := fields.lookup "AFM_Detection_Facts__c"

variable {apex} {c : TriageCase} {engQueueId : Option String}

/-- A Case escalates exactly for a gap and an altitude beyond the thresholds. -/
theorem criticalEscalation_isSome_iff : (criticalEscalation apex c engQueueId).isSome ↔
    c.afmCaseType.any (apexEq "lost_signal") ∧ isBlank c.afmDetectionFacts = false ∧
      ∃ facts gap alt, deserializeFacts apex c.afmDetectionFacts = some facts ∧
        asDecimal apex (factValue facts "gap_minutes") = some gap ∧
        asDecimal apex (factValue facts "last_altitude_ft") = some alt ∧
        critGapMinutes < gap ∧ critAltitudeFt < alt := by
  simp only [criticalEscalation, Option.isSome_iff_exists, Option.ite_none_left_eq_some,
    Option.bind_eq_some_iff, not_or, not_le, Option.some.injEq, Bool.not_eq_true,
    Bool.not_eq_false]
  constructor
  · rintro ⟨task, ⟨htype, hblank⟩, facts, hfacts, gap, hgap, alt, halt, ⟨hlong, hhigh⟩, -⟩
    exact ⟨htype, hblank, facts, gap, alt, hfacts, hgap, halt, hlong, hhigh⟩
  · rintro ⟨htype, hblank, facts, gap, alt, hfacts, hgap, halt, hlong, hhigh⟩
    exact ⟨_, ⟨htype, hblank⟩, facts, hfacts, gap, hgap, alt, halt, ⟨hlong, hhigh⟩, rfl⟩

/-! ### The fields of a payload -/

lemma lookup_absent {fields : List (String × Option SfValue)} {name : String}
    (h : name ∉ fields.map Prod.fst) :
    (fields.filterMap fun field => field.2.map fun v => (field.1, v)).lookup name = none := by
  rw [List.lookup_eq_none_iff]
  intro p hp
  obtain ⟨field, hfield, hsome⟩ := List.mem_filterMap.mp hp
  obtain ⟨v, -, rfl⟩ := Option.map_eq_some_iff.mp hsome
  have hkey := List.mem_map_of_mem (f := Prod.fst) hfield
  exact bne_iff_ne.mpr fun heq => h (heq ▸ hkey)

/-- A map without the fields that are None has the others under their names. -/
lemma lookup_present {fields : List (String × Option SfValue)}
    (hnodup : (fields.map Prod.fst).Nodup)
    {name : String} {value : Option SfValue} (h : (name, value) ∈ fields) :
    (fields.filterMap fun field => field.2.map fun v => (field.1, v)).lookup name = value := by
  induction fields with
  | nil => simp at h
  | cons field fields ih =>
    obtain ⟨key, present⟩ := field
    obtain ⟨hnot, hrest⟩ := List.nodup_cons.mp hnodup
    rcases List.mem_cons.mp h with heq | hmem
    · obtain ⟨rfl, rfl⟩ := Prod.mk.inj heq
      cases value with
      | some v => simp
      | none => simpa using lookup_absent hnot
    · have hkey := List.mem_map_of_mem (f := Prod.fst) hmem
      have hne : (name == key) = false := beq_eq_false_iff_ne.mpr fun heq => hnot (heq ▸ hkey)
      cases present with
      | none => simpa using ih hrest hmem
      | some v => simpa [List.lookup_cons, hne] using ih hrest hmem

@[simp] lemma caseOfFields_afmCaseType (id recordTypeId : String) (payload : CaseCreateInput) :
    (caseOfFields apex id (sfFields payload recordTypeId)).afmCaseType =
      payload.caseType.map CaseType.text := by
  have hlookup : (sfFields payload recordTypeId).lookup "AFM_Case_Type__c" =
      payload.caseType.map fun t => .text t.text := lookup_present (by simp) (by simp)
  simp only [caseOfFields, hlookup, Option.map_map]
  rfl

@[simp] lemma caseOfFields_afmDetectionFacts (id recordTypeId : String)
    (payload : CaseCreateInput) :
    (caseOfFields apex id (sfFields payload recordTypeId)).afmDetectionFacts =
      if payload.detectionFacts = [] then none else some (.json payload.detectionFacts) :=
  lookup_present (by simp) (by simp)

end FleetMonitor
