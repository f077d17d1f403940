import FleetMonitor.Cases.Escalation
import FleetMonitor.Cases.RoundTrip
import FleetMonitor.Salesforce.NarrativeJobs

/-!
# Cases that arrive

The Case that Salesforce makes of the fields the push sends. The push never sends a justification,
and sends the type of a rule and a known region, so that the org takes every Case it creates and the
trigger triages it at once.
-/

namespace FleetMonitor.Arrivals

open Library ExactlyOnce Escalation

/-! ### The org -/

/-- The restricted values of `AFM_Case_Type__c`. -/
def caseTypeValues : List String :=
  ["lost_signal", "diversion", "excessive_hold", "weather_impact", "go_around", "delay"]

/-- The restricted values of `AFM_Customer_Region__c`. -/
def customerRegionValues : List String := ["West", "East", "All"]

/-- The Case that `Case.create` makes of the fields. -/
def arrivedCase (apex : Apex) (id : String) (fields : List (String × SfValue)) : OrgCase where
  toTriageCase := caseOfFields apex id fields
  afmCustomerRegion := fieldText fields "AFM_Customer_Region__c"
  afmFlightId := fieldText fields "AFM_Flight_Id__c"
  afmSiteIcao := fieldText fields "AFM_Site_Icao__c"
  afmExternalId := fieldText fields "AFM_External_Id__c"
  recordTypeId := (fieldText fields "RecordTypeId").getD ""
  severityJustification := fieldText fields "AFM_Severity_Justification__c"

variable {apex : Apex} {payload : CaseCreateInput} {id recordTypeId : String}

lemma arrivedCase_customerRegion :
    (arrivedCase apex id (sfFields payload recordTypeId)).afmCustomerRegion =
      payload.customerRegion.map regionToSf := by
  apply fieldText_of_lookup
  exact lookup_present (by simp) (by simp [Function.comp_def])

lemma arrivedCase_recordTypeId :
    (arrivedCase apex id (sfFields payload recordTypeId)).recordTypeId = recordTypeId := by
  have htext : fieldText (sfFields payload recordTypeId) "RecordTypeId" = some recordTypeId :=
    fieldText_of_lookup (lookup_present (by simp) (by simp))
  simp [arrivedCase, htext]

lemma arrivedCase_severityJustification :
    (arrivedCase apex id (sfFields payload recordTypeId)).severityJustification =
      payload.severityJustification :=
  fieldText_of_lookup (lookup_present (by simp) (by simp))

/-! ### What the push sends -/

/-- What is sent is the payload of a row. -/
def SentRows (s : State) : Prop := ∀ payload ∈ s.sent, ∃ row, toPayload row = .ok payload

variable {recordType : String} {s t : State}

lemma SentRows.send (h : SentRows s) {row : CaseRow} (hpayload : toPayload row = .ok payload) :
    ∀ q ∈ payload :: s.sent, ∃ row, toPayload row = .ok q := by
  intro q hq
  rcases List.mem_cons.mp hq with rfl | hq
  · exact ⟨row, hpayload⟩
  · exact h q hq

lemma SentRows.step {a : Action} (h : SentRows s) (hact : act recordType s a = some t) :
    SentRows t := by
  cases StepRule.of_act hact with
  | create p sf service created row rest payload org hp hpayload => exact h.send hpayload
  | crashSending p row rest payload hp hpayload => exact h.send hpayload
  | _ => exact h

lemma sentRows_of_reached {guard : State → Action → Prop}
    (hs : Reached (act recordType) guard start s) : SentRows s := by
  apply hs.invariant (I := SentRows)
  · intro s hstart payload hpayload
    simp [hstart.sent] at hpayload
  · intro s a t hI _ hact
    exact hI.step hact

lemma toPayload_region {row : CaseRow} (h : toPayload row = .ok payload) :
    payload.severityJustification = none ∧ ∃ region, payload.customerRegion = some region := by
  rw [toPayload] at h
  split at h
  next => cases h
  next region hregion =>
    obtain rfl := Except.ok.inj h
    exact ⟨rfl, region, rfl⟩

lemma regionToSf_mem (region : Region) : regionToSf region ∈ customerRegionValues := by
  cases region <;> decide

lemma apexEq_regionToSf (region : Region) :
    apexEq (regionToSf region) "All" = decide (region = .all) := by
  cases region <;> decide

lemma caseType_text_mem (rule : Rule) : rule.caseType.text ∈ caseTypeValues := by
  cases rule <;> decide

/-! ### Triage -/

variable {p : NarrativePlatform}

/-- A text is not blank that has a letter. -/
lemma isBlankText_eq_false {text : String} {letter : Char} (hletter : p.isWhitespace letter = false)
    (hmem : letter ∈ text.toList) : isBlankText p.toTriagePlatform (some text) = false := by
  rw [isBlankText, Option.getD_some]
  exact List.all_eq_false.mpr ⟨letter, hmem, by simp [hletter]⟩

lemma exists_letter {text : String} (h : text ∈ caseTypeValues ++ customerRegionValues) :
    ∃ letter ∈ text.toList, letter.isAlpha := by
  have hall : (caseTypeValues ++ customerRegionValues).all (·.toList.any Char.isAlpha) = true := by
    decide +kernel
  exact List.any_eq_true.mp (List.all_eq_true.mp hall text h)

/-- A value that a restricted field takes is not blank. -/
lemma not_blank (hletters : ∀ letter : Char, letter.isAlpha → p.isWhitespace letter = false)
    {text : String} (h : text ∈ caseTypeValues ++ customerRegionValues) :
    isBlankText p.toTriagePlatform (some text) = false := by
  obtain ⟨letter, hmem, halpha⟩ := exists_letter h
  exact isBlankText_eq_false (hletters letter halpha) hmem

/-- A Case of a region has values the org takes, is triaged and enqueued when it is inserted, and
gets a notification unless it is for all regions. -/
structure Arrived (p : NarrativePlatform) (recordTypeId : String) (region : Region) (c : OrgCase) :
    Prop where
  caseType : ∃ text ∈ caseTypeValues, c.afmCaseType = some text
  customerRegion : c.afmCustomerRegion = some (regionToSf region)
  inValues : regionToSf region ∈ customerRegionValues
  triaged : afterInsert p recordTypeId [c] = ([c.id], [[c.id]])
  notified : isRegionScoped p.toTriagePlatform c.afmCustomerRegion ↔ region ≠ .all

lemma afterInsert_singleton {c : OrgCase} {text : String} (htype : c.afmCaseType = some text)
    (hblank : isBlankText p.toTriagePlatform (some text) = false)
    (hrecord : c.recordTypeId = recordTypeId)
    (hjustification : c.severityJustification = none) :
    afterInsert p recordTypeId [c] = ([c.id], [[c.id]]) := by
  have heligible : eligibleCases p recordTypeId [c] = [c.id] := by
    simp [eligibleCases, htype, hblank, hrecord, hjustification]
  have henqueue : enqueue [c.id] = [[c.id]] := by
    simp [enqueue, enqueueFrom, maxJobs, chunkSize]
  rw [afterInsert, heligible, henqueue]
  rfl

/-- Each Case the push sends, in any run of detector, push and pulls, is one the org takes and the
trigger triages, and its region decides on the notification. -/
theorem sent_cases_triaged (p : NarrativePlatform) (libs : Libraries) (sparseCells : List (ℤ × ℤ))
    (recordType : String) (s : State)
    (hs : Reached (act recordType) (insertsDetected (ReportedByRule libs sparseCells)) start s)
    (hletters : ∀ letter : Char, letter.isAlpha → p.isWhitespace letter = false)
    (payload : CaseCreateInput) (hsent : payload ∈ s.sent) (id recordTypeId : String) :
    ∃ region, payload.customerRegion = some region ∧
      Arrived p recordTypeId region (arrivedCase p.toApex id (sfFields payload recordTypeId)) := by
  obtain ⟨row, hrow⟩ := sentRows_of_reached hs payload hsent
  obtain ⟨hjustification, region, hregion⟩ := toPayload_region hrow
  obtain ⟨caseType, htype, rule, -, rfl, -⟩ := (carries_of_reached hs).sent payload hsent
  have hcaseType : (arrivedCase p.toApex id (sfFields payload recordTypeId)).afmCaseType =
      some rule.caseType.text := by
    show (caseOfFields p.toApex id (sfFields payload recordTypeId)).afmCaseType = _
    rw [caseOfFields_afmCaseType, htype, Option.map_some]
  have hcustomer : (arrivedCase p.toApex id (sfFields payload recordTypeId)).afmCustomerRegion =
      some (regionToSf region) := by
    rw [arrivedCase_customerRegion, hregion, Option.map_some]
  refine ⟨region, hregion, ⟨_, caseType_text_mem rule, hcaseType⟩, hcustomer, regionToSf_mem region,
    ?_, ?_⟩
  · apply afterInsert_singleton hcaseType
    · exact not_blank hletters (List.mem_append_left _ (caseType_text_mem rule))
    · exact arrivedCase_recordTypeId
    · rw [arrivedCase_severityJustification, hjustification]
  · have hblank := not_blank hletters (List.mem_append_right caseTypeValues (regionToSf_mem region))
    rw [hcustomer, isRegionScoped, hblank, concatText, Option.getD_some, apexEq_regionToSf]
    simp

/-- The lost signal of the run, as its Case arrives. -/
theorem pushingRun_case_triaged : ∃ s payload,
    runActions (act "Fleet_Operations") emptyState pushingRun = some s ∧ payload ∈ s.sent ∧
    ∃ region, payload.customerRegion = some region ∧ Arrived answeringPlatform "0120" region
      (arrivedCase answeringPlatform.toApex "5001" (sfFields payload "0120")) := by
  obtain ⟨s, hs, hreached, -⟩ := exists_pushingRun
  have hsent : ∀ s ∈ runActions (act "Fleet_Operations") emptyState pushingRun, s.sent ≠ [] := by
    decide +kernel
  obtain ⟨payload, hpayload⟩ := List.exists_mem_of_ne_nil _ (hsent s hs)
  refine ⟨s, payload, hs, hpayload, sent_cases_triaged answeringPlatform planarLibs [] "Fleet_Operations"
    s hreached ?_ payload hpayload "5001" "0120"⟩
  intro letter halpha
  show letter.isWhitespace = false
  simp only [Char.isWhitespace, Bool.or_eq_false_iff, decide_eq_false_iff_not]
  refine ⟨⟨⟨?_, ?_⟩, ?_⟩, ?_⟩ <;> rintro rfl <;> cases halpha

end FleetMonitor.Arrivals
