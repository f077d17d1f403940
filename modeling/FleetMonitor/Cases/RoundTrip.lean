import FleetMonitor.Cases.ExactlyOnce
import FleetMonitor.Salesforce.Triage

/-!
# A case through Salesforce and back

`to_sf_fields` writes a pending case as the fields of a Case, and `_to_sync_record` reads a Case as
a record of the pull. The maps of the two translations and the encoding of the runbook references
are inverse to each other on the rows the push sends, so a Case nobody has edited is no change to
its row.
-/

namespace FleetMonitor

open Library

/-! ### The Case of the fields -/

/-- The Status picklist value with a text. -/
def sfStatusOfText : String → SfStatus
  | "New"       => .new
  | "Working"   => .working
  | "Escalated" => .escalated
  | "Closed"    => .closed
  | text        => .other text

/-- The Priority picklist value with a text. -/
def sfPriorityOfText : String → SfPriority
  | "Low"    => .low
  | "Medium" => .medium
  | "High"   => .high
  | text     => .other text

/-- The text of a field; an absent one is null. -/
def fieldText (fields : List (String × SfValue)) (name : String) : Option String :=
  match fields.lookup name with
  | some (.text value) => some value
  | some (.json _)     => none
  | none               => none

/-- The Case that `Case.create` makes of the fields, while nobody has edited it: it is not closed.
-/
def uneditedCase (recordType id : String) (stamp : Instant) (fields : List (String × SfValue)) :
    SfCase where
  id := id
  recordType := recordType
  afmExternalId := fieldText fields "AFM_External_Id__c"
  status := sfStatusOfText ((fieldText fields "Status").getD "")
  priority := (fieldText fields "Priority").map sfPriorityOfText
  description := fieldText fields "Description"
  afmSeverityJustification := fieldText fields "AFM_Severity_Justification__c"
  afmRunbookRefs := fieldText fields "AFM_Runbook_Refs__c"
  closedDate := none
  systemModstamp := stamp
  revision := 0

/-! ### Runbook references -/

/-- A reference that the comma-separated list can carry: not empty, without a comma and without
whitespace around it. -/
structure PlainRef (ref : String) : Prop where
  nonempty : ref ≠ ""
  no_comma : ',' ∉ ref.toList
  no_space_before : ref.toList.head?.any isPySpace = false
  no_space_after : ref.toList.getLast?.any isPySpace = false

variable {refs : List String} {ref : String}

/-- `str.strip` leaves such a reference as it is. -/
lemma PlainRef.pyStrip_eq (h : PlainRef ref) : pyStrip ref.toList = ref.toList := by
  have hbefore : ref.toList.dropWhile isPySpace = ref.toList := by
    rw [List.dropWhile_eq_self_iff]
    intro hlen
    have hfirst := h.no_space_before
    rw [List.head?_eq_getElem?, List.getElem?_eq_getElem hlen] at hfirst
    simpa using hfirst
  have hafter : ref.toList.rdropWhile isPySpace = ref.toList := by
    rw [List.rdropWhile_eq_self_iff]
    intro hne
    have hlast := h.no_space_after
    rw [List.getLast?_eq_some_getLast hne] at hlast
    simpa using hlast
  rw [pyStrip, trim, hbefore, hafter]

/-- Splitting at the commas gives back the references that were joined with them. -/
lemma splitRefs_intercalate (hrefs : ∀ ref ∈ refs, PlainRef ref) :
    splitRefs (if refs = [] then none else some (",".intercalate refs)) = refs := by
  by_cases hnil : refs = []
  · rw [if_pos hnil, hnil]
    rfl
  have hsplit : (",".intercalate refs).toList.splitOn ',' = refs.map String.toList := by
    rw [String.toList_intercalate]
    refine List.splitOn_intercalate ',' (fun cs hcs => ?_) (by simpa using hnil)
    obtain ⟨ref, href, rfl⟩ := List.mem_map.mp hcs
    exact (hrefs ref href).no_comma
  have hstrip : (refs.map String.toList).map pyStrip = refs.map String.toList := by
    rw [List.map_map]
    exact List.map_congr_left fun ref href => (hrefs ref href).pyStrip_eq
  have hkept : (refs.map String.toList).filter (· ≠ []) = refs.map String.toList := by
    rw [List.filter_eq_self]
    intro cs hcs
    obtain ⟨ref, href, rfl⟩ := List.mem_map.mp hcs
    simpa using (hrefs ref href).nonempty
  rw [if_neg hnil, splitRefs, Option.getD_some, hsplit, hstrip, hkept, List.map_map]
  simp

/-! ### The two translations -/

variable {payload : CaseCreateInput} {row : CaseRow} {recordType recordTypeId id : String}
  {stamp : Instant} {fields : List (String × SfValue)}

lemma fieldText_of_lookup {name : String} {value : Option String}
    (h : fields.lookup name = value.map SfValue.text) : fieldText fields name = value := by
  cases value <;> simp [fieldText, h]

lemma sfPriorityOfText_severityToPriority (severity : Severity) :
    sfPriorityOfText (severityToPriority severity).text = severityToPriority severity := by
  cases severity <;> rfl

/-- The priority of a severity that is not above high reads back as the severity. -/
lemma severityFromSf_severityToPriority {severity : Severity}
    (h : severity ∈ [Severity.low, .medium, .high]) :
    severityFromSf (some (severityToPriority severity)) = some severity := by
  simp only [List.mem_cons, List.not_mem_nil, or_false] at h
  rcases h with rfl | rfl | rfl <;> rfl

/-- The fields of a payload read as the Case that is created of it. -/
lemma uneditedCase_sfFields (hstatus : payload.status = .new)
    (hpriority : payload.priority.map (fun p => sfPriorityOfText p.text) = payload.priority) :
    uneditedCase recordType id stamp (sfFields payload recordTypeId) =
      ExactlyOnce.createdCase recordType id stamp payload := by
  have hexternal : fieldText (sfFields payload recordTypeId) "AFM_External_Id__c" =
      some payload.externalId :=
    fieldText_of_lookup (lookup_present (by simp) (by simp))
  have htext : fieldText (sfFields payload recordTypeId) "Status" = some payload.status.text :=
    fieldText_of_lookup (lookup_present (by simp) (by simp))
  have hprio : fieldText (sfFields payload recordTypeId) "Priority" =
      payload.priority.map SfPriority.text :=
    fieldText_of_lookup (lookup_present (by simp) (by simp [Function.comp_def]))
  have hdescription : fieldText (sfFields payload recordTypeId) "Description" = none :=
    fieldText_of_lookup (lookup_absent (by simp))
  have hjustification : fieldText (sfFields payload recordTypeId) "AFM_Severity_Justification__c" =
      payload.severityJustification :=
    fieldText_of_lookup (lookup_present (by simp) (by simp))
  have hrefs : fieldText (sfFields payload recordTypeId) "AFM_Runbook_Refs__c" =
      if payload.runbookRefs = [] then none else some (",".intercalate payload.runbookRefs) := by
    refine fieldText_of_lookup (lookup_present (by simp) ?_)
    split_ifs <;> simp [*]
  have hread : (payload.priority.map SfPriority.text).map sfPriorityOfText = payload.priority := by
    rw [Option.map_map]
    exact hpriority
  rw [uneditedCase, ExactlyOnce.createdCase, hexternal, htext, hprio, hread, hdescription,
    hjustification, hrefs, hstatus]
  rfl

/-- A row the two translations carry: open, of a severity that has a priority of its own, of a known
region and with plain references. -/
structure Translatable (row : CaseRow) : Prop where
  status : row.status = .open
  severity : row.severity ∈ [Severity.low, .medium, .high]
  region : validRegion row.customerRegion ≠ none
  refs : ∀ ref ∈ row.runbookRefs, PlainRef ref

/-- The record of the Case created of a row: what the pull reads is what the row says, and a null
where the push writes nothing. -/
structure RecordOf (row : CaseRow) (rec : CaseSyncRecord) : Prop where
  externalId : rec.externalId = row.caseId
  status : rec.status = row.status
  severity : rec.severity = some row.severity
  summary : rec.summary = none
  severityJustification : rec.severityJustification = none
  runbookRefs : rec.runbookRefs = row.runbookRefs
  resolvedAt : rec.resolvedAt = none

lemma Translatable.exists_payload (h : Translatable row) :
    ∃ payload, toPayload row = .ok payload := by
  obtain ⟨region, hregion⟩ := Option.ne_none_iff_exists'.mp h.region
  exact ⟨_, by rw [toPayload, hregion]⟩

/-- Writing a row as fields and reading the Case of the fields gives the row back. -/
lemma Translatable.recordOf (h : Translatable row) (hpayload : toPayload row = .ok payload)
    (recordType recordTypeId id : String) (stamp : Instant) : RecordOf row
      (toSyncRecord (uneditedCase recordType id stamp (sfFields payload recordTypeId))) := by
  unfold toPayload at hpayload
  split at hpayload
  next => cases hpayload
  next region hregion =>
    obtain rfl := Except.ok.inj hpayload
    rw [uneditedCase_sfFields rfl (by simp [sfPriorityOfText_severityToPriority])]
    exact
      { externalId := rfl
        status := h.status.symm
        severity := severityFromSf_severityToPriority h.severity
        summary := rfl
        severityJustification := rfl
        runbookRefs := splitRefs_intercalate h.refs
        resolvedAt := rfl }

/-! ### The row -/

/-- What an application leaves of a row whose own record it applies. -/
structure SameCase (row after : CaseRow) : Prop where
  status : after.status = row.status
  severity : after.severity = row.severity
  runbookRefs : after.runbookRefs = row.runbookRefs
  summary : after.summary = row.summary
  severityJustification : after.severityJustification = row.severityJustification

variable {rec : CaseSyncRecord} {now : Instant} {mark : Mark} {db db' : CaseDb}

lemma RecordOf.marked (h : RecordOf row rec) (now : Instant) (mark : Mark) :
    RecordOf (markRow now mark row) rec := by
  cases mark <;> exact ⟨h.1, h.2, h.3, h.4, h.5, h.6, h.7⟩

lemma SameCase.of_mark {after : CaseRow} (h : SameCase (markRow now mark row) after) :
    SameCase row after := by
  cases mark <;> exact ⟨h.1, h.2, h.3, h.4, h.5⟩

lemma RecordOf.materialChanges_eq (h : RecordOf row rec) : materialChanges rec row = [] := by
  simp [materialChanges, h.status, h.severity, h.resolvedAt]

lemma RecordOf.sameCase (h : RecordOf row rec) : SameCase row (appliedRow now rec row) where
  status := h.status
  severity := by simp [appliedRow, h.severity]
  runbookRefs := by
    simp only [appliedRow, h.runbookRefs]
    split_ifs <;> rfl
  summary := by simp [appliedRow, h.summary]
  severityJustification := by simp [appliedRow, h.severityJustification]

/-- The record of a row that has the Case's id, which no other row has, is applied to that row. -/
lemma RecordOf.applyRecord_eq (h : RecordOf row rec) (hrow : row ∈ db.cases.rows)
    (hid : row.salesforceId = some rec.salesforceId)
    (hfree : ¬IdHeldElsewhere db.cases row.caseId rec.salesforceId) (now : Instant) :
    applyRecord now rec db =
      some ({ db with cases := db.cases.upsert (appliedRow now rec row) }, true) := by
  have honly : ∀ r ∈ db.cases.rows, recordMatches rec r → r = row := by
    intro r hr hmatch
    suffices hkey : r.caseId = row.caseId from Table.row_eq_of_key_eq hr hrow hkey
    rcases hmatch with hsf | hexternal
    · by_contra hne
      exact hfree ⟨r, hr, hne, hsf⟩
    · rw [hexternal, h.externalId]
  have hunique : ¬violatesUnique db.cases (appliedRow now rec row) := by
    rintro ⟨-, r, hr, hne, hsf⟩
    rw [appliedRow_salesforceId, hid, Option.some_or] at hsf
    exact hfree ⟨r, hr, hne, hsf⟩
  have hfind : db.cases.rows.find? (recordMatches rec) = some row := by
    cases hfound : db.cases.rows.find? (recordMatches rec) with
    | none =>
      have hmatch : recordMatches rec row := .inl hid
      exact absurd hmatch (by simpa using List.find?_eq_none.mp hfound row hrow)
    | some r =>
      have hmatch : recordMatches rec r := by simpa using List.find?_some hfound
      rw [honly r (List.mem_of_find?_eq_some hfound) hmatch]
  rw [applyRecord, hfind]
  simp only
  rw [if_neg hunique, h.materialChanges_eq, List.map_nil, List.append_nil]

/-! ### The round trip -/

variable {sf : SfClient} {now : String → Instant} {st st' : PushState} {ref : SalesforceCaseRef}
  {s : SfService}

/-- A Case is created of the fields that `to_sf_fields` gives. -/
lemma fields_of_createCase (h : (createCase sf payload s).1 = .ok ref) :
    ∃ recordTypeId, (toSfFields sf payload s).1 = .ok (sfFields payload recordTypeId) := by
  rcases htype : caseRecordType sf s with ⟨e | recordTypeId, s₁⟩
  · simp [createCase, toSfFields, SfM.andThen, htype] at h
  · exact ⟨recordTypeId, by simp [toSfFields, SfM.andThen, htype]⟩

/-- A row whose Case is created is marked with the id of the Case. -/
lemma markCase_of_pushRow (hpayload : toPayload row = .ok payload)
    (hcreated : (createCase sf payload st.service).1 = .ok ref)
    (hpush : pushRow sf now row st = (.ok (), st')) :
    markCase (now row.caseId) row.caseId (.synced ref.salesforceId (row.sfSyncAttempts + 1)) st.db =
      some st'.db := by
  simp only [pushRow, hpayload, hcreated, markFor] at hpush
  split at hpush
  next => simp at hpush
  next db hdb =>
    obtain rfl := (Prod.mk.inj hpush).2
    exact hdb

/-- A row that is pushed and whose Case is pulled back before anybody has edited it: no timeline
event is written, and the row says what it said. `resolved_at` is Salesforce's, which is null. -/
theorem pushRow_applyRecord_roundTrip (h : Translatable row) (hrow : row ∈ st.db.cases.rows) :
    ∃ payload, toPayload row = .ok payload ∧ ∀ sf now st' ref,
      (createCase sf payload st.service).1 = .ok ref → pushRow sf now row st = (.ok (), st') →
      ∃ fields, (toSfFields sf payload st.service).1 = .ok fields ∧
        ∀ recordType stamp now', ∃ pulled after,
          applyRecord now' (toSyncRecord (uneditedCase recordType ref.salesforceId stamp fields)) st'.db =
            some (pulled, true) ∧
          pulled.timeline = st'.db.timeline ∧
          pulled.cases.lookup row.caseId = some after ∧ SameCase row after ∧ after.resolvedAt = none := by
  obtain ⟨payload, hpayload⟩ := h.exists_payload
  refine ⟨payload, hpayload, fun sf now st' ref hcreated hpush => ?_⟩
  obtain ⟨recordTypeId, hfields⟩ := fields_of_createCase hcreated
  refine ⟨sfFields payload recordTypeId, hfields, fun recordType stamp now' => ?_⟩
  obtain ⟨row', hrow', hfree, hcases⟩ := markCase_eq_some (markCase_of_pushRow hpayload hcreated hpush)
  obtain rfl : row = row' := Option.some.inj ((Table.lookup_of_mem hrow).symm.trans hrow')
  set mark : Mark := .synced ref.salesforceId (row.sfSyncAttempts + 1)
  set rec := toSyncRecord (uneditedCase recordType ref.salesforceId stamp (sfFields payload recordTypeId))
  have hrec : RecordOf (markRow (now row.caseId) mark row) rec :=
    (h.recordOf hpayload recordType recordTypeId ref.salesforceId stamp).marked _ mark
  -- The marked row is the only one with the id of the Case.
  have hstill : ¬IdHeldElsewhere st'.db.cases row.caseId ref.salesforceId := by
    rintro ⟨r, hr, hne, hid⟩
    rw [hcases] at hr
    rcases Table.mem_rows_upsert.mp hr with rfl | ⟨hr, -⟩
    · exact hne markRow_caseId
    · exact hfree ⟨r, hr, hne, hid⟩
  have happly := hrec.applyRecord_eq (hcases ▸ Table.mem_rows_upsert.mpr (.inl rfl)) rfl
    (by rwa [markRow_caseId]) now'
  refine ⟨_, appliedRow now' rec (markRow (now row.caseId) mark row), happly, rfl, ?_,
    hrec.sameCase.of_mark, hrec.resolvedAt⟩
  rw [Table.lookup_upsert, if_pos (appliedRow_caseId.trans markRow_caseId)]

/-- A pending case with two references. -/
def highCase (resolvedAt : Option Instant) : CaseRow :=
  { sampleCase "CASE-2026-000001" (0 : ℤ) with
    severity := .high
    runbookRefs := ["RB-LOST-01", "RB-ESC-02"]
    sfSyncStatus := .pending
    resolvedAt }

/-- A pass that has the one row to push. -/
def highCasePass (resolvedAt : Option Instant) : PushState where
  db := { cases := ⟨[highCase resolvedAt], by simp⟩ }
  service := {}

/-- Salesforce creates every Case. -/
def creatingClient : SfClient where
  token _ := .ok ()
  query _ := .ok ["0120"]
  create _ := .ok ⟨true, "5001"⟩

lemma translatable_highCase (resolvedAt : Option Instant) : Translatable (highCase resolvedAt) where
  status := rfl
  severity := by simp [highCase]
  region := by simp [highCase, sampleCase, validRegion]
  refs ref href := by
    simp only [highCase, List.mem_cons, List.not_mem_nil, or_false] at href
    rcases href with rfl | rfl <;> exact ⟨by decide, by decide, by decide, by decide⟩

theorem highCase_roundTrip : ∃ (st' : PushState) (pulled : CaseDb) (after : CaseRow),
    pushRow creatingClient (fun _ => (1 : ℤ)) (highCase none) (highCasePass none) = (.ok (), st') ∧
    pulled.timeline = st'.db.timeline ∧
    pulled.cases.lookup (highCase none).caseId = some after ∧ SameCase (highCase none) after := by
  have hrow : highCase none ∈ (highCasePass none).db.cases.rows := List.mem_singleton_self _
  obtain ⟨payload, hpayload, hroundTrip⟩ :=
    pushRow_applyRecord_roundTrip (translatable_highCase none) hrow
  obtain rfl := Except.ok.inj hpayload
  obtain ⟨fields, -, hpull⟩ := hroundTrip creatingClient (fun _ => (1 : ℤ)) _
    ⟨"5001", "CASE-2026-000001"⟩ rfl rfl
  obtain ⟨pulled, after, -, htimeline, hlookup, hsame, -⟩ :=
    hpull "Fleet_Operations" (2 : ℤ) (3 : ℤ)
  exact ⟨_, pulled, after, rfl, htimeline, hlookup, hsame⟩

/-- An open row that was resolved at some time is pulled back without that time. -/
theorem reopened_case_loses_resolvedAt : ¬∀ (row : CaseRow) (st st' : PushState) (sf : SfClient)
    (now : String → Instant) (payload : CaseCreateInput) (ref : SalesforceCaseRef)
    (fields : List (String × SfValue)) (pulled : CaseDb), Translatable row →
      row ∈ st.db.cases.rows → row.sfSyncStatus = .pending → toPayload row = .ok payload →
      (createCase sf payload st.service).1 = .ok ref →
      (toSfFields sf payload st.service).1 = .ok fields → pushRow sf now row st = (.ok (), st') →
      applyRecord (3 : ℤ) (toSyncRecord
        (uneditedCase "Fleet_Operations" ref.salesforceId (2 : ℤ) fields)) st'.db = some (pulled, true) →
      (pulled.cases.lookup row.caseId).bind (·.resolvedAt) = row.resolvedAt := by
  intro h
  have hresolved := h (highCase (some (0 : ℤ))) (highCasePass (some (0 : ℤ))) _ creatingClient
    (fun _ => (1 : ℤ)) _ ⟨"5001", "CASE-2026-000001"⟩ _ _ (translatable_highCase _)
    (List.mem_singleton_self _) rfl rfl rfl rfl rfl rfl
  cases hresolved

end FleetMonitor
