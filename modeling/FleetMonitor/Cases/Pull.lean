import FleetMonitor.Salesforce.Org

/-!
# Applying a Salesforce record to its local row

`CaseSyncService._apply_record`: the row a record matches, the row it leaves behind and the timeline
events it writes. The rules of the later modules about matching rows are proved here: an apply
changes no key, and a record keeps matching the rows it matched.
-/

namespace FleetMonitor

open Library

/-- An entry of `app.case_timeline`: its event type with the detail the code writes. -/
inductive TimelineEvent where
  | created (rule : CaseType)
  | sfSynced (salesforceId : String)
  | sfSyncRetry (attempts : ℕ) (error : String)
  | sfSyncFailed (attempts : ℕ) (error : String)
  | statusChanged (prev next : CaseStatus)
  | severityChanged (prev next : Severity)
  | resolved (resolvedAt : Instant)
  deriving DecidableEq, Repr

/-- The tables of the `app` schema that the sync jobs write. -/
structure CaseDb where
  cases : CaseTable
  timeline : List (String × TimelineEvent) := []

/-- `WHERE salesforce_id = %s OR case_id = %s`. -/
def recordMatches (rec : CaseSyncRecord) (row : CaseRow) : Prop :=
  row.salesforceId = some rec.salesforceId ∨ row.caseId = rec.externalId

instance (rec : CaseSyncRecord) (row : CaseRow) : Decidable (recordMatches rec row) :=
  inferInstanceAs (Decidable (_ ∨ _))

/-- `CaseSyncService._material_changes`. -/
def materialChanges (rec : CaseSyncRecord) (prev : CaseRow) : List TimelineEvent :=
  (if rec.status ≠ prev.status then [.statusChanged prev.status rec.status] else []) ++
  (match rec.severity with
    | some severity =>
      if severity ≠ prev.severity then [.severityChanged prev.severity severity] else []
    | none => []) ++
  (match rec.resolvedAt, prev.resolvedAt with
    | some t, none => [.resolved t]
    | _, _         => [])

/-- The UPDATE of `_apply_record`; `COALESCE(%s, column)` is `Option.getD` or `Option.or`. -/
def appliedRow (now : Instant) (rec : CaseSyncRecord) (row : CaseRow) : CaseRow :=
  { row with
    status := rec.status
    severity := rec.severity.getD row.severity
    summary := rec.summary.or row.summary
    severityJustification := rec.severityJustification.or row.severityJustification
    runbookRefs := if rec.runbookRefs = [] then row.runbookRefs else rec.runbookRefs
    resolvedAt := rec.resolvedAt
    salesforceId := row.salesforceId.or (some rec.salesforceId)
    updatedAt := now }

/-- The UNIQUE constraint on `salesforce_id` rejects the row. -/
def violatesUnique (cases : CaseTable) (row : CaseRow) : Prop :=
  row.salesforceId ≠ none ∧ ∃ r ∈ cases.rows, r.caseId ≠ row.caseId ∧
    r.salesforceId = row.salesforceId

instance (cases : CaseTable) (row : CaseRow) : Decidable (violatesUnique cases row) :=
  inferInstanceAs (Decidable (_ ∧ _))

/-- `CaseSyncService._apply_record` in a transaction of time `now`: the tables it leaves and whether
a row matched; `none` when the transaction is rejected. -/
def applyRecord (now : Instant) (rec : CaseSyncRecord) (db : CaseDb) : Option (CaseDb × Bool) :=
  match db.cases.rows.find? (recordMatches rec) with
  | none     => some (db, false)
  | some row =>
    if violatesUnique db.cases (appliedRow now rec row) then none
    else some
      ({ cases := db.cases.upsert (appliedRow now rec row)
         timeline := db.timeline ++ (materialChanges rec row).map fun e => (row.caseId, e) }, true)

/-- The running `max_modstamp` of the loop over the records. -/
def bumpModstamp (maxModstamp : Option Instant) (t : Instant) : Option Instant :=
  match maxModstamp with
  | none   => some t
  | some m => some (max m t)

/-- Some local row belongs to the Case with this id and external id. -/
def HasRow (cases : CaseTable) (rec : CaseSyncRecord) : Prop :=
  ∃ row ∈ cases.rows, recordMatches rec row

instance (cases : CaseTable) (rec : CaseSyncRecord) : Decidable (HasRow cases rec) :=
  inferInstanceAs (Decidable (∃ row ∈ cases.rows, recordMatches rec row))

variable {now : Instant} {rec : CaseSyncRecord} {db db' : CaseDb} {row : CaseRow} {matched : Bool}

@[simp] lemma appliedRow_caseId : (appliedRow now rec row).caseId = row.caseId := rfl

@[simp] lemma appliedRow_status : (appliedRow now rec row).status = rec.status := rfl

@[simp] lemma appliedRow_resolvedAt : (appliedRow now rec row).resolvedAt = rec.resolvedAt := rfl

@[simp] lemma appliedRow_salesforceId :
    (appliedRow now rec row).salesforceId = row.salesforceId.or (some rec.salesforceId) := rfl

/-! ### What an apply does -/

/-- An apply either matches no row and changes nothing, or writes the row of its record. -/
inductive ApplyRule (now : Instant) (rec : CaseSyncRecord) (db : CaseDb) : CaseDb → Bool → Prop where
  | unmatched (h : ¬ HasRow db.cases rec) : ApplyRule now rec db db false
  | matched (row : CaseRow) (hrow : row ∈ db.cases.rows) (hmatch : recordMatches rec row)
      (hunique : ¬ violatesUnique db.cases (appliedRow now rec row)) :
      ApplyRule now rec db
        { cases := db.cases.upsert (appliedRow now rec row)
          timeline := db.timeline ++ (materialChanges rec row).map fun e => (row.caseId, e) } true

lemma ApplyRule.of_applyRecord (h : applyRecord now rec db = some (db', matched)) :
    ApplyRule now rec db db' matched := by
  unfold applyRecord at h
  split at h
  next hnone =>
    simp only [Option.some.injEq, Prod.mk.injEq] at h
    obtain ⟨rfl, rfl⟩ := h
    refine .unmatched fun ⟨row, hrow, hmatch⟩ => ?_
    simpa [hmatch] using List.find?_eq_none.mp hnone row hrow
  next row hsome =>
    split_ifs at h with hunique
    simp only [Option.some.injEq, Prod.mk.injEq] at h
    obtain ⟨rfl, rfl⟩ := h
    exact .matched row (List.mem_of_find?_eq_some hsome)
      (by simpa using List.find?_some hsome) hunique

/-- An apply reports a match exactly when the record has a local row. -/
lemma applyRecord_matched (h : applyRecord now rec db = some (db', matched)) :
    matched = true ↔ HasRow db.cases rec := by
  cases ApplyRule.of_applyRecord h with
  | unmatched hno => simpa using hno
  | matched row hrow hmatch => simpa using ⟨row, hrow, hmatch⟩

/-- The row an apply leaves behind matches the records it matched before, as long as the records
that share the applied one's id share its external id. -/
lemma recordMatches_appliedRow_iff (now : Instant) (hmatch : recordMatches rec row)
    {rec' : CaseSyncRecord}
    (hid : rec'.salesforceId = rec.salesforceId → rec'.externalId = rec.externalId) :
    recordMatches rec' (appliedRow now rec row) ↔ recordMatches rec' row := by
  simp only [recordMatches, appliedRow_salesforceId, appliedRow_caseId]
  cases hold : row.salesforceId with
  | some i => simp
  | none =>
    simp only [Option.none_or, Option.some.injEq, reduceCtorEq, false_or]
    constructor
    · rintro (hsf | hcase)
      · rcases hmatch with hm | hm
        · simp [hold] at hm
        · exact hm.trans (hid hsf.symm).symm
      · exact hcase
    · exact .inr

/-- Every row after an apply is a row before it, as far as the matching of records is concerned. -/
lemma exists_row_of_applyRecord (h : applyRecord now rec db = some (db', matched)) {r : CaseRow}
    (hr : r ∈ db'.cases.rows) : ∃ r₀ ∈ db.cases.rows, r₀.caseId = r.caseId ∧
      ∀ rec', (rec'.salesforceId = rec.salesforceId → rec'.externalId = rec.externalId) →
        (recordMatches rec' r ↔ recordMatches rec' r₀) := by
  cases ApplyRule.of_applyRecord h with
  | unmatched => exact ⟨r, hr, rfl, fun _ _ => Iff.rfl⟩
  | matched row hrow hmatch =>
    rcases Table.mem_rows_upsert.mp hr with rfl | ⟨hr, -⟩
    · exact ⟨row, hrow, rfl, fun rec' hid => recordMatches_appliedRow_iff now hmatch hid⟩
    · exact ⟨r, hr, rfl, fun _ _ => Iff.rfl⟩

/-- Applying a record takes a row away from no Case and gives none a new row. -/
lemma hasRow_applyRecord (h : applyRecord now rec db = some (db', matched)) {rec' : CaseSyncRecord}
    (hid : rec'.salesforceId = rec.salesforceId → rec'.externalId = rec.externalId) :
    HasRow db'.cases rec' ↔ HasRow db.cases rec' := by
  cases ApplyRule.of_applyRecord h with
  | unmatched => rfl
  | matched row hrow hmatch =>
    have hiff := recordMatches_appliedRow_iff now hmatch hid
    constructor
    · rintro ⟨r, hr, hr'⟩
      obtain ⟨r₀, hr₀, -, hmatches⟩ := exists_row_of_applyRecord h hr
      exact ⟨r₀, hr₀, (hmatches rec' hid).mp hr'⟩
    · rintro ⟨r, hr, hr'⟩
      by_cases hkey : r.caseId = row.caseId
      · obtain rfl : r = row := Table.row_eq_of_key_eq hr hrow hkey
        exact ⟨appliedRow now rec r, Table.mem_rows_upsert.mpr (.inl rfl), hiff.mpr hr'⟩
      · exact ⟨r, Table.mem_rows_upsert.mpr (.inr ⟨hr, hkey⟩), hr'⟩

/-- The records of two versions that agree on the Case's identity match the same rows. -/
lemma recordMatches_congr {c v : SfCase} (hid : v.id = c.id)
    (hext : v.afmExternalId = c.afmExternalId) :
    recordMatches (toSyncRecord v) row ↔ recordMatches (toSyncRecord c) row := by
  simp [recordMatches, toSyncRecord, hid, hext]

/-! ### Mirroring -/

/-- The row shows this version of its Case: a null of Salesforce blanks no local value. -/
structure Mirrors (row : CaseRow) (rec : CaseSyncRecord) : Prop where
  status : row.status = rec.status
  severity : ∀ x ∈ rec.severity, row.severity = x
  summary : ∀ x ∈ rec.summary, row.summary = some x
  severityJustification : ∀ x ∈ rec.severityJustification, row.severityJustification = some x
  runbookRefs : rec.runbookRefs ≠ [] → row.runbookRefs = rec.runbookRefs
  resolvedAt : row.resolvedAt = rec.resolvedAt
  salesforceId : row.salesforceId ≠ none

lemma mirrors_appliedRow (now : Instant) (rec : CaseSyncRecord) (row : CaseRow) :
    Mirrors (appliedRow now rec row) rec where
  status := rfl
  severity x hx := by simp [appliedRow, Option.mem_def.mp hx]
  summary x hx := by simp [appliedRow, Option.mem_def.mp hx]
  severityJustification x hx := by simp [appliedRow, Option.mem_def.mp hx]
  runbookRefs h := if_neg h
  resolvedAt := rfl
  salesforceId := by
    rw [appliedRow_salesforceId]
    cases row.salesforceId <;> simp

end FleetMonitor
