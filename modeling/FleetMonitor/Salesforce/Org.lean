import FleetMonitor.Cases.Schema
import FleetMonitor.Library.PythonText
import Mathlib.Data.List.Perm.Subperm

/-!
# The Salesforce org

The Cases of the org as a query sees them, the translation of a query row to the record the pull
applies, and the pages the pull's query can return. Salesforce shows only the current version of a
Case; its earlier versions are known to the specification alone.
-/

namespace FleetMonitor

open Library

/-! ### Cases -/

/-- The Status picklist of the record type. -/
inductive SfStatus where
  | new
  | working
  | escalated
  | closed
  | other (text : String)
  deriving DecidableEq, Repr

/-- The Priority picklist. -/
inductive SfPriority where
  | low
  | medium
  | high
  | other (text : String)
  deriving DecidableEq, Repr

/-- One version of a Case. `revision` counts the modifications of the Case; no query reads it. -/
@[ext] structure SfCase where
  id : String
  recordType : String
  afmExternalId : Option String
  status : SfStatus
  priority : Option SfPriority
  description : Option String
  afmSeverityJustification : Option String
  afmRunbookRefs : Option String
  closedDate : Option Instant
  systemModstamp : Instant
  revision : ℕ
  deriving DecidableEq, Repr

/-- The current version of every Case. -/
abbrev SfOrg := Table SfCase.id

/-- A Case of the record type `Fleet_Operations` as the push creates it. -/
def sampleSfCase (id externalId : String) (systemModstamp : Instant) : SfCase where
  id := id
  recordType := "Fleet_Operations"
  afmExternalId := some externalId
  status := .new
  priority := some .low
  description := none
  afmSeverityJustification := none
  afmRunbookRefs := none
  closedDate := none
  systemModstamp := systemModstamp
  revision := 0

/-! ### Translation -/

/-- `STATUS_FROM_SF`, with `_DEFAULT_AFM_STATUS` for a status it does not map. -/
def statusFromSf : SfStatus → CaseStatus
  | .new       => .open
  | .working   => .inProgress
  | .escalated => .inProgress
  | .closed    => .resolved
  | .other _   => .open

/-- `SEVERITY_FROM_SF.get`. -/
def severityFromSf : Option SfPriority → Option Severity
  | some .low       => some .low
  | some .medium    => some .medium
  | some .high      => some .high
  | some (.other _) => none
  | none            => none

/-- `[r.strip() for r in refs_raw.split(",") if r.strip()]`. -/
def splitRefs (refsRaw : Option String) : List String :=
  ((((refsRaw.getD "").toList.splitOn ',').map pyStrip).filter (· ≠ [])).map String.ofList

/-- `CaseSyncRecord`. -/
structure CaseSyncRecord where
  salesforceId : String
  externalId : String
  status : CaseStatus
  severity : Option Severity
  summary : Option String
  severityJustification : Option String
  runbookRefs : List String
  resolvedAt : Option Instant
  systemModstamp : Instant
  deriving DecidableEq, Repr

/-- `SalesforceService._to_sync_record`. -/
def toSyncRecord (c : SfCase) : CaseSyncRecord where
  salesforceId := c.id
  externalId := c.afmExternalId.getD ""
  status := statusFromSf c.status
  severity := severityFromSf c.priority
  summary := c.description
  severityJustification := c.afmSeverityJustification
  runbookRefs := splitRefs c.afmRunbookRefs
  resolvedAt := c.closedDate
  systemModstamp := c.systemModstamp

/-! ### The query of the pull -/

/-- `strftime("%Y-%m-%dT%H:%M:%SZ")` drops the microseconds: the instant the SOQL literal denotes.
-/
def floorSecond (t : Instant) : Instant := t - t % 1000000

lemma floorSecond_le (t : Instant) : floorSecond t ≤ t := by
  have : ∀ a : ℤ, a - a % 1000000 ≤ a := by omega
  exact this t

/-- `WHERE RecordType.DeveloperName = … AND SystemModstamp > literal`. -/
def InWindow (recordType : String) (watermark : Instant) (c : SfCase) : Prop :=
  c.recordType = recordType ∧ floorSecond watermark < c.systemModstamp

instance (recordType : String) (watermark : Instant) (c : SfCase) :
    Decidable (InWindow recordType watermark c) :=
  inferInstanceAs (Decidable (_ ∧ _))

/-- The Cases the WHERE clause selects. -/
def pullWindow (recordType : String) (org : SfOrg) (watermark : Instant) : List SfCase :=
  org.rows.filter (InWindow recordType watermark)

/-- `page` is an answer to the query: the window in ascending order of SystemModstamp, cut at
`limit`. Salesforce is free in how it orders Cases of one stamp. -/
structure IsPullPage (recordType : String) (org : SfOrg) (watermark : Instant) (limit : ℕ)
    (page : List SfCase) : Prop where
  nodup : page.Nodup
  mem : ∀ c ∈ page, c ∈ pullWindow recordType org watermark
  sorted : page.Pairwise fun a b => a.systemModstamp ≤ b.systemModstamp
  length : page.length = min limit (pullWindow recordType org watermark).length
  first : ∀ c ∈ page, ∀ d ∈ pullWindow recordType org watermark, d ∉ page →
    c.systemModstamp ≤ d.systemModstamp

lemma isPullPage_iff {recordType : String} {org : SfOrg} {watermark : Instant} {limit : ℕ}
    {page : List SfCase} : IsPullPage recordType org watermark limit page ↔
      page.Nodup ∧ (∀ c ∈ page, c ∈ pullWindow recordType org watermark) ∧
      (page.Pairwise fun a b => a.systemModstamp ≤ b.systemModstamp) ∧
      page.length = min limit (pullWindow recordType org watermark).length ∧
      ∀ c ∈ page, ∀ d ∈ pullWindow recordType org watermark, d ∉ page →
        c.systemModstamp ≤ d.systemModstamp :=
  ⟨fun h => ⟨h.nodup, h.mem, h.sorted, h.length, h.first⟩,
    fun ⟨h₁, h₂, h₃, h₄, h₅⟩ => ⟨h₁, h₂, h₃, h₄, h₅⟩⟩

instance (recordType : String) (org : SfOrg) (watermark : Instant) (limit : ℕ)
    (page : List SfCase) : Decidable (IsPullPage recordType org watermark limit page) :=
  decidable_of_iff _ isPullPage_iff.symm

variable {recordType : String} {org : SfOrg} {watermark : Instant} {limit : ℕ}
  {page : List SfCase} {c : SfCase}

lemma mem_pullWindow :
    c ∈ pullWindow recordType org watermark ↔
      c ∈ org.rows ∧ InWindow recordType watermark c := by
  simp [pullWindow]

/-- A page that is not full is the whole window. -/
lemma IsPullPage.mem_of_length_lt (h : IsPullPage recordType org watermark limit page)
    (hlen : (pullWindow recordType org watermark).length ≤ limit)
    (hc : c ∈ pullWindow recordType org watermark) : c ∈ page := by
  have hsub : List.Subperm page (pullWindow recordType org watermark) :=
    List.subperm_of_subset h.nodup h.mem
  have hperm := hsub.perm_of_length_le (by rw [h.length]; omega)
  exact hperm.mem_iff.mpr hc

end FleetMonitor
