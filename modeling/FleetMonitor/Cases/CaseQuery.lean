import FleetMonitor.Foundry.Ontology
import FleetMonitor.Library.OrderedQuery
import FleetMonitor.Positions.FlightQuery
import Mathlib.Data.Prod.Lex

/-!
# Reading cases

`QueryService.list_cases` and `QueryService.get_case`. A narrow scope sees the cases of its region
and those of all regions: what it reads depends on nothing else in the two tables, and the list and
the single read show the same cases.
-/

namespace FleetMonitor

open Library

/-! ### The tables -/

/-- A row of `app.case_timeline`. -/
structure TimelineRow where
  eventId : ℕ
  caseId : String
  eventType : String
  detail : DetectionFacts
  source : String
  actor : Option String
  occurredAt : Instant
  deriving DecidableEq, Repr

/-- `app.case_timeline`: `event_id` is the primary key. -/
abbrev CaseTimeline := Table TimelineRow.eventId

/-! ### The list -/

/-- `CASE_LIST_CEILING`. -/
def caseListCeiling : ℕ := 50000

/-- `DEFAULT_CASE_STATUSES`. -/
def defaultCaseStatuses : List String := ["open", "acknowledged", "in_progress"]

/-- `CaseListItem`. -/
structure CaseListItem where
  caseId : String
  salesforceId : Option String
  salesforceUrl : Option String
  caseType : CaseType
  status : CaseStatus
  severity : Severity
  customerRegion : CustomerRegion
  siteIcao : String
  flightId : String
  summary : Option String
  createdAt : Instant
  updatedAt : Instant
  deriving DecidableEq, Repr

/-- `CaseListResponse`. -/
structure CaseListResponse where
  items : List CaseListItem
  count : ℕ
  truncated : Bool
  deriving DecidableEq, Repr

/-- The arguments of `list_cases`. -/
structure CaseFilter where
  status : Option (List String) := none
  severity : Option String := none
  site : Option String := none
  region : Option Region := none
  deriving DecidableEq, Repr

/-- `customer_region = ANY([effective_region, 'all'])`, without a filter for all regions. -/
def inCaseRegion (effective : Region) (row : CaseRow) : Bool :=
  effective = .all ∨ row.customerRegion.text ∈ [effective.text, "all"]

variable (upper : String → String) (instanceUrl : Option String) (scope : Scope)

/-- The `WHERE` clause; `upper` is `str.upper`. -/
def caseWhere (effective : Region) (filter : CaseFilter) (row : CaseRow) : Bool :=
  inCaseRegion effective row ∧ row.status.text ∈ filter.status.getD defaultCaseStatuses ∧
    filter.severity.all (row.severity.text = ·) ∧ filter.site.all (row.siteIcao = upper ·)

/-- `ORDER BY created_at DESC, case_id DESC`. -/
def caseListKey (row : CaseRow) : Lex (Instantᵒᵈ × Stringᵒᵈ) :=
  toLex (OrderDual.toDual row.createdAt, OrderDual.toDual row.caseId)

/-- The item of a row. -/
def caseListItem (row : CaseRow) : CaseListItem where
  caseId := row.caseId
  salesforceId := row.salesforceId
  salesforceUrl := caseLightningUrl instanceUrl row.salesforceId
  caseType := row.caseType
  status := row.status
  severity := row.severity
  customerRegion := row.customerRegion
  siteIcao := row.siteIcao
  flightId := row.flightId
  summary := row.summary
  createdAt := row.createdAt
  updatedAt := row.updatedAt

/-- The rows `list_cases` fetches, one past the ceiling. -/
def caseListRows (effective : Region) (filter : CaseFilter) (cases : CaseTable) : List CaseRow :=
  (orderedQuery cases (caseWhere upper effective filter) caseListKey).take (caseListCeiling + 1)

/-- What it makes of them. -/
def caseListResponse (rows : List CaseRow) : CaseListResponse :=
  let kept := rows.take caseListCeiling
  { items := kept.map (caseListItem instanceUrl)
    count := kept.length
    truncated := caseListCeiling < rows.length }

/-- `QueryService.list_cases`. -/
def listCases (filter : CaseFilter) (cases : CaseTable) : Except ScopeViolation CaseListResponse :=
  (effectiveRegion scope filter.region).map fun effective =>
    caseListResponse instanceUrl (caseListRows upper effective filter cases)

/-! ### One case -/

/-- `CaseTimelineEvent`. -/
structure CaseTimelineEvent where
  eventType : String
  detail : DetectionFacts
  source : String
  actor : Option String
  occurredAt : Instant
  deriving DecidableEq, Repr

/-- `CaseDetail`. -/
structure CaseDetail where
  caseId : String
  salesforceId : Option String
  salesforceUrl : Option String
  caseType : CaseType
  status : CaseStatus
  severity : Severity
  severityJustification : Option String
  customerRegion : CustomerRegion
  siteIcao : String
  flightId : String
  summary : Option String
  detectionFacts : DetectionFacts
  runbookRefs : List String
  timeline : List CaseTimelineEvent
  createdAt : Instant
  updatedAt : Instant
  resolvedAt : Option Instant
  deriving DecidableEq, Repr

/-- `ORDER BY occurred_at ASC, event_id ASC`. -/
def timelineKey (row : TimelineRow) : Lex (Instant × ℕ) := toLex (row.occurredAt, row.eventId)

/-- The timeline of a case. -/
def caseTimeline (caseId : String) (timeline : CaseTimeline) : List CaseTimelineEvent :=
  (orderedQuery timeline (fun row => row.caseId = caseId) timelineKey).map fun row =>
    { eventType := row.eventType
      detail := row.detail
      source := row.source
      actor := row.actor
      occurredAt := row.occurredAt }

/-- The scope check of `get_case`. -/
def caseInScope (row : CaseRow) : Bool :=
  scope.region = .all ∨ row.customerRegion.text = "all" ∨
    row.customerRegion.text = scope.region.text

/-- `QueryService.get_case`. -/
def getCase (caseId : String) (cases : CaseTable) (timeline : CaseTimeline) :
    Except QueryError CaseDetail :=
  match cases.lookup caseId with
  | none     => .error (.notFound ("Case '" ++ caseId ++ "' not found"))
  | some row =>
    if caseInScope scope row then .ok
      { caseId := row.caseId
        salesforceId := row.salesforceId
        salesforceUrl := caseLightningUrl instanceUrl row.salesforceId
        caseType := row.caseType
        status := row.status
        severity := row.severity
        severityJustification := row.severityJustification
        customerRegion := row.customerRegion
        siteIcao := row.siteIcao
        flightId := row.flightId
        summary := row.summary
        detectionFacts := row.detectionFacts
        runbookRefs := row.runbookRefs
        timeline := caseTimeline caseId timeline
        createdAt := row.createdAt
        updatedAt := row.updatedAt
        resolvedAt := row.resolvedAt }
    else .error (.scopeViolation
      { message := "User scope '" ++ scope.region.text ++ "' cannot access case '" ++ caseId ++
          "' in region '" ++ row.customerRegion.text ++ "'"
        details := [("case_region", row.customerRegion.text)] })

/-! ### What a narrow scope depends on -/

/-- Two contents of the tables agree on the cases of a region or of all, and on their timelines. -/
structure AgreeOn (region : Region) (cases cases' : CaseTable) (timeline timeline' : CaseTimeline) :
    Prop where
  sameCases : ∀ row, inCaseRegion region row = true → (row ∈ cases.rows ↔ row ∈ cases'.rows)
  sameTimelines : ∀ row ∈ cases.rows, inCaseRegion region row = true → ∀ event,
    event.caseId = row.caseId → (event ∈ timeline.rows ↔ event ∈ timeline'.rows)

variable {upper instanceUrl scope} {effective : Region} {filter : CaseFilter}
  {cases cases' : CaseTable} {timeline timeline' : CaseTimeline} {row : CaseRow}
  {response : CaseListResponse}

lemma caseListKey_injective {a b : CaseRow} (h : caseListKey a = caseListKey b) :
    a.caseId = b.caseId :=
  OrderDual.toDual.injective (Prod.ext_iff.mp (toLex.injective h)).2

lemma timelineKey_injective {a b : TimelineRow} (h : timelineKey a = timelineKey b) :
    a.eventId = b.eventId := (Prod.ext_iff.mp (toLex.injective h)).2

/-- A narrow scope reads its own region or is refused. -/
lemma effectiveRegion_of_narrow (hnarrow : scope.region ≠ .all) {region : Option Region}
    (h : effectiveRegion scope region = .ok effective) : effective = scope.region := by
  cases region with
  | none => exact (Except.ok.inj h).symm
  | some r =>
    rw [effectiveRegion] at h
    split_ifs at h with hrefused
    obtain rfl := Except.ok.inj h
    by_contra hne
    exact hrefused ⟨hne, hnarrow⟩

/-- The two writings of the scope rule agree. -/
lemma inCaseRegion_eq_caseInScope : inCaseRegion scope.region row = caseInScope scope row := by
  simp [inCaseRegion, caseInScope, or_comm]

lemma getCase_isOk_iff {caseId : String} :
    (∃ detail, getCase instanceUrl scope caseId cases timeline = .ok detail) ↔
      ∃ row ∈ cases.rows, row.caseId = caseId ∧ inCaseRegion scope.region row = true := by
  rw [getCase]
  constructor
  · rintro ⟨detail, h⟩
    cases hlookup : cases.lookup caseId with
    | none =>
      rw [hlookup] at h
      cases h
    | some row =>
      simp only [hlookup] at h
      obtain ⟨hrow, hid⟩ := Table.lookup_eq_some_iff.mp hlookup
      refine ⟨row, hrow, hid, ?_⟩
      rw [inCaseRegion_eq_caseInScope]
      by_contra hscope
      rw [if_neg hscope] at h
      cases h
  · rintro ⟨row, hrow, rfl, hregion⟩
    rw [inCaseRegion_eq_caseInScope] at hregion
    simp only [Table.lookup_of_mem hrow, if_pos hregion]
    exact ⟨_, rfl⟩

/-- The list of a narrow scope depends on what it may see. -/
lemma listCases_congr (hnarrow : scope.region ≠ .all)
    (h : AgreeOn scope.region cases cases' timeline timeline') :
    listCases upper instanceUrl scope filter cases =
      listCases upper instanceUrl scope filter cases' := by
  rw [listCases, listCases]
  cases heffective : effectiveRegion scope filter.region with
  | error e => rfl
  | ok effective =>
    obtain rfl := effectiveRegion_of_narrow hnarrow heffective
    have hrows : caseListRows upper scope.region filter cases =
        caseListRows upper scope.region filter cases' := by
      rw [caseListRows, caseListRows]
      congr 1
      refine orderedQuery_congr (fun a b => caseListKey_injective) fun row hwhere => ?_
      have hregion : inCaseRegion scope.region row = true := by
        rw [caseWhere, decide_eq_true_eq] at hwhere
        exact hwhere.1
      exact h.sameCases row hregion
    simp only [Except.map, hrows]

/-- So does the read of a case it may see. -/
lemma getCase_congr (h : AgreeOn scope.region cases cases' timeline timeline')
    (hrow : row ∈ cases.rows) (hregion : inCaseRegion scope.region row = true) :
    getCase instanceUrl scope row.caseId cases timeline =
      getCase instanceUrl scope row.caseId cases' timeline' := by
  have hrow' : row ∈ cases'.rows := (h.sameCases row hregion).mp hrow
  have htimeline : caseTimeline row.caseId timeline = caseTimeline row.caseId timeline' := by
    rw [caseTimeline, caseTimeline]
    congr 1
    refine orderedQuery_congr (fun a b => timelineKey_injective) fun event hevent => ?_
    exact h.sameTimelines row hrow hregion event (of_decide_eq_true hevent)
  rw [getCase, getCase, Table.lookup_of_mem hrow, Table.lookup_of_mem hrow']
  simp only [htimeline]

/-- With all statuses the list selects by region alone. -/
lemma caseWhere_eq_inCaseRegion {statuses : List String}
    (hstatuses : ∀ row ∈ cases.rows, row.status.text ∈ statuses) (hrow : row ∈ cases.rows) :
    caseWhere upper scope.region { status := some statuses } row =
      inCaseRegion scope.region row := by
  simp [caseWhere, hstatuses row hrow]

/-- Below the ceiling the list fetches all that it selects. -/
lemma caseListRows_of_fits (upper : String → String) {statuses : List String}
    (hstatuses : ∀ row ∈ cases.rows, row.status.text ∈ statuses)
    (hfits : (cases.rows.filter (inCaseRegion scope.region)).length ≤ caseListCeiling) :
    (caseListRows upper scope.region { status := some statuses } cases).length ≤ caseListCeiling ∧
      ∀ row, row ∈ caseListRows upper scope.region { status := some statuses } cases ↔
        row ∈ cases.rows ∧ inCaseRegion scope.region row = true := by
  have hselected : cases.rows.filter (caseWhere upper scope.region { status := some statuses }) =
      cases.rows.filter (inCaseRegion scope.region) :=
    List.filter_congr fun row hrow => caseWhere_eq_inCaseRegion hstatuses hrow
  have hlength : (orderedQuery cases (caseWhere upper scope.region { status := some statuses })
      caseListKey).length ≤ caseListCeiling := by
    rw [orderedQuery, List.length_insertionSort, hselected]
    exact hfits
  rw [caseListRows, List.take_of_length_le (by omega)]
  refine ⟨hlength, fun row => ?_⟩
  rw [mem_orderedQuery]
  exact and_congr_right fun hrow => by rw [caseWhere_eq_inCaseRegion hstatuses hrow]

/-- Below the ceiling the list of all statuses has the cases in scope, all of them. -/
lemma exists_listCases {statuses : List String}
    (hstatuses : ∀ row ∈ cases.rows, row.status.text ∈ statuses)
    (hfits : (cases.rows.filter (inCaseRegion scope.region)).length ≤ caseListCeiling) :
    ∃ response,
      listCases upper instanceUrl scope { status := some statuses } cases = .ok response ∧
      response.truncated = false ∧
      ∀ caseId, (∃ item ∈ response.items, item.caseId = caseId) ↔
        ∃ row ∈ cases.rows, row.caseId = caseId ∧ inCaseRegion scope.region row = true := by
  obtain ⟨hlength, hmem⟩ := caseListRows_of_fits upper hstatuses hfits
  refine ⟨_, rfl, ?_, fun caseId => ?_⟩
  · simpa [caseListResponse] using hlength
  · simp only [caseListResponse, List.take_of_length_le hlength]
    constructor
    · rintro ⟨item, hitem, rfl⟩
      obtain ⟨row, hrow, rfl⟩ := List.mem_map.mp hitem
      obtain ⟨hrow, hregion⟩ := (hmem row).mp hrow
      exact ⟨row, hrow, rfl, hregion⟩
    · rintro ⟨row, hrow, rfl, hregion⟩
      exact ⟨_, List.mem_map_of_mem ((hmem row).mpr ⟨hrow, hregion⟩), rfl⟩

/-- A narrow scope reads nothing but the cases of its region and of all regions, with their
timelines; and for every scope with no more cases than the ceiling the list of all statuses is
answered, not truncated, with exactly the cases that a single read shows. -/
theorem case_reads_respect_scope (upper : String → String) (instanceUrl : Option String)
    (scope : Scope) :
    (scope.region ≠ .all → ∀ cases cases' timeline timeline',
      AgreeOn scope.region cases cases' timeline timeline' →
        (∀ filter, listCases upper instanceUrl scope filter cases =
          listCases upper instanceUrl scope filter cases') ∧
        ∀ row ∈ cases.rows, inCaseRegion scope.region row = true →
          getCase instanceUrl scope row.caseId cases timeline =
            getCase instanceUrl scope row.caseId cases' timeline') ∧
      ∀ cases timeline statuses, (∀ row ∈ cases.rows, row.status.text ∈ statuses) →
        (cases.rows.filter (inCaseRegion scope.region)).length ≤ caseListCeiling →
        ∃ response,
          listCases upper instanceUrl scope { status := some statuses } cases = .ok response ∧
          response.truncated = false ∧
          ∀ caseId, (∃ item ∈ response.items, item.caseId = caseId) ↔
            ∃ detail, getCase instanceUrl scope caseId cases timeline = .ok detail := by
  refine ⟨fun hnarrow cases cases' timeline timeline' h => ⟨fun filter => ?_, ?_⟩, ?_⟩
  · exact listCases_congr hnarrow h
  · intro row hrow hregion
    exact getCase_congr h hrow hregion
  · intro cases timeline statuses hstatuses hfits
    obtain ⟨response, hresponse, htruncated, hmem⟩ := exists_listCases hstatuses hfits
    refine ⟨response, hresponse, htruncated, fun caseId => ?_⟩
    rw [hmem, getCase_isOk_iff]

/-- Two tables with the same case of all regions and a different one of the east. -/
def casesOfRun (eastUpdatedAt : Instant) : CaseTable :=
  ⟨[{ sampleCase "CASE-1" 0 with customerRegion := .all }, sampleCase "CASE-2" eastUpdatedAt],
    by simp [sampleCase]⟩

def westReader : Scope := ⟨"west-ops", .west, [], []⟩

lemma agreeOn_casesOfRun : AgreeOn .west (casesOfRun 0) (casesOfRun 5) Table.empty Table.empty where
  sameCases row hregion := by
    have heast : ∀ t, row ≠ sampleCase "CASE-2" t := by
      rintro t rfl
      simp [inCaseRegion, sampleCase, Region.text, CustomerRegion.text] at hregion
    simp [casesOfRun, heast]
  sameTimelines _ _ _ _ _ := Iff.rfl

theorem west_reads_respect_scope :
    listCases id none westReader {} (casesOfRun 0) = listCases id none westReader {} (casesOfRun 5) ∧
    ∃ response, listCases id none westReader { status := some ["open"] } (casesOfRun 0) =
        .ok response ∧ response.truncated = false ∧
      ∀ caseId, (∃ item ∈ response.items, item.caseId = caseId) ↔
        ∃ detail, getCase none westReader caseId (casesOfRun 0) Table.empty = .ok detail := by
  obtain ⟨hnarrow, hall⟩ := case_reads_respect_scope id none westReader
  refine ⟨(hnarrow (by decide) _ _ _ _ agreeOn_casesOfRun).1 {}, ?_⟩
  exact hall (casesOfRun 0) Table.empty ["open"] (by decide) (by decide)

end FleetMonitor
