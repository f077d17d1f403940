import FleetMonitor.Cases.Schema
import FleetMonitor.Library.KeysetPaging
import Mathlib.Data.String.Basic

/-!
# The case feed

`GET /v1/cases/all-for-sync` serves `app.cases` in pages ordered by `(updated_at, case_id)`; the
client drains the pages and hands the rows to the case sync and to the case reconcile. The next page
starts strictly after the greatest `updated_at` of the last one, so the feed is a keyset walk whose
stamp is not a key.
-/

namespace FleetMonitor

open Library Library.KeysetPaging

/-! ### The API side -/

/-- `CaseForSync`: one row in the shape the Foundry sync ingests. -/
structure CaseForSync where
  caseId : String
  salesforceId : Option String
  salesforceUrl : Option String
  caseType : CaseType
  status : CaseStatus
  severity : Severity
  customerRegion : CustomerRegion
  siteIcao : String
  flightId : String
  subject : String
  summary : Option String
  severityJustification : Option String
  detectionFacts : DetectionFacts
  runbookRefs : List String
  createdAt : Instant
  updatedAt : Instant
  resolvedAt : Option Instant
  deriving DecidableEq, Repr

/-- `CasesForSyncPage`. -/
structure CasesForSyncPage where
  items : List CaseForSync
  nextCursor : Option Instant
  truncated : Bool
  deriving DecidableEq, Repr

/-- `CaseSyncService._row_to_case_for_sync`. -/
def rowToCaseForSync (instanceUrl : Option String) (row : CaseRow) : CaseForSync where
  caseId := row.caseId
  salesforceId := row.salesforceId
  salesforceUrl := caseLightningUrl instanceUrl row.salesforceId
  caseType := row.caseType
  status := row.status
  severity := row.severity
  customerRegion := row.customerRegion
  siteIcao := row.siteIcao
  flightId := row.flightId
  subject := formatSubject row.caseType row.siteIcao row.detectionFacts
  summary := row.summary
  severityJustification := row.severityJustification
  detectionFacts := row.detectionFacts
  runbookRefs := row.runbookRefs
  createdAt := row.createdAt
  updatedAt := row.updatedAt
  resolvedAt := row.resolvedAt

/-- `ORDER BY updated_at ASC, case_id ASC`. -/
def syncOrder (a b : CaseRow) : Prop :=
  a.updatedAt < b.updatedAt ∨ a.updatedAt = b.updatedAt ∧ a.caseId ≤ b.caseId

instance : DecidableRel syncOrder := fun a b => by
  unfold syncOrder; infer_instance

/-- `WHERE updated_at > since`, or every row without a `since`, in the order of the feed. -/
def newerRows (cases : CaseTable) (since : Option Instant) : List CaseRow :=
  (cases.rows.filter (After CaseRow.updatedAt since)).insertionSort syncOrder

/-- `CaseSyncService._fetch_for_sync`. -/
def fetchForSync (cases : CaseTable) (since : Option Instant) (limit : ℕ) : List CaseRow :=
  (newerRows cases since).take limit

/-- `CaseSyncService.list_for_sync`. -/
def listForSync (instanceUrl : Option String) (cases : CaseTable) (since : Option Instant)
    (limit : ℕ) : CasesForSyncPage :=
  let items := (fetchForSync cases since limit).map (rowToCaseForSync instanceUrl)
  { items
    nextCursor := (items.map CaseForSync.updatedAt).max?
    truncated := limit ≤ items.length }

/-! ### The client side -/

/-- The default of `page_size` in `fetch_cases_for_sync`. -/
def casesPageSize : ℕ := 500

/-- The loop of `AfmApiClient.fetch_cases_for_sync`, for at most `fuel` pages. -/
def drainPages (readPage : Option Instant → CasesForSyncPage) :
    ℕ → List CaseForSync → Option Instant → Option (List CaseForSync × Option Instant)
  | 0, _, _ => none
  | fuel + 1, items, cursor =>
    let page := readPage cursor
    let items := items ++ page.items
    let cursor := page.nextCursor.or cursor
    if page.truncated then drainPages readPage fuel items cursor else some (items, cursor)

/-- `AfmApiClient.fetch_cases_for_sync` against a table that does not change meanwhile; a table of
`k` rows is drained in at most `k + 1` pages (`fetchCasesForSync_isSome`). -/
def fetchCasesForSync (instanceUrl : Option String) (cases : CaseTable) (since : Option Instant)
    (pageSize : ℕ) : Option (List CaseForSync × Option Instant) :=
  drainPages (fun c => listForSync instanceUrl cases c pageSize) (cases.rows.length + 1) [] since

/-- The keep-set of `reconcile_cases`. -/
def keepSet (items : List CaseForSync) : List String := items.map CaseForSync.caseId

/-- `_CASE_RECONCILE_DELETE_CAP`. -/
def caseReconcileDeleteCap : ℕ := 5000

/-- The ids `reconcile_cases` deletes, for the listed tenant keys: none when the keep-set is empty,
else the first orphans in order. -/
def reconcileDeletes (keep tenant : List String) : List String :=
  if keep = [] then []
  else ((tenant.filter (· ∉ keep)).insertionSort (· ≤ ·)).take caseReconcileDeleteCap

/-! ### The feed as a keyset walk -/

instance : Std.Total syncOrder where
  total a b := by
    rcases lt_trichotomy a.updatedAt b.updatedAt with h | h | h
    · exact .inl (.inl h)
    · rcases le_total a.caseId b.caseId with h' | h'
      · exact .inl (.inr ⟨h, h'⟩)
      · exact .inr (.inr ⟨h.symm, h'⟩)
    · exact .inr (.inl h)

instance : IsTrans CaseRow syncOrder where
  trans a b c hab hbc := by
    rcases hab with hab | ⟨hab, hab'⟩ <;> rcases hbc with hbc | ⟨hbc, hbc'⟩
    · exact .inl (hab.trans hbc)
    · exact .inl (hbc ▸ hab)
    · exact .inl (hab ▸ hbc)
    · exact .inr ⟨hab.trans hbc, hab'.trans hbc'⟩

lemma syncOrder.updatedAt_le {a b : CaseRow} (h : syncOrder a b) : a.updatedAt ≤ b.updatedAt := by
  rcases h with h | ⟨h, -⟩
  · exact h.le
  · exact h.le

lemma syncOrder.caseId_eq {a b : CaseRow} (h : syncOrder a b) (h' : syncOrder b a) :
    a.caseId = b.caseId := by
  rcases h with h | ⟨h, hid⟩ <;> rcases h' with h' | ⟨h', hid'⟩
  · exact absurd (h.trans h') (lt_irrefl _)
  · exact absurd (h' ▸ h) (lt_irrefl _)
  · exact absurd (h ▸ h') (lt_irrefl _)
  · exact hid.antisymm hid'

lemma newerRows_perm (cases : CaseTable) (since : Option Instant) :
    (newerRows cases since).Perm (cases.rows.filter (After CaseRow.updatedAt since)) :=
  List.perm_insertionSort _ _

lemma mem_newerRows {cases : CaseTable} {since : Option Instant} {r : CaseRow} :
    r ∈ newerRows cases since ↔ r ∈ cases.rows ∧ After CaseRow.updatedAt since r := by
  rw [(newerRows_perm cases since).mem_iff, List.mem_filter, decide_eq_true_eq]

lemma newerRows_sorted (cases : CaseTable) (since : Option Instant) :
    KeysetPaging.Sorted CaseRow.updatedAt (newerRows cases since) :=
  (List.pairwise_insertionSort syncOrder _).imp syncOrder.updatedAt_le

/-- Two rows of a table with one id are one row. -/
lemma CaseTable.eq_of_caseId {cases : CaseTable} {a b : CaseRow} (ha : a ∈ cases.rows)
    (hb : b ∈ cases.rows) (h : a.caseId = b.caseId) : a = b :=
  Table.row_eq_of_key_eq ha hb h

/-- Selecting before or after sorting gives the same rows in the same order. -/
lemma newerRows_eq_window (cases : CaseTable) (since : Option Instant) :
    newerRows cases since = window CaseRow.updatedAt (newerRows cases none) since := by
  have hantisymm : ∀ a b, a ∈ newerRows cases since →
      b ∈ window CaseRow.updatedAt (newerRows cases none) since → syncOrder a b → syncOrder b a →
      a = b := by
    intro a b ha hb hab hba
    exact CaseTable.eq_of_caseId (mem_newerRows.mp ha).1
      (mem_newerRows.mp (mem_window.mp hb).1).1 (hab.caseId_eq hba)
  refine List.Perm.eq_of_pairwise hantisymm ?_ ?_ ?_
  · exact List.pairwise_insertionSort syncOrder _
  · exact (List.pairwise_insertionSort syncOrder _).filter _
  · refine (newerRows_perm cases since).trans ?_
    have := ((newerRows_perm cases none).filter (After CaseRow.updatedAt since)).symm
    simpa [window] using this

lemma map_updatedAt_rowToCaseForSync (url : Option String) (rs : List CaseRow) :
    (rs.map (rowToCaseForSync url)).map CaseForSync.updatedAt = rs.map CaseRow.updatedAt := by
  rw [List.map_map]
  rfl

/-- Draining the feed is walking the sorted table. -/
lemma drainPages_eq_walk (url : Option String) (cases : CaseTable) (n fuel : ℕ)
    (items : List CaseForSync) (cursor : Option Instant) :
    drainPages (fun c => listForSync url cases c n) fuel items cursor =
      (walk CaseRow.updatedAt n (newerRows cases none) fuel cursor).map
        fun w => (items ++ w.1.map (rowToCaseForSync url), w.2) := by
  induction fuel generalizing items cursor with
  | zero => rfl
  | succ fuel ih =>
    have hpage : (listForSync url cases cursor n).items =
        ((window CaseRow.updatedAt (newerRows cases none) cursor).take n).map
          (rowToCaseForSync url) := by
      rw [← newerRows_eq_window]
      rfl
    have hcur : (listForSync url cases cursor n).nextCursor.or cursor =
        advance CaseRow.updatedAt cursor
          ((window CaseRow.updatedAt (newerRows cases none) cursor).take n) := by
      have : (listForSync url cases cursor n).nextCursor =
          ((listForSync url cases cursor n).items.map CaseForSync.updatedAt).max? := rfl
      rw [this, hpage, map_updatedAt_rowToCaseForSync, advance]
    have htrunc : (listForSync url cases cursor n).truncated =
        decide (n ≤ ((window CaseRow.updatedAt (newerRows cases none) cursor).take n).length) := by
      have : (listForSync url cases cursor n).truncated =
          decide (n ≤ (listForSync url cases cursor n).items.length) := rfl
      rw [this, hpage, List.length_map]
    simp only [drainPages, walk, hpage, hcur, htrunc, decide_eq_true_eq]
    split
    next => simp [ih, Option.map_map, Function.comp_def]
    next => rfl

/-- The drain ends: `k` rows fill at most `k` pages. -/
theorem fetchCasesForSync_isSome (url : Option String) (cases : CaseTable) (since : Option Instant)
    {pageSize : ℕ} (h : 1 ≤ pageSize) :
    (fetchCasesForSync url cases since pageSize).isSome := by
  rw [fetchCasesForSync, drainPages_eq_walk, Option.isSome_map]
  refine walk_isSome h ?_
  rw [← newerRows_eq_window, (newerRows_perm cases since).length_eq]
  exact Nat.lt_succ_of_le (List.length_filter_le _ _)

/-- What a drain returns, as a walk. -/
lemma fetchCasesForSync_eq_some {url : Option String} {cases : CaseTable} {since : Option Instant}
    {n : ℕ} {items : List CaseForSync} {cursor : Option Instant}
    (h : fetchCasesForSync url cases since n = some (items, cursor)) :
    ∃ rs, walk CaseRow.updatedAt n (newerRows cases none) (cases.rows.length + 1) since =
      some (rs, cursor) ∧ items = rs.map (rowToCaseForSync url) := by
  rw [fetchCasesForSync, drainPages_eq_walk] at h
  obtain ⟨⟨rs, d⟩, hwalk, heq⟩ := Option.map_eq_some_iff.mp h
  simp only [List.nil_append, Prod.mk.injEq] at heq
  exact ⟨rs, heq.2 ▸ hwalk, heq.1.symm⟩

/-- The cursor is the greatest `updated_at` that is newer than `since`, or `since` itself. -/
theorem fetchCasesForSync_cursor {url : Option String} {cases : CaseTable} {since : Option Instant}
    {n : ℕ} (hn : 1 ≤ n) {items : List CaseForSync} {cursor : Option Instant}
    (h : fetchCasesForSync url cases since n = some (items, cursor)) :
    cursor = advance CaseRow.updatedAt since (newerRows cases since) := by
  obtain ⟨rs, hwalk, -⟩ := fetchCasesForSync_eq_some h
  rw [newerRows_eq_window, walk_cursor hn hwalk]

/-- A drain returns rows of the table that are newer than `since`, each at most once. -/
theorem fetchCasesForSync_sublist {url : Option String} {cases : CaseTable}
    {since : Option Instant} {n : ℕ} (hn : 1 ≤ n) {items : List CaseForSync}
    {cursor : Option Instant} (h : fetchCasesForSync url cases since n = some (items, cursor)) :
    items.Sublist ((newerRows cases since).map (rowToCaseForSync url)) := by
  obtain ⟨rs, hwalk, rfl⟩ := fetchCasesForSync_eq_some h
  rw [newerRows_eq_window]
  exact (walk_sublist (newerRows_sorted cases none) hn hwalk).map _

/-- Everything newer than `since` is returned exactly when the page boundaries are clean. -/
theorem fetchCasesForSync_complete_iff {url : Option String} {cases : CaseTable}
    {since : Option Instant} {n : ℕ} (hn : 1 ≤ n) {items : List CaseForSync}
    {cursor : Option Instant} (h : fetchCasesForSync url cases since n = some (items, cursor)) :
    items.Perm ((newerRows cases since).map (rowToCaseForSync url)) ↔
      CleanBoundaries CaseRow.updatedAt n (newerRows cases since) := by
  obtain ⟨rs, hwalk, rfl⟩ := fetchCasesForSync_eq_some h
  have hsub := walk_sublist (newerRows_sorted cases none) hn hwalk
  have hiff := walk_complete_iff (newerRows_sorted cases none) hn hwalk
  rw [← newerRows_eq_window] at hsub hiff
  rw [← hiff]
  constructor
  · intro hperm
    have hlen := hperm.length_eq
    rw [List.length_map, List.length_map] at hlen
    exact hsub.eq_of_length hlen
  · rintro rfl
    exact .refl _

/-! ### What the reconcile deletes -/

lemma mem_reconcileDeletes {keep tenant : List String} {id : String}
    (h : id ∈ reconcileDeletes keep tenant) : id ∈ tenant ∧ id ∉ keep := by
  unfold reconcileDeletes at h
  split at h
  next => simp at h
  next =>
    have := (List.perm_insertionSort (· ≤ ·) _).mem_iff.mp (List.mem_of_mem_take h)
    simpa using this

/-- What the feed owes its callers: the drain ends with every row newer than `since` exactly once
and with the greatest `updated_at`; a full drain keeps every case of the table. -/
def DrainsFeed (url : Option String) (cases : CaseTable) (since : Option Instant)
    (pageSize : ℕ) : Prop :=
  ∃ items cursor, fetchCasesForSync url cases since pageSize = some (items, cursor) ∧
    items.Perm ((cases.rows.filter (After CaseRow.updatedAt since)).map (rowToCaseForSync url)) ∧
    cursor = advance CaseRow.updatedAt since
      (cases.rows.filter (After CaseRow.updatedAt since)) ∧
    (since = none → (∀ id ∈ cases.keys, id ∈ keepSet items) ∧
      ∀ tenant, ∀ id ∈ reconcileDeletes (keepSet items) tenant, id ∉ cases.keys)

/-- The feed keeps its contract exactly when no page boundary falls between two rows that share
their `updated_at`. -/
theorem drainsFeed_iff (url : Option String) (cases : CaseTable) (since : Option Instant)
    (pageSize : ℕ) (h : 1 ≤ pageSize) :
    DrainsFeed url cases since pageSize ↔
      CleanBoundaries CaseRow.updatedAt pageSize (newerRows cases since) := by
  have hperm := (newerRows_perm cases since).map (rowToCaseForSync url)
  constructor
  · rintro ⟨items, cursor, hfetch, hitems, -⟩
    exact (fetchCasesForSync_complete_iff h hfetch).mp (hitems.trans hperm.symm)
  · intro hclean
    obtain ⟨⟨items, cursor⟩, hfetch⟩ :=
      Option.isSome_iff_exists.mp (fetchCasesForSync_isSome url cases since h)
    have hitems := (fetchCasesForSync_complete_iff h hfetch).mpr hclean
    refine ⟨items, cursor, hfetch, hitems.trans hperm, ?_, ?_⟩
    · rw [fetchCasesForSync_cursor h hfetch]
      exact advance_perm (newerRows_perm cases since)
    · rintro rfl
      have hkeep : ∀ id ∈ cases.keys, id ∈ keepSet items := by
        intro id hid
        obtain ⟨r, hr, rfl⟩ := List.mem_map.mp hid
        have hmem := hitems.mem_iff.mpr
          (List.mem_map_of_mem (mem_newerRows.mpr ⟨hr, after_none r⟩))
        exact List.mem_map_of_mem (f := CaseForSync.caseId) hmem
      exact ⟨hkeep, fun tenant id hid hrow => (mem_reconcileDeletes hid).2 (hkeep id hrow)⟩

/-! ### A tie at a page boundary -/

/-- Three cases, the last two of them written in one transaction. -/
def tiedCases : CaseTable where
  rows := [sampleCase "CASE-2026-000001" 10, sampleCase "CASE-2026-000002" 20,
    sampleCase "CASE-2026-000003" 20]
  nodup := by decide

lemma keepSet_tiedCases : (fetchCasesForSync none tiedCases none 2).map (fun p => keepSet p.1) =
    some ["CASE-2026-000001", "CASE-2026-000002"] := by
  decide

/-- With two rows a page the third case is never read. -/
theorem tiedCases_not_drainsFeed : ¬ DrainsFeed none tiedCases none 2 := by
  rintro ⟨items, cursor, hfetch, -, -, hkeep⟩
  have hitems := keepSet_tiedCases
  rw [hfetch, Option.map_some, Option.some.injEq] at hitems
  have hthird := (hkeep rfl).1 "CASE-2026-000003" (by decide)
  simp [hitems] at hthird

/-- The reconcile then evicts it, although it is in the table. -/
example : (fetchCasesForSync none tiedCases none 2).map
    (fun p => reconcileDeletes (keepSet p.1) tiedCases.keys) = some ["CASE-2026-000003"] := by
  decide

theorem drainsFeed_iff_tiedCases : DrainsFeed none tiedCases none 2 ↔
    CleanBoundaries CaseRow.updatedAt 2 (newerRows tiedCases none) :=
  drainsFeed_iff none tiedCases none 2 (by decide)

end FleetMonitor
