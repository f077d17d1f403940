import FleetMonitor.Cases.Pull
import FleetMonitor.Salesforce.Replies
import Mathlib.Data.List.Sort

/-!
# The push

`CaseSyncService.push_pending`: every pending row is submitted to Salesforce and then marked in the
database as synced, to be retried, or failed. The loop catches the exceptions of the application's
own hierarchy only; any other exception ends the pass.
-/

namespace FleetMonitor

open Library

/-! ### One row -/

/-- `MAX_ATTEMPTS`. -/
def maxAttempts : ℕ := 5

/-- `_SEVERITY_TO_PRIORITY.get(severity, "Medium")`. -/
def severityToPriority : Severity → SfPriority
  | .low      => .low
  | .medium   => .medium
  | .high     => .high
  | .critical => .high
  | .other _  => .medium

/-- The validation of `CaseCreateInput.customer_region`. -/
def validRegion : CustomerRegion → Option Region
  | .west    => some .west
  | .east    => some .east
  | .all     => some .all
  | .other _ => none

/-- `CaseSyncService._to_payload`. -/
def toPayload (row : CaseRow) : Except PyException CaseCreateInput :=
  match validRegion row.customerRegion with
  | none => .error .validationError
  | some region => .ok
    { externalId := row.caseId
      subject := formatSubject row.caseType row.siteIcao row.detectionFacts
      priority := some (severityToPriority row.severity)
      flightId := some row.flightId
      siteIcao := if row.siteIcao = "" then none else some row.siteIcao
      customerRegion := some region
      caseType := some row.caseType
      detectionFacts := row.detectionFacts
      runbookRefs := row.runbookRefs }

/-- What the push writes about a row: `_mark_synced`, `_mark_retry` or `_mark_failed`. -/
inductive Mark where
  | synced (salesforceId : String) (attempts : ℕ)
  | retry (attempts : ℕ) (error : String)
  | failed (attempts : ℕ) (error : String)
  deriving DecidableEq, Repr

/-- The UPDATE of a mark. -/
def markRow (now : Instant) : Mark → CaseRow → CaseRow
  | .synced salesforceId attempts, row =>
    { row with
      salesforceId := some salesforceId
      sfSyncStatus := .synced
      sfSyncAttempts := attempts
      sfSyncLastError := none
      updatedAt := now }
  | .retry attempts error, row =>
    { row with sfSyncAttempts := attempts, sfSyncLastError := some error, updatedAt := now }
  | .failed attempts error, row =>
    { row with
      sfSyncStatus := .failed
      sfSyncAttempts := attempts
      sfSyncLastError := some error
      updatedAt := now }

/-- The status a pending row has after a mark. -/
def Mark.status : Mark → SfSyncStatus
  | .synced _ _ => .synced
  | .retry _ _  => .pending
  | .failed _ _ => .failed

@[simp] lemma Mark.status_synced (id : String) (n : ℕ) : (Mark.synced id n).status = .synced := rfl

@[simp] lemma Mark.status_retry (n : ℕ) (error : String) : (Mark.retry n error).status = .pending :=
  rfl

@[simp] lemma Mark.status_failed (n : ℕ) (error : String) :
    (Mark.failed n error).status = .failed :=
  rfl

/-- The timeline entry of a mark. -/
def markEvent : Mark → TimelineEvent
  | .synced salesforceId _ => .sfSynced salesforceId
  | .retry attempts error  => .sfSyncRetry attempts error
  | .failed attempts error => .sfSyncFailed attempts error

/-- Another row than that of the case has the Salesforce id. -/
def IdHeldElsewhere (cases : CaseTable) (caseId salesforceId : String) : Prop :=
  ∃ r ∈ cases.rows, r.caseId ≠ caseId ∧ r.salesforceId = some salesforceId

instance (cases : CaseTable) (caseId salesforceId : String) :
    Decidable (IdHeldElsewhere cases caseId salesforceId) :=
  inferInstanceAs (Decidable (∃ r ∈ cases.rows, r.caseId ≠ caseId ∧ _ = _))

/-- The UNIQUE constraint on `salesforce_id` rejects the mark. -/
def MarkRejected (cases : CaseTable) (caseId : String) : Mark → Prop
  | .synced salesforceId _ => IdHeldElsewhere cases caseId salesforceId
  | .retry _ _             => False
  | .failed _ _            => False

instance (cases : CaseTable) (caseId : String) (mark : Mark) :
    Decidable (MarkRejected cases caseId mark) :=
  match mark with
  | .synced _ _ => inferInstanceAs (Decidable (IdHeldElsewhere _ _ _))
  | .retry _ _  => inferInstanceAs (Decidable False)
  | .failed _ _ => inferInstanceAs (Decidable False)

/-- The transaction of a mark; `none` when the database rejects it (the row is gone, which the
timeline's foreign key notices, or its new Salesforce id is taken). -/
def markCase (now : Instant) (caseId : String) (mark : Mark) (db : CaseDb) : Option CaseDb :=
  match db.cases.lookup caseId with
  | none => none
  | some row =>
    if MarkRejected db.cases caseId mark then none
    else some
      { cases := db.cases.upsert (markRow now mark row)
        timeline := db.timeline ++ [(caseId, markEvent mark)] }

/-- The `except` clauses of the push loop: what is written about a row after `create_case`, or the
exception that none of them catches. -/
def markFor (attempts : ℕ) : Except PyException SalesforceCaseRef → Except PyException Mark
  | .ok ref => .ok (.synced ref.salesforceId attempts)
  | .error (.upstreamUnavailable message) =>
    if maxAttempts ≤ attempts then .ok (.failed attempts ("max attempts: " ++ message))
    else .ok (.retry attempts message)
  | .error (.badRequest message) => .ok (.failed attempts message)
  | .error e => .error e

/-! ### A pass -/

/-- What the loop did with one row. -/
structure PushEntry where
  row : CaseRow
  outcome : Except PyException SalesforceCaseRef
  mark : Mark

/-- The variables of the loop of `_push_pending_locked`; `log` is for the specification. -/
structure PushState where
  db : CaseDb
  service : SfService
  synced : ℕ := 0
  retrying : ℕ := 0
  failed : ℕ := 0
  log : List PushEntry := []

/-- `CaseSyncSummary`. -/
structure CaseSyncSummary where
  attempted : ℕ
  synced : ℕ
  retrying : ℕ
  failed : ℕ
  deriving DecidableEq, Repr

/-- Count a mark. -/
def PushState.record (st : PushState) (service : SfService) (db : CaseDb) (entry : PushEntry) :
    PushState :=
  { db
    service
    synced := match entry.mark with | .synced _ _ => st.synced + 1 | _ => st.synced
    retrying := match entry.mark with | .retry _ _ => st.retrying + 1 | _ => st.retrying
    failed := match entry.mark with | .failed _ _ => st.failed + 1 | _ => st.failed
    log := st.log ++ [entry] }

variable (sf : SfClient) (now : String → Instant)

/-- One turn of the loop; `now` gives the time of the transaction that marks a case. -/
def pushRow (row : CaseRow) (st : PushState) : Except PyException Unit × PushState :=
  match toPayload row with
  | .error e => (.error e, st)
  | .ok payload =>
    let created := createCase sf payload st.service
    match markFor (row.sfSyncAttempts + 1) created.1 with
    | .error e => (.error e, { st with service := created.2 })
    | .ok mark =>
      match markCase (now row.caseId) row.caseId mark st.db with
      | none    => (.error .integrityError, { st with service := created.2 })
      | some db => (.ok (), st.record created.2 db ⟨row, created.1, mark⟩)

/-- The loop over the fetched rows. -/
def pushRows : List CaseRow → PushState → Except PyException Unit × PushState
  | [], st => (.ok (), st)
  | row :: rows, st =>
    match pushRow sf now row st with
    | (.ok _, st')    => pushRows rows st'
    | (.error e, st') => (.error e, st')

/-- `CaseSyncService._push_pending_locked` after its fetch. -/
def pushFetched (rows : List CaseRow) (db : CaseDb) (service : SfService) :
    Except PyException CaseSyncSummary × PushState :=
  match pushRows sf now rows { db, service } with
  | (.ok _, st)    => (.ok ⟨rows.length, st.synced, st.retrying, st.failed⟩, st)
  | (.error e, st) => (.error e, st)

/-- `CaseSyncService._fetch_pending`. -/
def fetchPending (cases : CaseTable) (limit : ℕ) : List CaseRow :=
  ((cases.rows.filter fun r => r.sfSyncStatus = .pending).insertionSort
    fun a b => a.createdAt ≤ b.createdAt).take limit

/-- `CaseSyncService.push_pending`: a pass that does not get the advisory lock is a skip. -/
def pushPending (locked : Bool) (limit : ℕ) (db : CaseDb) (service : SfService) :
    Except PyException CaseSyncSummary × PushState :=
  if locked then pushFetched sf now (fetchPending db.cases limit) db service
  else (.ok ⟨0, 0, 0, 0⟩, { db, service })

/-! ### Marks -/

variable {sf now} {row : CaseRow} {mark : Mark} {db db' : CaseDb} {caseId : String} {t : Instant}

@[simp] lemma markRow_caseId : (markRow t mark row).caseId = row.caseId := by
  cases mark <;> rfl

lemma markCase_eq_some (h : markCase t caseId mark db = some db') :
    ∃ row, db.cases.lookup caseId = some row ∧ ¬ MarkRejected db.cases caseId mark ∧
      db'.cases = db.cases.upsert (markRow t mark row) := by
  rw [markCase] at h
  split at h
  next => simp at h
  next row hrow =>
    split_ifs at h with hrej
    exact ⟨row, hrow, hrej, by rw [← Option.some.inj h]⟩

/-- A mark writes the row of its case and no other. -/
lemma lookup_markCase (h : markCase t caseId mark db = some db') (k : String) :
    db'.cases.lookup k =
      if caseId = k then (db.cases.lookup k).map (markRow t mark) else db.cases.lookup k := by
  obtain ⟨row, hrow, -, hcases⟩ := markCase_eq_some h
  rw [hcases, Table.lookup_upsert, markRow_caseId, Table.key_of_lookup hrow]
  split_ifs with hk
  · rw [← hk, hrow, Option.map_some]
  · rfl

/-- What the documentation says a row's mark is, given how `create_case` ended. -/
inductive Classified (e : PushEntry) : Prop where
  | synced (ref : SalesforceCaseRef) (hout : e.outcome = .ok ref)
      (hmark : e.mark = .synced ref.salesforceId (e.row.sfSyncAttempts + 1))
  | retry (message : String) (hout : e.outcome = .error (.upstreamUnavailable message))
      (hlt : e.row.sfSyncAttempts + 1 < maxAttempts)
      (hmark : e.mark = .retry (e.row.sfSyncAttempts + 1) message)
  | exhausted (message : String) (hout : e.outcome = .error (.upstreamUnavailable message))
      (hge : maxAttempts ≤ e.row.sfSyncAttempts + 1)
      (hmark : e.mark = .failed (e.row.sfSyncAttempts + 1) ("max attempts: " ++ message))
  | permanent (message : String) (hout : e.outcome = .error (.badRequest message))
      (hmark : e.mark = .failed (e.row.sfSyncAttempts + 1) message)

lemma Classified.of_markFor {out : Except PyException SalesforceCaseRef}
    (h : markFor (row.sfSyncAttempts + 1) out = .ok mark) : Classified ⟨row, out, mark⟩ := by
  unfold markFor at h
  split at h
  next ref => exact .synced ref rfl (Except.ok.inj h).symm
  next message =>
    split_ifs at h with hmax
    · exact .exhausted message rfl hmax (Except.ok.inj h).symm
    · exact .retry message rfl (not_le.mp hmax) (Except.ok.inj h).symm
  next message => exact .permanent message rfl (Except.ok.inj h).symm
  next => simp at h

/-! ### When a row is marked -/

/-- The mark a settlement asks for. -/
def MarksAs (row : CaseRow) : Settlement → Mark → Prop
  | .gives salesforceId, mark => mark = .synced salesforceId (row.sfSyncAttempts + 1)
  | .transient, mark =>
    if row.sfSyncAttempts + 1 < maxAttempts then
      ∃ error, mark = .retry (row.sfSyncAttempts + 1) error
    else ∃ error, mark = .failed (row.sfSyncAttempts + 1) error
  | .permanent, mark => ∃ error, mark = .failed (row.sfSyncAttempts + 1) error

/-- A row is marked as the replies made for it say. -/
def SettledEntry (replies : CaseReplies) (e : PushEntry) : Prop :=
  ∃ settlement, replies.settlement = some settlement ∧ MarksAs e.row settlement e.mark

/-- The cases that have a Salesforce id, with it. -/
def heldIds (cases : CaseTable) : List (String × String) :=
  cases.rows.filterMap fun r => r.salesforceId.map fun id => (r.caseId, id)

def giveId (caseId salesforceId : String) (held : List (String × String)) :
    List (String × String) :=
  (caseId, salesforceId) :: held.filter (·.1 ≠ caseId)

/-- No id that Salesforce gives is another case's by then. -/
def IdsFree : List (CaseRow × CaseReplies) → List (String × String) → Prop
  | [], _ => True
  | (row, replies) :: rest, held =>
    match replies.settlement with
    | some (.gives id) =>
      (∀ h ∈ held, h.2 = id → h.1 = row.caseId) ∧ IdsFree rest (giveId row.caseId id held)
    | _ => IdsFree rest held

instance instDecidableIdsFree : ∀ pairs held, Decidable (IdsFree pairs held)
  | [], _                     => .isTrue trivial
  | (row, replies) :: rest, _ => by
    have := instDecidableIdsFree rest
    unfold IdsFree
    split <;> infer_instance

/-- The condition on a batch: the regions are known, no call made for a row ends in an exception the
push does not catch, and the ids Salesforce gives are free. -/
structure CoveredBatch (sf : SfClient) (rows : List CaseRow) (cases : CaseTable)
    (service : SfService) : Prop where
  regions : ∀ row ∈ rows, validRegion row.customerRegion ≠ none
  replies : ∀ r ∈ repliesFor sf rows.length service, r.Covered
  ids : IdsFree (rows.zip (repliesFor sf rows.length service)) (heldIds cases)

variable {s : SfService} {cases : CaseTable} {st st' : PushState} {rows : List CaseRow}
  {settlement : Option Settlement} {out : Except PyException SalesforceCaseRef}
  {externalId salesforceId : String} {held : List (String × String)}

lemma markFor_settled (h : SettledAs externalId settlement out)
    (hmark : markFor (row.sfSyncAttempts + 1) out = .ok mark) :
    ∃ s, settlement = some s ∧ MarksAs row s mark := by
  cases settlement with
  | none =>
    obtain ⟨e, rfl, hafm⟩ := h
    cases e <;> simp [PyException.isAfm] at hafm <;> simp [markFor] at hmark
  | some s =>
    refine ⟨s, rfl, ?_⟩
    cases s with
    | gives id =>
      obtain rfl : out = _ := h
      exact (Except.ok.inj hmark).symm
    | transient =>
      obtain ⟨message, rfl⟩ := h
      simp only [markFor] at hmark
      simp only [MarksAs]
      by_cases hmax : maxAttempts ≤ row.sfSyncAttempts + 1
      · rw [if_pos hmax] at hmark
        rw [if_neg (not_lt.mpr hmax)]
        exact ⟨_, (Except.ok.inj hmark).symm⟩
      · rw [if_neg hmax] at hmark
        rw [if_pos (not_le.mp hmax)]
        exact ⟨_, (Except.ok.inj hmark).symm⟩
    | permanent =>
      obtain ⟨message, rfl⟩ := h
      exact ⟨message, (Except.ok.inj hmark).symm⟩

/-- A settled outcome can be marked. -/
lemma exists_markFor (h : SettledAs externalId settlement out) (hsome : settlement ≠ none)
    (attempts : ℕ) : ∃ mark, markFor attempts out = .ok mark := by
  obtain ⟨s, rfl⟩ := Option.ne_none_iff_exists'.mp hsome
  cases s with
  | gives id =>
    obtain rfl : out = _ := h
    exact ⟨_, rfl⟩
  | transient =>
    obtain ⟨message, rfl⟩ := h
    by_cases hmax : maxAttempts ≤ attempts <;> simp [markFor, hmax]
  | permanent =>
    obtain ⟨message, rfl⟩ := h
    exact ⟨_, rfl⟩

lemma mem_heldIds {k : String} : (k, salesforceId) ∈ heldIds cases ↔
    ∃ r ∈ cases.rows, r.caseId = k ∧ r.salesforceId = some salesforceId := by
  simp [heldIds, List.mem_filterMap]
  tauto

/-- What one turn of the loop does when it ends normally. -/
lemma pushRow_ok (h : pushRow sf now row st = (.ok (), st')) : ∃ out mark db,
    markFor (row.sfSyncAttempts + 1) out = .ok mark ∧
    markCase (now row.caseId) row.caseId mark st.db = some db ∧
    st'.db = db ∧ st' = st.record st'.service db ⟨row, out, mark⟩ := by
  rw [pushRow] at h
  split at h
  next => simp at h
  next payload hpayload =>
    simp only at h
    split at h
    next => simp at h
    next mark hmark =>
      split at h
      next => simp at h
      next db hdb =>
        simp only [Prod.mk.injEq, true_and] at h
        exact ⟨_, mark, db, hmark, hdb, h ▸ rfl, h ▸ rfl⟩

lemma toPayload_isOk_iff :
    (∃ payload, toPayload row = .ok payload) ↔ validRegion row.customerRegion ≠ none := by
  rw [toPayload]
  cases validRegion row.customerRegion <;> simp

lemma markCase_isSome_iff (hrow : db.cases.lookup caseId ≠ none) :
    (∃ db', markCase t caseId mark db = some db') ↔ ¬ MarkRejected db.cases caseId mark := by
  obtain ⟨row, hrow⟩ := Option.ne_none_iff_exists'.mp hrow
  rw [markCase]
  rw [hrow]
  by_cases hrej : MarkRejected db.cases caseId mark <;> simp [hrej]

/-- Of the marks only that of a synced row can be rejected. -/
lemma markRejected_iff (cases : CaseTable) (caseId : String) {s : Settlement}
    (h : MarksAs row s mark) :
    MarkRejected cases caseId mark ↔
      ∃ id, s = .gives id ∧ IdHeldElsewhere cases caseId id := by
  cases s with
  | gives id =>
    obtain rfl : mark = _ := h
    simp [MarkRejected]
  | transient =>
    simp only [MarksAs] at h
    split_ifs at h <;> obtain ⟨error, rfl⟩ := h <;> simp [MarkRejected]
  | permanent =>
    obtain ⟨error, rfl⟩ := h
    simp [MarkRejected]

/-- A turn ends normally exactly when its row is covered, with an id that is free. -/
lemma pushRow_ok_iff (sf : SfClient) (now : String → Instant)
    (hrow : st.db.cases.lookup row.caseId ≠ none) :
    (pushRow sf now row st).1 = .ok () ↔ validRegion row.customerRegion ≠ none ∧
      (caseReplies sf st.service).1.Covered ∧
      ∀ id, (caseReplies sf st.service).1.settlement = some (.gives id) →
        ¬IdHeldElsewhere st.db.cases row.caseId id := by
  unfold pushRow
  cases hpayload : toPayload row with
  | error e =>
    have hregion : validRegion row.customerRegion = none := by
      by_contra h
      obtain ⟨p, hp⟩ := toPayload_isOk_iff.mpr h
      simp [hp] at hpayload
    simp [hregion]
  | ok payload =>
    have hsettled := (createCase_settled sf payload st.service).1
    rw [and_iff_right (toPayload_isOk_iff.mp ⟨payload, hpayload⟩), ← caseReplies_covered_iff]
    simp only
    cases hmark : markFor (row.sfSyncAttempts + 1) (createCase sf payload st.service).1 with
    | error e =>
      refine iff_of_false (by simp) fun h => ?_
      obtain ⟨mark, hok⟩ := exists_markFor hsettled h.1 (row.sfSyncAttempts + 1)
      simp [hok] at hmark
    | ok mark =>
      obtain ⟨s, hs, hmarks⟩ := markFor_settled hsettled hmark
      have hrejected := markRejected_iff st.db.cases row.caseId hmarks
      have hfree : (∀ id, (caseReplies sf st.service).1.settlement = some (.gives id) →
          ¬IdHeldElsewhere st.db.cases row.caseId id) ↔
          ¬MarkRejected st.db.cases row.caseId mark := by
        rw [hrejected, hs]
        simp
      rw [hfree, ← markCase_isSome_iff hrow (t := now row.caseId)]
      simp only [hs, ne_eq, reduceCtorEq, not_false_eq_true, true_and]
      cases markCase (now row.caseId) row.caseId mark st.db <;> simp

/-- The ids that are held after a turn. -/
def heldAfter (row : CaseRow) (replies : CaseReplies) (held : List (String × String)) :
    List (String × String) :=
  match replies.settlement with
  | some (.gives id) => giveId row.caseId id held
  | _                => held

/-- The list has the cases with a Salesforce id. -/
def Holds (held : List (String × String)) (cases : CaseTable) : Prop :=
  ∀ k id, (k, id) ∈ held ↔ (k, id) ∈ heldIds cases

lemma holds_heldIds (cases : CaseTable) : Holds (heldIds cases) cases := fun _ _ => Iff.rfl

lemma Holds.elsewhere_iff (h : Holds held cases) :
    ¬IdHeldElsewhere cases caseId salesforceId ↔
      ∀ x ∈ held, x.2 = salesforceId → x.1 = caseId := by
  constructor
  · rintro hfree ⟨k, id⟩ hx rfl
    obtain ⟨r, hr, rfl, hid⟩ := mem_heldIds.mp ((h k id).mp hx)
    by_contra hne
    exact hfree ⟨r, hr, hne, hid⟩
  · rintro hall ⟨r, hr, hne, hid⟩
    exact hne (hall (r.caseId, salesforceId) ((h _ _).mpr (mem_heldIds.mpr ⟨r, hr, rfl, hid⟩)) rfl)

lemma mem_heldIds_upsert {r : CaseRow} {k : String} :
    (k, salesforceId) ∈ heldIds (cases.upsert r) ↔
      r.caseId = k ∧ r.salesforceId = some salesforceId ∨
        (k, salesforceId) ∈ heldIds cases ∧ k ≠ r.caseId := by
  rw [mem_heldIds, mem_heldIds]
  constructor
  · rintro ⟨x, hx, rfl, hid⟩
    rcases Table.mem_rows_upsert.mp hx with rfl | ⟨hx, hne⟩
    · exact .inl ⟨rfl, hid⟩
    · exact .inr ⟨⟨x, hx, rfl, hid⟩, hne⟩
  · rintro (⟨rfl, hid⟩ | ⟨⟨x, hx, rfl, hid⟩, hne⟩)
    · exact ⟨r, Table.mem_rows_upsert.mpr (.inl rfl), rfl, hid⟩
    · exact ⟨x, Table.mem_rows_upsert.mpr (.inr ⟨hx, hne⟩), rfl, hid⟩

lemma mem_heldIds_of_mem {k : String} (hrow : row ∈ cases.rows) :
    (row.caseId = k ∧ row.salesforceId = some salesforceId ∨
      (k, salesforceId) ∈ heldIds cases ∧ k ≠ row.caseId) ↔ (k, salesforceId) ∈ heldIds cases := by
  rw [mem_heldIds]
  constructor
  · rintro (⟨rfl, hid⟩ | ⟨hheld, -⟩)
    · exact ⟨row, hrow, rfl, hid⟩
    · exact hheld
  · rintro ⟨x, hx, rfl, hid⟩
    by_cases hkey : x.caseId = row.caseId
    · obtain rfl := Table.row_eq_of_key_eq hx hrow hkey
      exact .inl ⟨rfl, hid⟩
    · exact .inr ⟨⟨x, hx, rfl, hid⟩, hkey⟩

/-- A row that is not synced keeps the id it has. -/
lemma salesforceId_markRow {s : Settlement} (h : MarksAs row s mark)
    (hs : ∀ id, s ≠ .gives id) : (markRow t mark row).salesforceId = row.salesforceId := by
  cases s with
  | gives id => exact absurd rfl (hs id)
  | transient =>
    simp only [MarksAs] at h
    split_ifs at h <;> obtain ⟨error, rfl⟩ := h <;> rfl
  | permanent =>
    obtain ⟨error, rfl⟩ := h
    rfl

/-- What one turn that ends normally writes down. -/
lemma pushRow_settled (h : pushRow sf now row st = (.ok (), st'))
    (hheld : Holds held st.db.cases) (hrow : st.db.cases.lookup row.caseId = some row) :
    st'.service = (caseReplies sf st.service).2 ∧
      (∃ entry, st'.log = st.log ++ [entry] ∧ SettledEntry (caseReplies sf st.service).1 entry) ∧
      Holds (heldAfter row (caseReplies sf st.service).1 held) st'.db.cases := by
  rw [pushRow] at h
  split at h
  next => simp at h
  next payload hpayload =>
    obtain ⟨hsettled, hservice⟩ := createCase_settled sf payload st.service
    simp only at h
    split at h
    next => simp at h
    next mark hmark =>
      split at h
      next => simp at h
      next db hdb =>
        obtain ⟨-, rfl⟩ := Prod.mk.inj h
        obtain ⟨s, hs, hmarks⟩ := markFor_settled hsettled hmark
        refine ⟨hservice, ⟨_, rfl, s, hs, hmarks⟩, fun k id => ?_⟩
        obtain ⟨row', hrow', -, hcases⟩ := markCase_eq_some hdb
        obtain rfl := Option.some.inj (hrow.symm.trans hrow')
        show _ ↔ (k, id) ∈ heldIds db.cases
        have hmem : row ∈ st.db.cases.rows := Table.mem_rows_of_lookup hrow
        rw [hcases, mem_heldIds_upsert, markRow_caseId, heldAfter, hs]
        cases s with
        | gives id' =>
          obtain rfl : mark = _ := hmarks
          simp only [giveId, List.mem_cons, List.mem_filter, decide_eq_true_eq, Prod.mk.injEq,
            hheld k id, markRow, Option.some.injEq]
          tauto
        | transient =>
          simp only [hheld k id, salesforceId_markRow hmarks (by simp), mem_heldIds_of_mem hmem]
        | permanent =>
          simp only [hheld k id, salesforceId_markRow hmarks (by simp), mem_heldIds_of_mem hmem]

/-! ### A whole pass -/

lemma markRow_status (h : row.sfSyncStatus = .pending) :
    (markRow t mark row).sfSyncStatus = mark.status := by
  cases mark with
  | synced id attempts => rfl
  | retry attempts error => exact h
  | failed attempts error => rfl

/-- A turn keeps the rows of the other cases. -/
lemma lookup_pushRow (h : pushRow sf now row st = (.ok (), st')) {k : String}
    (hk : row.caseId ≠ k) :
    st'.db.cases.lookup k = st.db.cases.lookup k := by
  obtain ⟨out, mark, db, -, hdb, rfl, -⟩ := pushRow_ok h
  rw [lookup_markCase hdb, if_neg hk]

/-- The rows are rows of the table that wait for a push, each listed once. -/
structure PendingBatch (cases : CaseTable) (rows : List CaseRow) : Prop where
  lookup : ∀ r ∈ rows, cases.lookup r.caseId = some r
  pending : ∀ r ∈ rows, r.sfSyncStatus = .pending
  nodup : (rows.map CaseRow.caseId).Nodup

/-- What the fetch returns is such a batch. -/
lemma pendingBatch_fetchPending (cases : CaseTable) (limit : ℕ) :
    PendingBatch cases (fetchPending cases limit) := by
  have hmem : ∀ r ∈ fetchPending cases limit, r ∈ cases.rows ∧ r.sfSyncStatus = .pending := by
    intro r hr
    have := (List.perm_insertionSort _ _).mem_iff.mp (List.mem_of_mem_take hr)
    simpa using this
  refine ⟨fun r hr => Table.lookup_of_mem (hmem r hr).1, fun r hr => (hmem r hr).2, ?_⟩
  refine ((List.take_sublist _ _).map _).nodup ?_
  exact (((List.perm_insertionSort _ _).map _).nodup_iff).mpr
    ((List.filter_sublist.map _).nodup cases.nodup)

lemma PendingBatch.tail (h : PendingBatch st.db.cases (row :: rows))
    (hpush : pushRow sf now row st = (.ok (), st')) : PendingBatch st'.db.cases rows := by
  have hnodup := List.nodup_cons.mp h.nodup
  refine ⟨fun r hr => ?_, fun r hr => h.pending r (List.mem_cons_of_mem _ hr), hnodup.2⟩
  have hne : row.caseId ≠ r.caseId := by
    intro he
    exact hnodup.1 (he ▸ List.mem_map_of_mem hr)
  rw [lookup_pushRow hpush hne, h.lookup r (List.mem_cons_of_mem _ hr)]

/-- The ids of a batch are free when the first is, and the others are after it. -/
lemma idsFree_cons_iff {replies : CaseReplies} {rest : List (CaseRow × CaseReplies)} :
    IdsFree ((row, replies) :: rest) held ↔
      (∀ id, replies.settlement = some (.gives id) → ∀ x ∈ held, x.2 = id → x.1 = row.caseId) ∧
        IdsFree rest (heldAfter row replies held) := by
  rw [IdsFree, heldAfter]
  split
  next id hid => simp [hid]
  next hne =>
    refine ⟨fun h => ⟨fun id hid => absurd hid (hne id), h⟩, And.right⟩

/-- The loop ends normally exactly when the batch is covered. -/
lemma pushRows_ok_iff (h : PendingBatch st.db.cases rows) (hheld : Holds held st.db.cases) :
    (pushRows sf now rows st).1 = .ok () ↔
      (∀ row ∈ rows, validRegion row.customerRegion ≠ none) ∧
        (∀ r ∈ repliesFor sf rows.length st.service, r.Covered) ∧
        IdsFree (rows.zip (repliesFor sf rows.length st.service)) held := by
  induction rows generalizing st held with
  | nil => simp [pushRows, repliesFor, IdsFree]
  | cons row rows ih =>
    have hrow := h.lookup row List.mem_cons_self
    have hknown : st.db.cases.lookup row.caseId ≠ none := by simp [hrow]
    have hiff := pushRow_ok_iff sf now hknown
    simp only [hheld.elsewhere_iff] at hiff
    rw [List.length_cons, repliesFor, List.zip_cons_cons, idsFree_cons_iff, List.forall_mem_cons,
      List.forall_mem_cons, pushRows]
    rcases hpush : pushRow sf now row st with ⟨e | ⟨⟩, st'⟩
    · rw [hpush] at hiff
      have hnot := mt hiff.mpr (by simp)
      simp only [reduceCtorEq, false_iff]
      tauto
    · rw [hpush] at hiff
      obtain ⟨hregion, hcovered, hfree⟩ := hiff.mp rfl
      obtain ⟨hservice, -, hheld'⟩ := pushRow_settled hpush hheld hrow
      simp only [ih (h.tail hpush) hheld', hservice]
      tauto

/-- A loop that ends normally marks every row as its replies say. -/
lemma pushRows_settled (h : PendingBatch st.db.cases rows) (hheld : Holds held st.db.cases)
    (hrun : pushRows sf now rows st = (.ok (), st')) :
    ∃ entries, st'.log = st.log ++ entries ∧
      List.Forall₂ SettledEntry (repliesFor sf rows.length st.service) entries := by
  induction rows generalizing st held with
  | nil =>
    obtain ⟨-, rfl⟩ := Prod.mk.inj hrun
    exact ⟨[], by simp, .nil⟩
  | cons row rows ih =>
    rw [pushRows] at hrun
    rcases hpush : pushRow sf now row st with ⟨e | ⟨⟩, st₁⟩
    · simp [hpush] at hrun
    · rw [hpush] at hrun
      obtain ⟨hservice, ⟨entry, hlog, hentry⟩, hheld'⟩ :=
        pushRow_settled hpush hheld (h.lookup row List.mem_cons_self)
      obtain ⟨entries, hentries, hsettled⟩ := ih (h.tail hpush) hheld' hrun
      rw [hservice] at hsettled
      refine ⟨entry :: entries, ?_, .cons hentry hsettled⟩
      rw [hentries, hlog, List.append_assoc, List.singleton_append]

lemma record_synced (service : SfService) (e : PushEntry) : (st.record service db e).synced =
    st.synced + [e].countP fun e => e.mark.status = .synced := by
  cases hm : e.mark <;> simp [PushState.record, hm]

lemma record_retrying (service : SfService) (e : PushEntry) : (st.record service db e).retrying =
    st.retrying + [e].countP fun e => e.mark.status = .pending := by
  cases hm : e.mark <;> simp [PushState.record, hm]

lemma record_failed (service : SfService) (e : PushEntry) : (st.record service db e).failed =
    st.failed + [e].countP fun e => e.mark.status = .failed := by
  cases hm : e.mark <;> simp [PushState.record, hm]

/-- What a loop that ends normally has done. -/
structure LoopDone (now : String → Instant) (rows : List CaseRow) (st st' : PushState)
    (entries : List PushEntry) : Prop where
  log : st'.log = st.log ++ entries
  inOrder : entries.map PushEntry.row = rows
  classified : ∀ e ∈ entries, Classified e
  marked : ∀ e ∈ entries,
    st'.db.cases.lookup e.row.caseId = some (markRow (now e.row.caseId) e.mark e.row)
  others : ∀ k, k ∉ rows.map CaseRow.caseId → st'.db.cases.lookup k = st.db.cases.lookup k
  synced : st'.synced = st.synced + entries.countP fun e => e.mark.status = .synced
  retrying : st'.retrying = st.retrying + entries.countP fun e => e.mark.status = .pending
  failed : st'.failed = st.failed + entries.countP fun e => e.mark.status = .failed

lemma pushRows_done (h : PendingBatch st.db.cases rows)
    (hrun : pushRows sf now rows st = (.ok (), st')) :
    ∃ entries, LoopDone now rows st st' entries := by
  induction rows generalizing st with
  | nil =>
    simp only [pushRows, Prod.mk.injEq, true_and] at hrun
    subst hrun
    exact ⟨[], by simp, rfl, by simp, by simp, fun _ _ => rfl, rfl, rfl, rfl⟩
  | cons row rows ih =>
    rw [pushRows] at hrun
    rcases hpush : pushRow sf now row st with ⟨e | ⟨⟩, st₁⟩
    · simp [hpush] at hrun
    · rw [hpush] at hrun
      obtain ⟨entries, hdone⟩ := ih (h.tail hpush) hrun
      obtain ⟨out, mark, db, hmark, hdb, hst, hrec⟩ := pushRow_ok hpush
      have hnodup := List.nodup_cons.mp h.nodup
      refine ⟨⟨row, out, mark⟩ :: entries, ?_, ?_, ?_, ?_, ?_, ?_, ?_, ?_⟩
      · rw [hdone.log, hrec]
        simp [PushState.record]
      · rw [List.map_cons, hdone.inOrder]
      · intro e he
        rcases List.mem_cons.mp he with rfl | he
        · exact .of_markFor hmark
        · exact hdone.classified e he
      · intro e he
        rcases List.mem_cons.mp he with rfl | he
        · show st'.db.cases.lookup row.caseId = some (markRow (now row.caseId) mark row)
          rw [hdone.others _ hnodup.1, hst, lookup_markCase hdb, if_pos rfl,
            h.lookup row List.mem_cons_self, Option.map_some]
        · exact hdone.marked e he
      · intro k hk
        simp only [List.map_cons, List.mem_cons, not_or] at hk
        rw [hdone.others k hk.2, lookup_pushRow hpush (Ne.symm hk.1)]
      · rw [hdone.synced, hrec, record_synced, Nat.add_assoc, ← List.countP_append,
          List.singleton_append]
      · rw [hdone.retrying, hrec, record_retrying, Nat.add_assoc, ← List.countP_append,
          List.singleton_append]
      · rw [hdone.failed, hrec, record_failed, Nat.add_assoc, ← List.countP_append,
          List.singleton_append]

/-- What the push owes its rows: the pass returns, every fetched row has been attempted, in order,
`create_case` has returned or raised an `AFMException` for it, and it is marked as Salesforce has
answered: synced with the id that was given, to be tried again after a transient failure as long as
attempts are left, failed after a permanent one. -/
def Finishes (sf : SfClient) (now : String → Instant) (rows : List CaseRow) (db : CaseDb)
    (service : SfService) : Prop :=
  ∃ summary st, pushFetched sf now rows db service = (.ok summary, st) ∧
    st.log.map PushEntry.row = rows ∧
    List.Forall₂ SettledEntry (repliesFor sf rows.length service) st.log ∧
    (∀ e ∈ st.log, Classified e ∧ ∃ r, st.db.cases.lookup e.row.caseId = some r ∧
      r = markRow (now e.row.caseId) e.mark e.row ∧ r.sfSyncStatus = e.mark.status) ∧
    summary.attempted = rows.length ∧
    summary.synced = st.log.countP (fun e => e.mark.status = .synced) ∧
    summary.retrying = st.log.countP (fun e => e.mark.status = .pending) ∧
    summary.failed = st.log.countP (fun e => e.mark.status = .failed) ∧
    summary.attempted = summary.synced + summary.retrying + summary.failed

lemma countP_status (entries : List PushEntry) : entries.length =
    entries.countP (fun e => e.mark.status = .synced) +
      entries.countP (fun e => e.mark.status = .pending) +
      entries.countP (fun e => e.mark.status = .failed) := by
  induction entries with
  | nil => rfl
  | cons e entries ih =>
    simp only [List.length_cons, List.countP_cons]
    cases hm : e.mark <;> simp <;> omega

/-- The push keeps its contract with a batch exactly when the batch is covered. -/
theorem push_finishes_iff (sf : SfClient) (now : String → Instant) (rows : List CaseRow)
    (db : CaseDb) (service : SfService) (h : PendingBatch db.cases rows) :
    Finishes sf now rows db service ↔ CoveredBatch sf rows db.cases service := by
  have hheld : Holds (heldIds db.cases) db.cases := holds_heldIds db.cases
  have hok : (pushRows sf now rows { db, service }).1 = .ok () ↔
      CoveredBatch sf rows db.cases service :=
    (pushRows_ok_iff h hheld).trans
      ⟨fun h => ⟨h.1, h.2.1, h.2.2⟩, fun h => ⟨h.regions, h.replies, h.ids⟩⟩
  rw [← hok]
  constructor
  · rintro ⟨summary, st, hrun, -⟩
    rw [pushFetched] at hrun
    rcases hrows : pushRows sf now rows { db, service } with ⟨e | ⟨⟩, st'⟩
    · simp [hrows] at hrun
    · rfl
  · intro hok
    rcases hrows : pushRows sf now rows { db, service } with ⟨e | ⟨⟩, st⟩
    · simp [hrows] at hok
    · obtain ⟨entries, hdone⟩ := pushRows_done h hrows
      have hlog : st.log = entries := by simpa using hdone.log
      obtain ⟨entries', hlog', hsettled⟩ := pushRows_settled h hheld hrows
      refine ⟨⟨rows.length, st.synced, st.retrying, st.failed⟩, st, ?_, ?_, ?_, ?_, rfl, ?_, ?_, ?_,
        ?_⟩
      · rw [pushFetched, hrows]
      · rw [hlog, hdone.inOrder]
      · rwa [hlog', List.nil_append]
      · intro e he
        rw [hlog] at he
        have hrow : e.row ∈ rows := hdone.inOrder ▸ List.mem_map_of_mem he
        exact ⟨hdone.classified e he, _, hdone.marked e he, rfl, markRow_status (h.pending _ hrow)⟩
      · simpa [hlog] using hdone.synced
      · simpa [hlog] using hdone.retrying
      · simpa [hlog] using hdone.failed
      · have hlen := countP_status entries
        rw [← hdone.inOrder, List.length_map, hlen, hdone.synced, hdone.retrying, hdone.failed]
        simp

/-! ### A batch that is aborted -/

/-- Two cases that wait for their push. -/
def waitingRow (caseId : String) : CaseRow :=
  { sampleCase caseId 0 with severity := .high, sfSyncStatus := .pending }

def waitingDb : CaseDb where
  cases := ⟨[waitingRow "CASE-1", waitingRow "CASE-2"], by decide⟩

lemma pendingBatch_waitingDb :
    PendingBatch waitingDb.cases [waitingRow "CASE-1", waitingRow "CASE-2"] :=
  ⟨by decide, by decide, by decide⟩

/-- Salesforce answers the first query, that of the record type, with a 503. -/
def degradedClient : SfClient where
  token _ := .ok ()
  query n := if n = 0 then .error (.salesforceError (some 503) []) else .ok ["0120"]
  create n := .ok ⟨true, if n = 0 then "5001" else "5002"⟩

/-- The pass ends at the first row with a raw `SalesforceError`. -/
theorem degraded_push_aborts : ¬ Finishes degradedClient (fun _ => 1000000)
    [waitingRow "CASE-1", waitingRow "CASE-2"] waitingDb {} := by
  rintro ⟨summary, st, hrun, -⟩
  have hfst : (pushFetched degradedClient (fun _ => 1000000)
      [waitingRow "CASE-1", waitingRow "CASE-2"] waitingDb {}).1 =
      .error (.salesforceError (some 503) []) := by decide
  rw [hrun] at hfst
  simp at hfst

/-- Its attempts are not counted, so the next pass starts with it again. -/
example : (pushFetched degradedClient (fun _ => 1000000)
    [waitingRow "CASE-1", waitingRow "CASE-2"] waitingDb {}).2.db.cases.rows =
    waitingDb.cases.rows := by
  decide

/-- Salesforce answers every call. -/
def steadyClient : SfClient where
  token _ := .ok ()
  query _ := .ok ["0120"]
  create n := .ok ⟨true, if n = 0 then "5001" else "5002"⟩

theorem steady_push_finishes : Finishes steadyClient (fun _ => 1000000)
    [waitingRow "CASE-1", waitingRow "CASE-2"] waitingDb {} := by
  exact (push_finishes_iff steadyClient _ _ waitingDb {} pendingBatch_waitingDb).mpr
    ⟨by decide, by decide, by decide⟩

end FleetMonitor
