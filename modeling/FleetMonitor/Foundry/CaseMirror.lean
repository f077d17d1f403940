import FleetMonitor.Foundry.Ontology

/-!
# The case sync against the tenant

Ticks of `foundry_cases_sync`, step by step and any number of them at a time: a tick takes the
cursor of the last materialization, drains the feed page by page, posts the cases chunk by chunk
and materializes its cursor. A tick that is skipped materializes no cursor.
-/

namespace FleetMonitor

open Library Library.KeysetPaging

/-! ### Ticks -/

/-- Where a tick stands, with the cursor it has computed so far. -/
inductive TickPhase where
  | reading (items : List CaseForSync) (cursor : Option Instant)
  | posting (rest : List FoundryCase) (cursor : Option Instant)
  deriving DecidableEq, Repr

/-- A tick under way. -/
structure TickRun where
  p : ℕ
  phase : TickPhase
  deriving DecidableEq, Repr

/-- `app.cases`, the tenant's Cases, the cursor the next tick reads and the ticks under way. -/
structure MirrorState where
  cases : CaseTable
  tenant : ObjectSet
  cursor : Option Instant := none
  ticks : Table TickRun.p

inductive TickAction where
  | start (p : ℕ)
  | page (p : ℕ)
  /-- One chunk of `upsert_case_batch`. -/
  | post (p : ℕ)
  | persist (p : ℕ)
  /-- `FoundrySyncSkipped`, at any point. -/
  | skip (p : ℕ)
  deriving DecidableEq, Repr

def MirrorState.setTick (m : MirrorState) (p : ℕ) (phase : TickPhase) : MirrorState :=
  { m with ticks := m.ticks.upsert ⟨p, phase⟩ }

def MirrorState.endTick (m : MirrorState) (p : ℕ) (cursor : Option Instant) : MirrorState :=
  { m with cursor, ticks := m.ticks.delete [p] }

/-- The tick after one more page. -/
def afterPage (url : Option String) (cases : CaseTable) (items : List CaseForSync)
    (cursor : Option Instant) : TickPhase :=
  let page := listForSync url cases cursor casesPageSize
  let items := items ++ page.items
  let cursor := page.nextCursor.or cursor
  if page.truncated then .reading items cursor else .posting (items.map caseForSyncToCase) cursor

def upsertCases (tenant : ObjectSet) (chunk : List FoundryCase) : ObjectSet :=
  (chunk.map caseParams).foldl applyUpsert tenant

variable (url : Option String)

def tickStep (m : MirrorState) : TickAction → Option MirrorState
  | .start p =>
    match m.ticks.lookup p with
    | none   => some (m.setTick p (.reading [] m.cursor))
    | some _ => none
  | .page p =>
    match m.ticks.lookup p with
    | some ⟨_, .reading items cursor⟩ => some (m.setTick p (afterPage url m.cases items cursor))
    | _                               => none
  | .post p =>
    match m.ticks.lookup p with
    | some ⟨_, .posting (c :: rest) cursor⟩ =>
      some { m.setTick p (.posting ((c :: rest).drop maxBatch) cursor) with
        tenant := upsertCases m.tenant ((c :: rest).take maxBatch) }
    | _ => none
  | .persist p =>
    match m.ticks.lookup p with
    | some ⟨_, .posting [] cursor⟩ => some (m.endTick p cursor)
    | _                            => none
  | .skip p =>
    match m.ticks.lookup p with
    | some _ => some (m.endTick p none)
    | none   => none

/-- The cursor a tick has computed so far. -/
def TickPhase.cursor : TickPhase → Option Instant
  | .reading _ cursor => cursor
  | .posting _ cursor => cursor

/-- The cases a tick has read and not posted yet. -/
def TickPhase.cases : TickPhase → List FoundryCase
  | .reading items _ => items.map caseForSyncToCase
  | .posting rest _  => rest

variable {url} {m m' : MirrorState} {a : TickAction}

/-- What a step of a tick does. -/
inductive TickRule (url : Option String) (m : MirrorState) : TickAction → MirrorState → Prop where
  | start (p : ℕ) : TickRule url m (.start p) (m.setTick p (.reading [] m.cursor))
  | page (p : ℕ) (items : List CaseForSync) (cursor : Option Instant)
      (h : ⟨p, .reading items cursor⟩ ∈ m.ticks.rows) :
      TickRule url m (.page p) (m.setTick p (afterPage url m.cases items cursor))
  | post (p : ℕ) (rest : List FoundryCase) (cursor : Option Instant)
      (h : ⟨p, .posting rest cursor⟩ ∈ m.ticks.rows) :
      TickRule url m (.post p) { m.setTick p (.posting (rest.drop maxBatch) cursor) with
        tenant := upsertCases m.tenant (rest.take maxBatch) }
  | persist (p : ℕ) (cursor : Option Instant) (h : ⟨p, .posting [] cursor⟩ ∈ m.ticks.rows) :
      TickRule url m (.persist p) (m.endTick p cursor)
  | skip (p : ℕ) : TickRule url m (.skip p) (m.endTick p none)

lemma mem_ticks_of_lookup {p q : ℕ} {phase : TickPhase}
    (h : m.ticks.lookup p = some ⟨q, phase⟩) : ⟨p, phase⟩ ∈ m.ticks.rows := by
  obtain rfl : q = p := Table.key_of_lookup h
  exact Table.mem_rows_of_lookup h

lemma TickRule.of_tickStep (h : tickStep url m a = some m') : TickRule url m a m' := by
  cases a with
  | start p =>
    simp only [tickStep] at h
    split at h
    next => exact Option.some.inj h ▸ .start p
    next => simp at h
  | page p =>
    simp only [tickStep] at h
    split at h
    next hp => exact Option.some.inj h ▸ .page p _ _ (mem_ticks_of_lookup hp)
    next => simp at h
  | post p =>
    simp only [tickStep] at h
    split at h
    next hp => exact Option.some.inj h ▸ .post p _ _ (mem_ticks_of_lookup hp)
    next => simp at h
  | persist p =>
    simp only [tickStep] at h
    split at h
    next hp => exact Option.some.inj h ▸ .persist p _ (mem_ticks_of_lookup hp)
    next => simp at h
  | skip p =>
    simp only [tickStep] at h
    split at h
    next => exact Option.some.inj h ▸ .skip p
    next => simp at h

@[simp] lemma tickStep_cases (h : tickStep url m a = some m') : m'.cases = m.cases := by
  cases TickRule.of_tickStep h <;> rfl

/-- The ticks after a step: one may have changed, the others stand where they stood. -/
lemma mem_ticks_setTick {p : ℕ} {phase : TickPhase} {run : TickRun}
    (h : run ∈ (m.setTick p phase).ticks.rows) : run = ⟨p, phase⟩ ∨ run ∈ m.ticks.rows :=
  (Table.mem_rows_upsert.mp h).imp_right And.left

lemma mem_ticks_endTick {p : ℕ} {cursor : Option Instant} {run : TickRun}
    (h : run ∈ (m.endTick p cursor).ticks.rows) : run ∈ m.ticks.rows :=
  (List.mem_filter.mp h).1

/-! ### Pages -/

/-- The cursor has passed the stamp: the feed after it does not show rows of that stamp. -/
def Passed (cursor : Option Instant) (t : Instant) : Prop := ∃ c, cursor = some c ∧ t ≤ c

instance : ∀ cursor t, Decidable (Passed cursor t)
  | none, _   => .isFalse (by simp [Passed])
  | some c, t => decidable_of_iff (t ≤ c) (by simp [Passed])

/-- No cursor, persisted or under way, has passed the stamp. -/
def Unpassed (m : MirrorState) (t : Instant) : Prop :=
  ¬ Passed m.cursor t ∧ ∀ run ∈ m.ticks.rows, ¬ Passed run.phase.cursor t

instance (m : MirrorState) (t : Instant) : Decidable (Unpassed m t) :=
  inferInstanceAs (Decidable (¬ _ ∧ ∀ run ∈ _, ¬ _))

lemma after_iff_not_passed {cursor : Option Instant} {r : CaseRow} :
    After CaseRow.updatedAt cursor r ↔ ¬ Passed cursor r.updatedAt := by
  cases cursor <;> simp [Passed]

lemma not_passed_none (t : Instant) : ¬ Passed none t := by
  simp [Passed]

variable {cases : CaseTable} {since : Option Instant} {r : CaseRow}

/-- The rows of the next page. -/
def pageRows (cases : CaseTable) (since : Option Instant) : List CaseRow :=
  fetchForSync cases since casesPageSize

/-- No row that is left out of the page has the stamp of one in it. -/
def PageClean (cases : CaseTable) (since : Option Instant) : Prop :=
  ∀ x ∈ pageRows cases since, ∀ y ∈ (newerRows cases since).drop casesPageSize,
    x.updatedAt ≠ y.updatedAt

instance (cases : CaseTable) (since : Option Instant) : Decidable (PageClean cases since) :=
  inferInstanceAs (Decidable (∀ x ∈ _, ∀ y ∈ _, _ ≠ _))

lemma nextCursor_or (cases : CaseTable) (since : Option Instant) :
    (listForSync url cases since casesPageSize).nextCursor.or since =
      advance CaseRow.updatedAt since (pageRows cases since) := by
  show (((pageRows cases since).map (rowToCaseForSync url)).map CaseForSync.updatedAt).max?.or since =
    _
  rw [map_updatedAt_rowToCaseForSync]
  rfl

@[simp] lemma afterPage_cursor (cases : CaseTable) (items : List CaseForSync)
    (since : Option Instant) : (afterPage url cases items since).cursor =
      advance CaseRow.updatedAt since (pageRows cases since) := by
  simp only [afterPage, nextCursor_or]
  split_ifs <;> rfl

@[simp] lemma afterPage_cases (cases : CaseTable) (items : List CaseForSync)
    (since : Option Instant) : (afterPage url cases items since).cases =
      items.map caseForSyncToCase ++ (pageRows cases since).map (mirroredCase url) := by
  have hitems : (listForSync url cases since casesPageSize).items =
      (pageRows cases since).map (rowToCaseForSync url) := rfl
  have hmap : ((pageRows cases since).map (rowToCaseForSync url)).map caseForSyncToCase =
      (pageRows cases since).map (mirroredCase url) := by
    rw [List.map_map]
    rfl
  simp only [afterPage, hitems]
  split_ifs <;> simp only [TickPhase.cases, List.map_append, hmap]

lemma mem_of_mem_pageRows (h : r ∈ pageRows cases since) :
    r ∈ cases.rows ∧ After CaseRow.updatedAt since r :=
  mem_newerRows.mp (List.mem_of_mem_take h)

/-- A page moves the cursor up to its rows. -/
lemma passed_of_mem_pageRows (h : r ∈ pageRows cases since) :
    Passed (advance CaseRow.updatedAt since (pageRows cases since)) r.updatedAt := by
  obtain ⟨x, hx, hmax⟩ := exists_max CaseRow.updatedAt (List.ne_nil_of_mem h)
  exact ⟨x.updatedAt, advance_eq_of_max hx hmax, hmax r h⟩

/-- What the cursor has passed it has passed after the page, too. -/
lemma Passed.advance {t : Instant} (h : Passed since t) :
    Passed (advance CaseRow.updatedAt since (pageRows cases since)) t := by
  obtain ⟨c, hc, hle⟩ := h
  by_cases hpage : pageRows cases since = []
  · rw [hpage, advance_nil]
    exact ⟨c, hc, hle⟩
  · obtain ⟨x, hx, hmax⟩ := exists_max CaseRow.updatedAt hpage
    have hafter := (mem_of_mem_pageRows hx).2
    rw [hc, after_some] at hafter
    exact ⟨x.updatedAt, advance_eq_of_max hx hmax, hle.trans hafter.le⟩

/-- The rows up to the new cursor that the old one has not passed are on the page, when it ends
between two stamps. -/
lemma mem_pageRows (hclean : PageClean cases since) (hr : r ∈ cases.rows)
    (hnew : ¬ Passed since r.updatedAt)
    (hpassed : Passed (advance CaseRow.updatedAt since (pageRows cases since)) r.updatedAt) :
    r ∈ pageRows cases since := by
  by_contra hnot
  have hmem := mem_newerRows.mpr ⟨hr, after_iff_not_passed.mpr hnew⟩
  rw [← List.take_append_drop casesPageSize (newerRows cases since), List.mem_append] at hmem
  have hdrop := hmem.resolve_left hnot
  have hne : pageRows cases since ≠ [] := by
    intro hnil
    rcases List.take_eq_nil_iff.mp hnil with h0 | hrows
    · simp [casesPageSize] at h0
    · rw [hrows, List.drop_nil] at hdrop
      simp at hdrop
  obtain ⟨x, hx, hmax⟩ := exists_max CaseRow.updatedAt hne
  obtain ⟨c, hc, hle⟩ := hpassed
  rw [advance_eq_of_max hx hmax, Option.some.injEq] at hc
  have hsorted := newerRows_sorted cases since
  rw [← List.take_append_drop casesPageSize (newerRows cases since)] at hsorted
  have hxr : x.updatedAt ≤ r.updatedAt := (List.pairwise_append.mp hsorted).2.2 x hx r hdrop
  exact hclean x hx r hdrop (le_antisymm hxr (hc ▸ hle))

/-! ### Posts -/

lemma upsertCases_cons (tenant : ObjectSet) (c : FoundryCase) (chunk : List FoundryCase) :
    upsertCases tenant (c :: chunk) = upsertCases (applyUpsert tenant (caseParams c)) chunk := rfl

lemma mem_keys_upsertCases {tenant : ObjectSet} {chunk : List FoundryCase} {k : String} :
    k ∈ (upsertCases tenant chunk).keys ↔ k ∈ chunk.map FoundryCase.caseId ∨ k ∈ tenant.keys := by
  induction chunk generalizing tenant with
  | nil => simp [upsertCases]
  | cons c chunk ih =>
    rw [upsertCases_cons, ih, mem_keys_applyUpsert, caseParams_locator, List.map_cons,
      List.mem_cons]
    tauto

end FleetMonitor
