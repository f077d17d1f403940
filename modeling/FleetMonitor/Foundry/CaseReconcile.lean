import FleetMonitor.Foundry.CaseMirror
import FleetMonitor.Library.Runs
import Mathlib.Logic.Function.Basic

/-!
# The case reconcile

`reconcile_cases` drains the keep-set, then lists the tenant page by page, then deletes what the
keep-set does not have. It runs beside the case sync: a case that is inserted and mirrored between
the two reads is an orphan to it, although `app.cases` has it.
-/

namespace FleetMonitor.CaseReconcile

open Library

/-! ### The system -/

/-- Where a reconcile run stands. -/
inductive ReconcilePhase where
  /-- Draining the feed for the keep-set. -/
  | reading (items : List CaseForSync) (cursor : Option Instant)
  /-- In `list_case_pks`, with the keys of the pages so far. -/
  | listing (keep pks : List String)
  | deleting (rest : List String)
  deriving DecidableEq, Repr

/-- A reconcile run under way. -/
structure ReconcileRun where
  run : ℕ
  phase : ReconcilePhase
  /-- History: the cases inserted when the drain of the keep-set could no longer read them. -/
  missed : List String := []
  deriving DecidableEq, Repr

structure State where
  mirror : MirrorState
  reconciles : Table ReconcileRun.run
  /-- The case ids `app.next_case_id` has given out. -/
  issued : List String

inductive Action where
  | insert (now : Instant) (anomaly : Anomaly) (caseId : String) (runbookRefs : List String)
  | tick (a : TickAction)
  | startReconcile (p : ℕ)
  /-- One page of the keep-set. -/
  | page (p : ℕ)
  /-- One page of `list_case_pks`, with the keys Foundry shows on it; `last` without a
  `nextPageToken`. -/
  | list (p : ℕ) (pks : List String) (last : Bool)
  /-- One chunk of `delete_case_batch`. -/
  | delete (p : ℕ)
  /-- The run is over, or it fails. -/
  | stop (p : ℕ)

def State.setRun (s : State) (r : ReconcileRun) : State :=
  { s with reconciles := s.reconciles.upsert r }

def State.endRun (s : State) (p : ℕ) : State :=
  { s with reconciles := s.reconciles.delete [p] }

/-- The run after one more page of the keep-set; an empty keep-set ends it
(`skipped_empty_keep`). -/
def afterKeepPage (url : Option String) (cases : CaseTable) (items : List CaseForSync)
    (cursor : Option Instant) : Option ReconcilePhase :=
  let page := listForSync url cases cursor casesPageSize
  let items := items ++ page.items
  if page.truncated then some (.reading items (page.nextCursor.or cursor))
  else if keepSet items = [] then none
  else some (.listing (keepSet items) [])

/-- The run after one more page of the listing. -/
def afterListPage (keep pks : List String) (last : Bool) : ReconcilePhase :=
  if last then .deleting (reconcileDeletes keep pks) else .listing keep pks

/-- A case with this stamp will not be in the keep-set of the run: its drain is past the stamp, or
over. -/
def TooLate (now : Instant) : ReconcilePhase → Prop
  | .reading _ cursor => Passed cursor now
  | .listing _ _      => True
  | .deleting _       => False

instance (now : Instant) (phase : ReconcilePhase) : Decidable (TooLate now phase) := by
  cases phase <;> unfold TooLate <;> infer_instance

def ReconcileRun.noteInsert (now : Instant) (caseId : String) (r : ReconcileRun) : ReconcileRun :=
  if TooLate now r.phase then { r with missed := caseId :: r.missed } else r

@[simp] lemma ReconcileRun.noteInsert_run (now : Instant) (caseId : String) (r : ReconcileRun) :
    (r.noteInsert now caseId).run = r.run := by
  unfold ReconcileRun.noteInsert
  split_ifs <;> rfl

/-- Every run takes note of an insert. -/
def noteInsert (now : Instant) (caseId : String) (runs : Table ReconcileRun.run) :
    Table ReconcileRun.run where
  rows := runs.rows.map (ReconcileRun.noteInsert now caseId)
  nodup := by
    rw [List.map_map]
    simpa [Function.comp_def] using runs.nodup

variable (url : Option String)

def act (s : State) : Action → Option State
  | .insert now anomaly caseId runbookRefs =>
    if caseId ∉ s.issued then
      let cases := s.mirror.cases.upsert (insertedRow now anomaly caseId runbookRefs)
      some { mirror := { s.mirror with cases }
             reconciles := noteInsert now caseId s.reconciles
             issued := caseId :: s.issued }
    else none
  | .tick a => (tickStep url s.mirror a).map fun mirror => { s with mirror }
  | .startReconcile p =>
    match s.reconciles.lookup p with
    | none   => some (s.setRun ⟨p, .reading [] none, []⟩)
    | some _ => none
  | .page p =>
    match s.reconciles.lookup p with
    | some ⟨_, .reading items cursor, missed⟩ =>
      match afterKeepPage url s.mirror.cases items cursor with
      | some phase => some (s.setRun ⟨p, phase, missed⟩)
      | none       => some (s.endRun p)
    | _ => none
  | .list p page last =>
    match s.reconciles.lookup p with
    | some ⟨_, .listing keep pks, missed⟩ =>
      if page ⊆ s.mirror.tenant.keys then
        some (s.setRun ⟨p, afterListPage keep (pks ∪ page) last, missed⟩)
      else none
    | _ => none
  | .delete p =>
    match s.reconciles.lookup p with
    | some ⟨_, .deleting (id :: rest), missed⟩ =>
      let tenant := s.mirror.tenant.delete ((id :: rest).take maxBatch)
      some { s.setRun ⟨p, .deleting ((id :: rest).drop maxBatch), missed⟩ with
        mirror := { s.mirror with tenant } }
    | _ => none
  | .stop p => some (s.endRun p)

/-- Nothing runs; every case id in use has been given out. -/
structure init (s : State) : Prop where
  cursor : s.mirror.cursor = none
  ticks : s.mirror.ticks.rows = []
  reconciles : s.reconciles.rows = []
  cases : ∀ id ∈ s.mirror.cases.keys, id ∈ s.issued
  tenant : ∀ id ∈ s.mirror.tenant.keys, id ∈ s.issued

/-! ### The condition -/

/-- The page a tick is about to read ends between two stamps. -/
def TickPageClean (m : MirrorState) (p : ℕ) : Prop :=
  match m.ticks.lookup p with
  | some ⟨_, .reading _ cursor⟩ => PageClean m.cases cursor
  | _                           => True

instance (m : MirrorState) (p : ℕ) : Decidable (TickPageClean m p) := by
  unfold TickPageClean; split <;> infer_instance

/-- The page of the keep-set a run is about to read ends between two stamps. -/
def KeepPageClean (s : State) (p : ℕ) : Prop :=
  match s.reconciles.lookup p with
  | some ⟨_, .reading _ cursor, _⟩ => PageClean s.mirror.cases cursor
  | _                              => True

instance (s : State) (p : ℕ) : Decidable (KeepPageClean s p) := by
  unfold KeepPageClean; split <;> infer_instance

/-- The run has still to read the tenant, or part of it. -/
def ReconcilePhase.Gathering : ReconcilePhase → Prop
  | .deleting _ => False
  | _           => True

instance (phase : ReconcilePhase) : Decidable phase.Gathering := by
  cases phase <;> unfold ReconcilePhase.Gathering <;> infer_instance

/-- The chunk a tick posts next. -/
def nextChunk (m : MirrorState) (p : ℕ) : List FoundryCase :=
  match m.ticks.lookup p with
  | some ⟨_, .posting rest _⟩ => rest.take maxBatch
  | _                         => []

/-- No reconcile run that has not listed the whole tenant yet has missed a case of the chunk. -/
def PostsNoneMissed (s : State) (p : ℕ) : Prop :=
  ∀ r ∈ s.reconciles.rows, r.phase.Gathering → ∀ c ∈ nextChunk s.mirror p, c.caseId ∉ r.missed

instance (s : State) (p : ℕ) : Decidable (PostsNoneMissed s p) :=
  inferInstanceAs (Decidable (∀ r ∈ _, _ → ∀ c ∈ _, _ ∉ _))

/-- Inserts are visible before a cursor of the sync passes them; pages of ticks and of keep-sets end
between two stamps; no case is inserted and mirrored between the two reads of a reconcile run. -/
def guard (s : State) : Action → Prop
  | .insert now _ _ _ => Unpassed s.mirror now
  | .tick (.page p)   => TickPageClean s.mirror p
  | .tick (.post p)   => PostsNoneMissed s p
  | .page p           => KeepPageClean s p
  | _                 => True

instance (s : State) (a : Action) : Decidable (guard s a) := by
  unfold guard; split <;> infer_instance

/-! ### The invariant -/

/-- Every case whose stamp the cursor has passed is in the tenant or among the pending ones. -/
def MirroredUpTo (m : MirrorState) (cursor : Option Instant) (pending : List FoundryCase) : Prop :=
  ∀ r ∈ m.cases.rows, Passed cursor r.updatedAt →
    r.caseId ∈ m.tenant.keys ∨ r.caseId ∈ pending.map FoundryCase.caseId

/-- What holds of a reconcile run: what it has missed is not in the tenant before it has listed it,
and the keep-set has the rest. -/
def PhaseInv (s : State) (missed : List String) : ReconcilePhase → Prop
  | .reading items cursor =>
    (∀ id ∈ missed, id ∉ s.mirror.tenant.keys) ∧
      ∀ r ∈ s.mirror.cases.rows, Passed cursor r.updatedAt →
        r.caseId ∈ keepSet items ∨ r.caseId ∈ missed
  | .listing keep pks =>
    (∀ id ∈ missed, id ∉ s.mirror.tenant.keys ∧ id ∉ pks) ∧ (∀ id ∈ pks, id ∈ s.issued) ∧
      ∀ id ∈ s.mirror.cases.keys, id ∈ keep ∨ id ∈ missed
  | .deleting rest => ∀ id ∈ rest, id ∉ s.mirror.cases.keys ∧ id ∈ s.issued

/-- What holds of the case sync. -/
structure MirrorInv (issued : List String) (m : MirrorState) : Prop where
  persisted : MirroredUpTo m m.cursor []
  ticks : ∀ run ∈ m.ticks.rows, MirroredUpTo m run.phase.cursor run.phase.cases
  casesIssued : ∀ id ∈ m.cases.keys, id ∈ issued
  tenantIssued : ∀ id ∈ m.tenant.keys, id ∈ issued
  pendingIssued : ∀ run ∈ m.ticks.rows, ∀ c ∈ run.phase.cases, c.caseId ∈ issued

structure Inv (s : State) : Prop where
  mirror : MirrorInv s.issued s.mirror
  reconciles : ∀ r ∈ s.reconciles.rows, PhaseInv s r.missed r.phase

variable {url} {s t : State} {m m' : MirrorState} {issued : List String}

lemma mirroredUpTo_none (m : MirrorState) (pending : List FoundryCase) :
    MirroredUpTo m none pending := by
  intro r _ hpassed
  exact absurd hpassed (not_passed_none _)

lemma Inv.of_init (h : init s) : Inv s where
  mirror :=
    { persisted := h.cursor ▸ mirroredUpTo_none _ _
      ticks := by simp [h.ticks]
      casesIssued := h.cases
      tenantIssued := h.tenant
      pendingIssued := by simp [h.ticks] }
  reconciles := by simp [h.reconciles]

/-! ### Steps of the sync -/

lemma MirroredUpTo.mono {cursor : Option Instant} {pending : List FoundryCase}
    (h : MirroredUpTo m cursor pending) (hcases : m'.cases = m.cases)
    (htenant : ∀ id ∈ m.tenant.keys, id ∈ m'.tenant.keys) : MirroredUpTo m' cursor pending := by
  intro r hr hpassed
  rw [hcases] at hr
  exact (h r hr hpassed).imp_left (htenant _)

/-- A clean page brings the rows the cursor moves past. -/
lemma MirroredUpTo.afterPage {items : List CaseForSync} {cursor : Option Instant}
    (h : MirroredUpTo m cursor (items.map caseForSyncToCase)) (hclean : PageClean m.cases cursor) :
    MirroredUpTo m (FleetMonitor.afterPage url m.cases items cursor).cursor
      (FleetMonitor.afterPage url m.cases items cursor).cases := by
  intro r hr hpassed
  rw [afterPage_cursor] at hpassed
  rw [afterPage_cases, List.map_append, List.mem_append]
  by_cases hold : Passed cursor r.updatedAt
  · exact (h r hr hold).imp_right .inl
  · have hmem := mem_pageRows hclean hr hold hpassed
    refine .inr (.inr ?_)
    rw [List.map_map]
    exact List.mem_map.mpr ⟨r, hmem, rfl⟩

/-- Posting a chunk moves its cases into the tenant. -/
lemma MirroredUpTo.post {rest : List FoundryCase} {cursor : Option Instant}
    (h : MirroredUpTo m cursor rest) (hcases : m'.cases = m.cases)
    (htenant : m'.tenant = upsertCases m.tenant (rest.take maxBatch)) :
    MirroredUpTo m' cursor (rest.drop maxBatch) := by
  intro r hr hpassed
  rw [hcases] at hr
  rw [htenant, mem_keys_upsertCases]
  rcases h r hr hpassed with hin | hpending
  · exact .inl (.inr hin)
  · rw [← List.take_append_drop maxBatch rest, List.map_append, List.mem_append] at hpending
    exact hpending.imp_left .inl

lemma MirrorInv.setTick (h : MirrorInv issued m) {p : ℕ} {phase : TickPhase}
    (hphase : MirroredUpTo m phase.cursor phase.cases)
    (hissued : ∀ c ∈ phase.cases, c.caseId ∈ issued) : MirrorInv issued (m.setTick p phase) where
  persisted := h.persisted
  ticks run hrun := by
    rcases mem_ticks_setTick hrun with rfl | hrun
    · exact hphase
    · exact h.ticks run hrun
  casesIssued := h.casesIssued
  tenantIssued := h.tenantIssued
  pendingIssued run hrun := by
    rcases mem_ticks_setTick hrun with rfl | hrun
    · exact hissued
    · exact h.pendingIssued run hrun

lemma MirrorInv.endTick (h : MirrorInv issued m) {p : ℕ} {cursor : Option Instant}
    (hcursor : MirroredUpTo m cursor []) : MirrorInv issued (m.endTick p cursor) where
  persisted := hcursor
  ticks run hrun := h.ticks run (mem_ticks_endTick hrun)
  casesIssued := h.casesIssued
  tenantIssued := h.tenantIssued
  pendingIssued run hrun := h.pendingIssued run (mem_ticks_endTick hrun)

lemma MirrorInv.page (h : MirrorInv issued m) {p : ℕ} {items : List CaseForSync}
    {cursor : Option Instant} (hp : ⟨p, .reading items cursor⟩ ∈ m.ticks.rows)
    (hclean : PageClean m.cases cursor) :
    MirrorInv issued (m.setTick p (afterPage url m.cases items cursor)) := by
  refine h.setTick ((h.ticks _ hp).afterPage hclean) fun c hc => ?_
  rw [afterPage_cases, List.mem_append] at hc
  rcases hc with hc | hc
  · exact h.pendingIssued _ hp c hc
  · obtain ⟨r, hr, rfl⟩ := List.mem_map.mp hc
    exact h.casesIssued _ (List.mem_map_of_mem (mem_of_mem_pageRows hr).1)

lemma MirrorInv.post (h : MirrorInv issued m) {p : ℕ} {rest : List FoundryCase}
    {cursor : Option Instant} (hp : ⟨p, .posting rest cursor⟩ ∈ m.ticks.rows) :
    MirrorInv issued { m.setTick p (.posting (rest.drop maxBatch) cursor) with
      tenant := upsertCases m.tenant (rest.take maxBatch) } where
  persisted := h.persisted.mono rfl fun id hid => mem_keys_upsertCases.mpr (.inr hid)
  ticks run hrun := by
    rcases mem_ticks_setTick hrun with rfl | hrun
    · exact (h.ticks _ hp).post rfl rfl
    · exact (h.ticks run hrun).mono rfl fun id hid => mem_keys_upsertCases.mpr (.inr hid)
  casesIssued := h.casesIssued
  tenantIssued id hid := by
    rcases mem_keys_upsertCases.mp hid with hid | hid
    · obtain ⟨c, hc, rfl⟩ := List.mem_map.mp hid
      exact h.pendingIssued _ hp c (List.mem_of_mem_take hc)
    · exact h.tenantIssued id hid
  pendingIssued run hrun := by
    rcases mem_ticks_setTick hrun with rfl | hrun
    · exact fun c hc => h.pendingIssued _ hp c (List.mem_of_mem_drop hc)
    · exact h.pendingIssued run hrun

lemma MirrorInv.step (h : MirrorInv issued m) {a : TickAction}
    (hclean : ∀ p, a = .page p → TickPageClean m p) (hstep : tickStep url m a = some m') :
    MirrorInv issued m' := by
  cases TickRule.of_tickStep hstep with
  | start p => exact h.setTick h.persisted (by simp [TickPhase.cases])
  | page p items cursor hp =>
    have hpage := hclean p rfl
    rw [TickPageClean, Table.lookup_of_mem hp] at hpage
    exact h.page hp hpage
  | post p rest cursor hp => exact h.post hp
  | persist p cursor hp => exact h.endTick (h.ticks _ hp)
  | skip p => exact h.endTick (mirroredUpTo_none _ _)

/-! ### Inserts and deletes -/

lemma MirroredUpTo.insert {cursor : Option Instant} {pending : List FoundryCase} {row : CaseRow}
    (h : MirroredUpTo m cursor pending) (hnew : ¬ Passed cursor row.updatedAt) :
    MirroredUpTo { m with cases := m.cases.upsert row } cursor pending := by
  intro r hr hpassed
  rcases Table.mem_rows_upsert.mp hr with rfl | ⟨hr, -⟩
  · exact absurd hpassed hnew
  · exact h r hr hpassed

lemma MirrorInv.insert (h : MirrorInv issued m) {row : CaseRow}
    (hnew : Unpassed m row.updatedAt) :
    MirrorInv (row.caseId :: issued) { m with cases := m.cases.upsert row } where
  persisted := h.persisted.insert hnew.1
  ticks run hrun := (h.ticks run hrun).insert (hnew.2 run hrun)
  casesIssued id hid := by
    rcases Table.mem_keys_upsert.mp hid with rfl | hid
    · exact List.mem_cons_self
    · exact List.mem_cons_of_mem _ (h.casesIssued id hid)
  tenantIssued id hid := List.mem_cons_of_mem _ (h.tenantIssued id hid)
  pendingIssued run hrun c hc := List.mem_cons_of_mem _ (h.pendingIssued run hrun c hc)

/-- Deleting what `app.cases` does not have. -/
lemma MirrorInv.delete (h : MirrorInv issued m) {ids : List String}
    (hids : ∀ id ∈ ids, id ∉ m.cases.keys) :
    MirrorInv issued { m with tenant := m.tenant.delete ids } := by
  have hmono : ∀ {cursor pending}, MirroredUpTo m cursor pending →
      MirroredUpTo { m with tenant := m.tenant.delete ids } cursor pending := by
    intro cursor pending hm r hr hpassed
    refine (hm r hr hpassed).imp_left fun hin => Table.mem_keys_delete.mpr ⟨hin, fun hid => ?_⟩
    exact hids _ hid (List.mem_map_of_mem hr)
  exact ⟨hmono h.persisted, fun run hrun => hmono (h.ticks run hrun), h.casesIssued,
    fun id hid => h.tenantIssued id (Table.mem_keys_delete.mp hid).1, h.pendingIssued⟩

/-! ### Steps of the system -/

lemma State.mem_setRun {r r' : ReconcileRun} (h : r ∈ (s.setRun r').reconciles.rows) :
    r = r' ∨ r ∈ s.reconciles.rows :=
  (Table.mem_rows_upsert.mp h).imp_right And.left

lemma State.mem_endRun {r : ReconcileRun} {p : ℕ} (h : r ∈ (s.endRun p).reconciles.rows) :
    r ∈ s.reconciles.rows :=
  (List.mem_filter.mp h).1

lemma mem_of_lookup {p q : ℕ} {phase : ReconcilePhase} {missed : List String}
    (h : s.reconciles.lookup p = some ⟨q, phase, missed⟩) :
    ⟨q, phase, missed⟩ ∈ s.reconciles.rows :=
  Table.mem_rows_of_lookup h

lemma mem_of_mem_reconcileDeletes {keep tenant : List String} {id : String}
    (h : id ∈ reconcileDeletes keep tenant) : id ∈ tenant ∧ id ∉ keep := by
  rw [reconcileDeletes] at h
  split_ifs at h
  · simp at h
  · have := (List.perm_insertionSort _ _).mem_iff.mp (List.mem_of_mem_take h)
    simpa using this

/-- A page that is not truncated has every newer row. -/
lemma pageRows_of_not_truncated {cases : CaseTable} {since : Option Instant}
    (h : ¬ (listForSync url cases since casesPageSize).truncated) :
    pageRows cases since = newerRows cases since := by
  have hlen : (pageRows cases since).length < casesPageSize := by
    simpa [listForSync, pageRows] using h
  refine List.take_of_length_le ?_
  by_contra hlong
  rw [pageRows, fetchForSync, List.length_take] at hlen
  omega

/-- A run keeps its invariant when the cases stay and the tenant gains none that it has missed. -/
lemma PhaseInv.mono {phase : ReconcilePhase} {missed : List String} (h : PhaseInv s missed phase)
    (hcases : t.mirror.cases = s.mirror.cases) (hissued : t.issued = s.issued)
    (htenant : phase.Gathering → ∀ id ∈ missed, id ∈ t.mirror.tenant.keys →
      id ∈ s.mirror.tenant.keys) : PhaseInv t missed phase := by
  cases phase with
  | reading items cursor =>
    simp only [PhaseInv, hcases]
    exact ⟨fun id hid hin => h.1 id hid (htenant trivial id hid hin), h.2⟩
  | listing keep pks =>
    simp only [PhaseInv, hcases, hissued]
    refine ⟨fun id hid => ⟨fun hin => ?_, (h.1 id hid).2⟩, h.2⟩
    exact (h.1 id hid).1 (htenant trivial id hid hin)
  | deleting rest =>
    simp only [PhaseInv, hcases, hissued]
    exact h

lemma Inv.setMirror (h : Inv s) (hm : MirrorInv s.issued m) (hcases : m.cases = s.mirror.cases)
    (htenant : ∀ r ∈ s.reconciles.rows, r.phase.Gathering → ∀ id ∈ r.missed, id ∈ m.tenant.keys →
      id ∈ s.mirror.tenant.keys) : Inv { s with mirror := m } where
  mirror := hm
  reconciles r hr := (h.reconciles r hr).mono hcases rfl (htenant r hr)

lemma Inv.setRun (h : Inv s) {r : ReconcileRun} (hr : PhaseInv s r.missed r.phase) :
    Inv (s.setRun r) where
  mirror := h.mirror
  reconciles x hx := by
    rcases State.mem_setRun hx with rfl | hx
    · exact hr.mono rfl rfl fun _ _ _ h => h
    · exact (h.reconciles x hx).mono rfl rfl fun _ _ _ h => h

lemma Inv.endRun (h : Inv s) (p : ℕ) : Inv (s.endRun p) where
  mirror := h.mirror
  reconciles x hx := (h.reconciles x (State.mem_endRun hx)).mono rfl rfl fun _ _ _ h => h

/-- A new case is not in the tenant, and each run reads it or takes note of it. -/
lemma PhaseInv.insert (h : Inv s) {row : CaseRow} (hfresh : row.caseId ∉ s.issued)
    {r : ReconcileRun} (hr : PhaseInv s r.missed r.phase)
    (hcases : t.mirror.cases = s.mirror.cases.upsert row)
    (hissued : t.issued = row.caseId :: s.issued)
    (htenant : t.mirror.tenant = s.mirror.tenant) :
    PhaseInv t (r.noteInsert row.updatedAt row.caseId).missed
      (r.noteInsert row.updatedAt row.caseId).phase := by
  have hnew : row.caseId ∉ s.mirror.tenant.keys := fun hin => hfresh (h.mirror.tenantIssued _ hin)
  obtain ⟨p, phase, missed⟩ := r
  cases phase with
  | reading items cursor =>
    obtain ⟨hmissed, hread⟩ := hr
    unfold ReconcileRun.noteInsert
    split_ifs with hlate
    · refine ⟨?_, fun x hx hpassed => ?_⟩
      · rw [htenant]
        simpa using ⟨hnew, hmissed⟩
      · rw [hcases] at hx
        rcases Table.mem_rows_upsert.mp hx with rfl | ⟨hx, -⟩
        · exact .inr List.mem_cons_self
        · exact (hread x hx hpassed).imp_right (List.mem_cons_of_mem _)
    · refine ⟨by rwa [htenant], fun x hx hpassed => ?_⟩
      rw [hcases] at hx
      rcases Table.mem_rows_upsert.mp hx with rfl | ⟨hx, -⟩
      · exact absurd hpassed hlate
      · exact hread x hx hpassed
  | listing keep pks =>
    obtain ⟨hmissed, hpks, hkeep⟩ := hr
    have hnote : ReconcileRun.noteInsert row.updatedAt row.caseId ⟨p, .listing keep pks, missed⟩ =
        ⟨p, .listing keep pks, row.caseId :: missed⟩ := by
      simp [ReconcileRun.noteInsert, TooLate]
    rw [hnote]
    refine ⟨?_, fun id hid => ?_, fun id hid => ?_⟩
    · rw [htenant]
      simpa using ⟨⟨hnew, fun hin => hfresh (hpks _ hin)⟩, hmissed⟩
    · rw [hissued]
      exact List.mem_cons_of_mem _ (hpks id hid)
    · rw [hcases] at hid
      rcases Table.mem_keys_upsert.mp hid with rfl | hid
      · exact .inr List.mem_cons_self
      · exact (hkeep id hid).imp_right (List.mem_cons_of_mem _)
  | deleting rest =>
    have hnote : ReconcileRun.noteInsert row.updatedAt row.caseId ⟨p, .deleting rest, missed⟩ =
        ⟨p, .deleting rest, missed⟩ := by
      simp [ReconcileRun.noteInsert, TooLate]
    rw [hnote]
    intro id hid
    obtain ⟨hkey, hold⟩ := hr id hid
    rw [hcases, hissued]
    refine ⟨fun hin => ?_, List.mem_cons_of_mem _ hold⟩
    rcases Table.mem_keys_upsert.mp hin with rfl | hin
    · exact hfresh hold
    · exact hkey hin

lemma Inv.insert (h : Inv s) {row : CaseRow} (hfresh : row.caseId ∉ s.issued)
    (hnew : Unpassed s.mirror row.updatedAt) :
    Inv { mirror := { s.mirror with cases := s.mirror.cases.upsert row }
          reconciles := noteInsert row.updatedAt row.caseId s.reconciles
          issued := row.caseId :: s.issued } where
  mirror := h.mirror.insert hnew
  reconciles r hr := by
    obtain ⟨r', hr', rfl⟩ := List.mem_map.mp hr
    exact (h.reconciles r' hr').insert h hfresh rfl rfl rfl

/-- After a clean page of the keep-set the run has every row the cursor has passed, or has missed
it; after the last one that is every row. -/
lemma PhaseInv.afterKeepPage {items : List CaseForSync} {cursor : Option Instant}
    {missed : List String} {phase : ReconcilePhase} (h : PhaseInv s missed (.reading items cursor))
    (hclean : PageClean s.mirror.cases cursor)
    (hphase : afterKeepPage url s.mirror.cases items cursor = some phase) :
    PhaseInv s missed phase := by
  obtain ⟨hmissed, hread⟩ := h
  have hkeep : keepSet (items ++ (listForSync url s.mirror.cases cursor casesPageSize).items) =
      keepSet items ++ (pageRows s.mirror.cases cursor).map CaseRow.caseId := by
    simp [keepSet, listForSync, pageRows, Function.comp_def, rowToCaseForSync]
  unfold CaseReconcile.afterKeepPage at hphase
  simp only [hkeep] at hphase
  split_ifs at hphase with htrunc hempty
  · obtain rfl := Option.some.inj hphase
    refine ⟨hmissed, fun r hr hpassed => ?_⟩
    rw [hkeep, List.mem_append]
    rw [nextCursor_or] at hpassed
    by_cases hold : Passed cursor r.updatedAt
    · exact (hread r hr hold).imp_left .inl
    · have hmem := mem_pageRows hclean hr hold hpassed
      exact .inl (.inr (List.mem_map_of_mem hmem))
  · obtain rfl := Option.some.inj hphase
    refine ⟨fun id hid => ⟨hmissed id hid, by simp⟩, by simp, fun id hid => ?_⟩
    obtain ⟨r, hr, rfl⟩ := List.mem_map.mp hid
    rw [List.mem_append]
    by_cases hold : Passed cursor r.updatedAt
    · exact (hread r hr hold).imp_left .inl
    · have hall := pageRows_of_not_truncated htrunc
      refine .inl (.inr (List.mem_map_of_mem ?_))
      rw [hall]
      exact mem_newerRows.mpr ⟨hr, after_iff_not_passed.mpr hold⟩

/-- What a run lists is in the tenant, so it has not missed it. -/
lemma PhaseInv.afterListPage (hmirror : MirrorInv s.issued s.mirror)
    {keep pks page missed : List String} {last : Bool} (h : PhaseInv s missed (.listing keep pks))
    (hpage : page ⊆ s.mirror.tenant.keys) :
    PhaseInv s missed (afterListPage keep (pks ∪ page) last) := by
  obtain ⟨hmissed, hpks, hkeep⟩ := h
  have hmissed' : ∀ id ∈ missed, id ∉ pks ∪ page := by
    intro id hid hin
    rcases List.mem_union_iff.mp hin with hin | hin
    · exact (hmissed id hid).2 hin
    · exact (hmissed id hid).1 (hpage hin)
  have hissued : ∀ id ∈ pks ∪ page, id ∈ s.issued := by
    intro id hid
    rcases List.mem_union_iff.mp hid with hid | hid
    · exact hpks id hid
    · exact hmirror.tenantIssued id (hpage hid)
  cases last with
  | false => exact ⟨fun id hid => ⟨(hmissed id hid).1, hmissed' id hid⟩, hissued, hkeep⟩
  | true =>
    intro id hid
    obtain ⟨hlisted, hnot⟩ := mem_of_mem_reconcileDeletes hid
    refine ⟨fun hcase => ?_, hissued id hlisted⟩
    rcases hkeep id hcase with hin | hin
    · exact hnot hin
    · exact hmissed' id hin hlisted

/-- A step of the sync brings no case into the tenant that a run has missed and not listed past. -/
lemma not_missed_of_tickStep {a : TickAction} (hpost : ∀ p, a = .post p → PostsNoneMissed s p)
    (ha : tickStep url s.mirror a = some m) {r : ReconcileRun} (hr : r ∈ s.reconciles.rows)
    (hgather : r.phase.Gathering) {id : String} (hid : id ∈ r.missed) (hin : id ∈ m.tenant.keys) :
    id ∈ s.mirror.tenant.keys := by
  cases TickRule.of_tickStep ha with
  | start p => exact hin
  | page p items cursor hp => exact hin
  | persist p cursor hp => exact hin
  | skip p => exact hin
  | post p rest cursor hp =>
    rcases mem_keys_upsertCases.mp hin with hchunk | hin
    · obtain ⟨c, hc, rfl⟩ := List.mem_map.mp hchunk
      have hnext : nextChunk s.mirror p = rest.take maxBatch := by
        rw [nextChunk, Table.lookup_of_mem hp]
      exact absurd hid (hpost p rfl r hr hgather c (hnext ▸ hc))
    · exact hin

lemma Inv.step {a : Action} (h : Inv s) (hg : guard s a) (ha : act url s a = some t) : Inv t := by
  cases a with
  | insert now anomaly caseId refs =>
    simp only [act] at ha
    split_ifs at ha with hfresh
    obtain rfl := Option.some.inj ha
    exact h.insert hfresh hg
  | tick a =>
    obtain ⟨m, hm, rfl⟩ := Option.map_eq_some_iff.mp ha
    refine h.setMirror (h.mirror.step (fun p hp => ?_) hm) (tickStep_cases hm) ?_
    · subst hp
      exact hg
    · intro r hr hgather id hid hin
      refine not_missed_of_tickStep (fun p hp => ?_) hm hr hgather hid hin
      subst hp
      exact hg
  | startReconcile p =>
    simp only [act] at ha
    split at ha
    next =>
      refine Option.some.inj ha ▸ h.setRun ⟨by simp, fun r _ hpassed => ?_⟩
      exact absurd hpassed (not_passed_none _)
    next => simp at ha
  | page p =>
    simp only [act] at ha
    split at ha
    next q items cursor missed hp =>
      have hinv := h.reconciles _ (mem_of_lookup hp)
      simp only [guard, KeepPageClean, hp] at hg
      split at ha
      next phase hphase => exact Option.some.inj ha ▸ h.setRun (hinv.afterKeepPage hg hphase)
      next => exact Option.some.inj ha ▸ h.endRun p
    next => simp at ha
  | list p page last =>
    simp only [act] at ha
    split at ha
    next q keep pks missed hp =>
      split_ifs at ha with hpage
      have hinv := h.reconciles _ (mem_of_lookup hp)
      exact Option.some.inj ha ▸ h.setRun (hinv.afterListPage h.mirror hpage)
    next => simp at ha
  | delete p =>
    simp only [act] at ha
    split at ha
    next q id rest missed hp =>
      have hinv : ∀ x ∈ id :: rest, x ∉ s.mirror.cases.keys ∧ x ∈ s.issued :=
        h.reconciles _ (mem_of_lookup hp)
      have hdrop : Inv (s.setRun ⟨p, .deleting ((id :: rest).drop maxBatch), missed⟩) :=
        h.setRun fun x hx => hinv x (List.mem_of_mem_drop hx)
      refine Option.some.inj ha ▸ hdrop.setMirror (h.mirror.delete fun x hx => ?_) rfl ?_
      · exact (hinv x (List.mem_of_mem_take hx)).1
      · exact fun _ _ _ _ _ hin => (Table.mem_keys_delete.mp hin).1
    next => simp at ha
  | stop p => exact Option.some.inj ha ▸ h.endRun p

lemma inv_of_reached (h : Reached (act url) guard init s) : Inv s :=
  h.invariant (fun _ => Inv.of_init) fun _ _ _ hI hg ha => hI.step hg ha

/-! ### The results -/

/-- What a reconcile run is about to delete is not in `app.cases`. -/
def DeletesOrphansOnly (s : State) : Prop :=
  ∀ r ∈ s.reconciles.rows, ∀ rest, r.phase = .deleting rest → ∀ id ∈ rest, id ∉ s.mirror.cases.keys

/-- No case that the persisted cursor has passed is missing from the tenant. -/
def MissesNoCase (s : State) : Prop :=
  ∀ r ∈ s.mirror.cases.rows, ∀ c, s.mirror.cursor = some c → r.updatedAt ≤ c →
    r.caseId ∈ s.mirror.tenant.keys

/-- In every run that meets the condition a reconcile run deletes orphans only and the tenant has
every case the cursor has passed. -/
theorem reconcile_keeps_cases (url : Option String) (s : State)
    (hs : Reached (act url) guard init s) : DeletesOrphansOnly s ∧ MissesNoCase s := by
  have hI := inv_of_reached hs
  constructor
  · intro r hr rest hp id hid
    have hphase := hI.reconciles r hr
    rw [hp] at hphase
    exact (hphase id hid).1
  · intro r hr c hc hle
    simpa using hI.mirror.persisted r hr ⟨c, hc, hle⟩

/-! ### A case between the two reads -/

/-- One case in `app.cases`, one orphan in the tenant. -/
def startState : State where
  mirror :=
    { cases := ⟨[sampleCase "CASE-1" 0], by decide⟩
      tenant := ⟨[⟨"CASE-0", []⟩], by decide⟩
      ticks := Table.empty }
  reconciles := Table.empty
  issued := ["CASE-0", "CASE-1"]

lemma init_startState : init startState :=
  ⟨rfl, rfl, rfl, by decide, by decide⟩

def goAround : Anomaly := ⟨.goAround, some "a1b2c3", some "KJFK", .east, none, []⟩

/-- A tick on its own. -/
def wholeTick (p : ℕ) : List Action :=
  [.tick (.start p), .tick (.page p), .tick (.post p), .tick (.persist p)]

/-- CASE-2 is inserted and mirrored after the keep-set is read and before the last page of the
tenant is listed. -/
def racingRun : List Action :=
  [.startReconcile 0, .page 0, .insert 1000000 goAround "CASE-2" [],
    .list 0 ["CASE-0"] false] ++ wholeTick 0 ++
    [.list 0 ["CASE-2"] true, .delete 0]

lemma racingRun_misses : ∀ t ∈ runActions (act none) startState racingRun,
    ∃ r ∈ t.mirror.cases.rows, ∃ c ∈ t.mirror.cursor, r.updatedAt ≤ c ∧
      r.caseId ∉ t.mirror.tenant.keys := by
  decide

/-- The reconcile deletes CASE-2, and the next tick does not bring it back: the cursor has passed
it. -/
theorem reconcile_deletes_case : ¬ ∀ (url : Option String) (s : State),
    Reached (act url) unguarded init s → DeletesOrphansOnly s ∧ MissesNoCase s := by
  intro h
  have hsome : (runActions (act none) startState racingRun).isSome := by decide
  obtain ⟨s, hs, hreached⟩ :=
    (Reached.start init_startState).exists_run (guardsHold_unguarded _ _) hsome
  obtain ⟨r, hr, c, hc, hle, hnot⟩ := racingRun_misses s hs
  exact hnot ((h none s hreached).2 r hr c hc hle)

/-- The orphan is deleted; CASE-2 is inserted before the keep-set is read. -/
def orderlyRun : List Action :=
  wholeTick 0 ++ [.insert 1000000 goAround "CASE-2" [], .startReconcile 0, .page 0] ++
    wholeTick 1 ++
    [.list 0 ["CASE-0", "CASE-1"] false, .list 0 ["CASE-2"] true, .delete 0]

theorem orderlyRun_keeps_cases : ∃ s, runActions (act none) startState orderlyRun = some s ∧
    DeletesOrphansOnly s ∧ MissesNoCase s := by
  have hsome : (runActions (act none) startState orderlyRun).isSome := by decide
  have hguards : GuardsHold (act none) guard startState orderlyRun := by decide
  obtain ⟨s, hs, hreached⟩ := (Reached.start init_startState).exists_run hguards hsome
  exact ⟨s, hs, reconcile_keeps_cases none s hreached⟩

end FleetMonitor.CaseReconcile
