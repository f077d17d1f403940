import FleetMonitor.Foundry.CaseMirror
import FleetMonitor.Library.Runs

/-!
# Versions in the mirror

Writers of `app.cases` stamp their row with the start of their transaction, and the row is visible
at the commit, so rows can become visible out of the order of their stamps. The case sync goes by
the stamps: what commits behind the cursor is never read, and of two ticks that overlap the slower
one can put an older version back.
-/

namespace FleetMonitor.CaseVersions

open Library

/-! ### The system -/

structure State where
  mirror : MirrorState
  /-- The start of every transaction so far, and of those under way. -/
  used : List Instant
  started : List Instant

inductive Action where
  | begin (t : Instant)
  /-- The transaction that started at the row's `updated_at` commits the row. -/
  | commit (row : CaseRow)
  | rollback (t : Instant)
  | tick (a : TickAction)

variable (url : Option String)

def act (s : State) : Action → Option State
  | .begin t =>
    if t ∈ s.used then none else some { s with used := t :: s.used, started := t :: s.started }
  | .commit row =>
    if row.updatedAt ∈ s.started then
      some { s with
        mirror := { s.mirror with cases := s.mirror.cases.upsert row }
        started := s.started.filter (· ≠ row.updatedAt) }
    else none
  | .rollback t => some { s with started := s.started.filter (· ≠ t) }
  | .tick a => (tickStep url s.mirror a).map fun mirror => { s with mirror }

/-- Nothing runs, and the stamps in the table are distinct. -/
structure init (s : State) : Prop where
  cursor : s.mirror.cursor = none
  ticks : s.mirror.ticks.rows = []
  started : s.started = []
  used : ∀ r ∈ s.mirror.cases.rows, r.updatedAt ∈ s.used
  distinct : ∀ r ∈ s.mirror.cases.rows, ∀ r' ∈ s.mirror.cases.rows,
    r.updatedAt = r'.updatedAt → r = r'

/-! ### The condition -/

/-- The stamp of a Case object. -/
def objectStamp (o : OntologyObject) : Option Instant :=
  match o.props.lookup "updatedAt" with
  | some (.instant t) => some t
  | _                 => none

/-- The upsert replaces no newer version and leaves no property of the old object behind. -/
def Fresh (tenant : ObjectSet) (c : FoundryCase) : Prop :=
  ∀ old ∈ tenant.lookup c.caseId,
    keptProps (caseParams c) old = [] ∧ ∀ t ∈ objectStamp old, t ≤ c.updatedAt

/-- The upserts of a chunk, one after the other. -/
def FreshChunk : ObjectSet → List FoundryCase → Prop
  | _, [] => True
  | tenant, c :: chunk =>
    Fresh tenant c ∧ FreshChunk (applyUpsert tenant (caseParams c)) chunk

instance (tenant : ObjectSet) (c : FoundryCase) : Decidable (Fresh tenant c) :=
  inferInstanceAs (Decidable (∀ old ∈ tenant.lookup c.caseId, _ ∧ ∀ t ∈ objectStamp old, _))

instance instDecidableFreshChunk : ∀ tenant chunk, Decidable (FreshChunk tenant chunk)
  | _, [] => inferInstanceAs (Decidable True)
  | tenant, c :: chunk =>
    have := instDecidableFreshChunk (applyUpsert tenant (caseParams c)) chunk
    inferInstanceAs (Decidable (Fresh tenant c ∧ _))

/-- The chunk the tick posts next is fresh. -/
def PostsFresh (m : MirrorState) (p : ℕ) : Prop :=
  match m.ticks.lookup p with
  | some ⟨_, .posting rest _⟩ => FreshChunk m.tenant (rest.take maxBatch)
  | _                         => True

instance (m : MirrorState) (p : ℕ) : Decidable (PostsFresh m p) :=
  match h : m.ticks.lookup p with
  | some ⟨_, .posting rest _⟩ =>
    decidable_of_iff (FreshChunk m.tenant (rest.take maxBatch)) (by simp only [PostsFresh, h])
  | some ⟨_, .reading _ _⟩    => .isTrue (by simp only [PostsFresh, h])
  | none                      => .isTrue (by simp only [PostsFresh, h])

/-- A commit comes before any cursor has passed its stamp, and posts are fresh. -/
def guard (s : State) : Action → Prop
  | .commit row     => Unpassed s.mirror row.updatedAt
  | .tick (.post p) => PostsFresh s.mirror p
  | _               => True

instance (s : State) (a : Action) : Decidable (guard s a) := by
  unfold guard; split <;> infer_instance

/-! ### The invariant -/

/-- The tenant holds this version of the case. -/
def Current (tenant : ObjectSet) (r : CaseRow) : Prop :=
  tenant.lookup r.caseId = some (caseObject (mirroredCase url r))

/-- The tenant holds, or is about to get, the current version of every case whose stamp the cursor
has passed. -/
def CurrentUpTo (m : MirrorState) (cursor : Option Instant) (pending : List FoundryCase) : Prop :=
  ∀ r ∈ m.cases.rows, Passed cursor r.updatedAt →
    Current url m.tenant r ∨ mirroredCase url r ∈ pending

/-- A pending case is the current version of its case, or an older one. -/
def PendingVersion (cases : CaseTable) (cursor : Option Instant) (c : FoundryCase) : Prop :=
  Passed cursor c.updatedAt ∧ ∀ r ∈ cases.rows, r.caseId = c.caseId →
    c = mirroredCase url r ∨ c.updatedAt < r.updatedAt

/-- What holds of the case sync. -/
structure MirrorInv (m : MirrorState) : Prop where
  persisted : CurrentUpTo url m m.cursor []
  ticks : ∀ run ∈ m.ticks.rows, CurrentUpTo url m run.phase.cursor run.phase.cases
  pending : ∀ run ∈ m.ticks.rows, ∀ c ∈ run.phase.cases,
    PendingVersion url m.cases run.phase.cursor c
  distinct : ∀ r ∈ m.cases.rows, ∀ r' ∈ m.cases.rows, r.updatedAt = r'.updatedAt → r = r'

structure Inv (s : State) : Prop where
  mirror : MirrorInv url s.mirror
  used : ∀ r ∈ s.mirror.cases.rows, r.updatedAt ∈ s.used ∧ r.updatedAt ∉ s.started
  started : ∀ t ∈ s.started, t ∈ s.used

variable {url} {s t : State} {m m' : MirrorState} {tenant : ObjectSet} {r : CaseRow}
  {c : FoundryCase} {cursor cursor' : Option Instant}

lemma currentUpTo_none (m : MirrorState) (pending : List FoundryCase) :
    CurrentUpTo url m none pending := by
  intro r _ hpassed
  exact absurd hpassed (not_passed_none _)

lemma Inv.of_init (h : init s) : Inv url s where
  mirror :=
    { persisted := h.cursor ▸ currentUpTo_none _ _
      ticks := by simp [h.ticks]
      pending := by simp [h.ticks]
      distinct := h.distinct }
  used r hr := ⟨h.used r hr, by simp [h.started]⟩
  started := by simp [h.started]

/-! ### Posts -/

@[simp] lemma objectStamp_caseObject (c : FoundryCase) :
    objectStamp (caseObject c) = some c.updatedAt := by
  rw [objectStamp, lookup_updatedAt_caseObject]

lemma current_applyUpsert (hfresh : Fresh tenant (mirroredCase url r)) :
    Current url (applyUpsert tenant (caseParams (mirroredCase url r))) r := by
  have hobject := modifyOrCreate_of_keptProps 
    fun o ho => (hfresh o ho).1
  rw [Current, lookup_applyUpsert, if_pos (by simp)]
  exact congrArg some hobject

/-- A fresh upsert of the same case cannot put an older version back. -/
lemma Current.applyUpsert (h : Current url tenant r) (hfresh : Fresh tenant c)
    (hversion : r.caseId = c.caseId → c = mirroredCase url r ∨ c.updatedAt < r.updatedAt) :
    Current url (FleetMonitor.applyUpsert tenant (caseParams c)) r := by
  by_cases hid : r.caseId = c.caseId
  · rcases hversion hid with rfl | hlt
    · exact current_applyUpsert hfresh
    · rw [Current, hid] at h
      have hle := (hfresh _ h).2 r.updatedAt (by simp)
      exact absurd hlt hle.not_gt
  · rw [Current, lookup_applyUpsert, if_neg (by simpa using Ne.symm hid)]
    exact h

lemma current_upsertCases {chunk : List FoundryCase} (hfresh : FreshChunk tenant chunk)
    (hversion : ∀ c ∈ chunk, r.caseId = c.caseId →
      c = mirroredCase url r ∨ c.updatedAt < r.updatedAt)
    (h : Current url tenant r ∨ mirroredCase url r ∈ chunk) :
    Current url (upsertCases tenant chunk) r := by
  induction chunk generalizing tenant with
  | nil => exact h.resolve_right (by simp)
  | cons c chunk ih =>
    rw [upsertCases_cons]
    refine ih hfresh.2 (fun x hx => hversion x (List.mem_cons_of_mem _ hx)) ?_
    rcases h with hcur | hmem
    · exact .inl (hcur.applyUpsert hfresh.1 (hversion c List.mem_cons_self))
    · rcases List.mem_cons.mp hmem with rfl | hmem
      · exact .inl (current_applyUpsert hfresh.1)
      · exact .inr hmem

/-! ### Steps of the sync -/

lemma MirrorInv.setTick (h : MirrorInv url m) {p : ℕ} {phase : TickPhase}
    (hphase : CurrentUpTo url m phase.cursor phase.cases)
    (hpending : ∀ c ∈ phase.cases, PendingVersion url m.cases phase.cursor c) :
    MirrorInv url (m.setTick p phase) where
  persisted := h.persisted
  ticks run hrun := by
    rcases mem_ticks_setTick hrun with rfl | hrun
    · exact hphase
    · exact h.ticks run hrun
  pending run hrun := by
    rcases mem_ticks_setTick hrun with rfl | hrun
    · exact hpending
    · exact h.pending run hrun
  distinct := h.distinct

lemma MirrorInv.endTick (h : MirrorInv url m) {p : ℕ} (hcursor : CurrentUpTo url m cursor []) :
    MirrorInv url (m.endTick p cursor) where
  persisted := hcursor
  ticks run hrun := h.ticks run (mem_ticks_endTick hrun)
  pending run hrun := h.pending run (mem_ticks_endTick hrun)
  distinct := h.distinct

/-- With distinct stamps every page ends between two stamps. -/
lemma MirrorInv.pageClean (h : MirrorInv url m) (since : Option Instant) :
    PageClean m.cases since := by
  intro x hx y hy heq
  have hnodup : (newerRows m.cases since).Nodup :=
    (newerRows_perm m.cases since).nodup_iff.mpr
      ((List.Nodup.of_map _ m.cases.nodup).filter _)
  rw [← List.take_append_drop casesPageSize (newerRows m.cases since)] at hnodup
  have hxy := h.distinct x (mem_of_mem_pageRows hx).1 y
    (mem_newerRows.mp (List.mem_of_mem_drop hy)).1 heq
  exact (List.nodup_append.mp hnodup).2.2 x hx y hy hxy

lemma MirrorInv.page (h : MirrorInv url m) {p : ℕ} {items : List CaseForSync}
    (hp : ⟨p, .reading items cursor⟩ ∈ m.ticks.rows) :
    MirrorInv url (m.setTick p (afterPage url m.cases items cursor)) := by
  refine h.setTick ?_ ?_
  · intro r hr hpassed
    rw [afterPage_cursor] at hpassed
    rw [afterPage_cases, List.mem_append]
    by_cases hold : Passed cursor r.updatedAt
    · exact (h.ticks _ hp r hr hold).imp_right .inl
    · exact .inr (.inr (List.mem_map_of_mem (mem_pageRows (h.pageClean cursor) hr hold hpassed)))
  · intro c hc
    rw [afterPage_cursor]
    rw [afterPage_cases, List.mem_append] at hc
    rcases hc with hc | hc
    · obtain ⟨hpassed, hversion⟩ := h.pending _ hp c hc
      exact ⟨hpassed.advance, hversion⟩
    · obtain ⟨r, hr, rfl⟩ := List.mem_map.mp hc
      refine ⟨passed_of_mem_pageRows hr, fun r' hr' hid => .inl ?_⟩
      rw [CaseTable.eq_of_caseId hr' (mem_of_mem_pageRows hr).1 hid]

/-- After a chunk is posted its cases need not be pending any more. -/
lemma CurrentUpTo.post {chunk pending pending' : List FoundryCase}
    (h : CurrentUpTo url m cursor pending) (hcases : m'.cases = m.cases)
    (htenant : m'.tenant = upsertCases m.tenant chunk) (hfresh : FreshChunk m.tenant chunk)
    (hversion : ∀ c ∈ chunk, PendingVersion url m.cases cursor' c)
    (hpending : ∀ c ∈ pending, c ∈ chunk ∨ c ∈ pending') : CurrentUpTo url m' cursor pending' := by
  intro r hr hpassed
  rw [hcases] at hr
  rw [htenant]
  have hchunk : ∀ c ∈ chunk, r.caseId = c.caseId →
      c = mirroredCase url r ∨ c.updatedAt < r.updatedAt := fun c hc => (hversion c hc).2 r hr
  have hpost := current_upsertCases hfresh hchunk
  rcases h r hr hpassed with hcur | hmem
  · exact .inl (hpost (.inl hcur))
  · rcases hpending _ hmem with hposted | hrest
    · exact .inl (hpost (.inr hposted))
    · exact .inr hrest

lemma MirrorInv.post (h : MirrorInv url m) {p : ℕ} {rest : List FoundryCase}
    (hp : ⟨p, .posting rest cursor⟩ ∈ m.ticks.rows)
    (hfresh : FreshChunk m.tenant (rest.take maxBatch)) :
    MirrorInv url { m.setTick p (.posting (rest.drop maxBatch) cursor) with
      tenant := upsertCases m.tenant (rest.take maxBatch) } := by
  have hversion : ∀ c ∈ rest.take maxBatch, PendingVersion url m.cases cursor c :=
    fun c hc => h.pending _ hp c (List.mem_of_mem_take hc)
  refine ⟨h.persisted.post rfl rfl hfresh hversion (by simp), fun run hrun => ?_,
    fun run hrun => ?_, h.distinct⟩
  · rcases mem_ticks_setTick hrun with rfl | hrun
    · refine (h.ticks _ hp).post rfl rfl hfresh hversion fun c hc => ?_
      show c ∈ rest.take maxBatch ∨ c ∈ rest.drop maxBatch
      rwa [← List.mem_append, List.take_append_drop]
    · exact (h.ticks run hrun).post rfl rfl hfresh hversion fun c hc => .inr hc
  · rcases mem_ticks_setTick hrun with rfl | hrun
    · exact fun c hc => h.pending _ hp c (List.mem_of_mem_drop hc)
    · exact h.pending run hrun

lemma MirrorInv.step (h : MirrorInv url m) {a : TickAction}
    (hfresh : ∀ p, a = .post p → PostsFresh m p) (hstep : tickStep url m a = some m') :
    MirrorInv url m' := by
  cases TickRule.of_tickStep hstep with
  | start p => exact h.setTick h.persisted (by simp [TickPhase.cases])
  | page p items cursor hp => exact h.page hp
  | post p rest cursor hp =>
    have hpost := hfresh p rfl
    rw [PostsFresh, Table.lookup_of_mem hp] at hpost
    exact h.post hp hpost
  | persist p cursor hp => exact h.endTick (h.ticks _ hp)
  | skip p => exact h.endTick (currentUpTo_none _ _)

/-! ### Commits -/

variable {row : CaseRow}

lemma CurrentUpTo.commit {pending : List FoundryCase} (h : CurrentUpTo url m cursor pending)
    (hnew : ¬ Passed cursor row.updatedAt) :
    CurrentUpTo url { m with cases := m.cases.upsert row } cursor pending := by
  intro r hr hpassed
  rcases Table.mem_rows_upsert.mp hr with rfl | ⟨hr, -⟩
  · exact absurd hpassed hnew
  · exact h r hr hpassed

/-- A pending version of the case is older than the one that is committed. -/
lemma PendingVersion.commit (h : PendingVersion url m.cases cursor c)
    (hnew : ¬ Passed cursor row.updatedAt) :
    PendingVersion url (m.cases.upsert row) cursor c := by
  obtain ⟨⟨k, hk, hle⟩, hversion⟩ := h
  refine ⟨⟨k, hk, hle⟩, fun r hr hid => ?_⟩
  rcases Table.mem_rows_upsert.mp hr with rfl | ⟨hr, -⟩
  · right
    apply lt_of_le_of_lt hle
    by_contra hlt
    exact hnew ⟨k, hk, not_lt.mp hlt⟩
  · exact hversion r hr hid

lemma Inv.commit (h : Inv url s) (hstarted : row.updatedAt ∈ s.started)
    (hnew : Unpassed s.mirror row.updatedAt) :
    Inv url { s with
      mirror := { s.mirror with cases := s.mirror.cases.upsert row }
      started := s.started.filter (· ≠ row.updatedAt) } where
  mirror :=
    { persisted := h.mirror.persisted.commit hnew.1
      ticks := fun run hrun => (h.mirror.ticks run hrun).commit (hnew.2 run hrun)
      pending := fun run hrun c hc => (h.mirror.pending run hrun c hc).commit (hnew.2 run hrun)
      distinct := by
        intro r hr r' hr' heq
        rcases Table.mem_rows_upsert.mp hr with rfl | ⟨hold, -⟩ <;>
          rcases Table.mem_rows_upsert.mp hr' with rfl | ⟨hold', -⟩
        · rfl
        · exact absurd (heq ▸ hstarted) (h.used r' hold').2
        · exact absurd (heq ▸ hstarted) (h.used r hold).2
        · exact h.mirror.distinct r hold r' hold' heq }
  used r hr := by
    rcases Table.mem_rows_upsert.mp hr with rfl | ⟨hr, -⟩
    · exact ⟨h.started _ hstarted, by simp⟩
    · exact ⟨(h.used r hr).1, fun hmem => (h.used r hr).2 (List.mem_of_mem_filter hmem)⟩
  started t ht := h.started t (List.mem_of_mem_filter ht)

lemma Inv.step {a : Action} (h : Inv url s) (hg : guard s a) (ha : act url s a = some t) :
    Inv url t := by
  cases a with
  | begin t₀ =>
    simp only [act] at ha
    split_ifs at ha with hused
    refine Option.some.inj ha ▸ ⟨h.mirror, fun r hr => ?_, fun t ht => ?_⟩
    · have hne : r.updatedAt ≠ t₀ := fun he => hused (he ▸ (h.used r hr).1)
      exact ⟨List.mem_cons_of_mem _ (h.used r hr).1, by simpa [hne] using (h.used r hr).2⟩
    · rcases List.mem_cons.mp ht with rfl | ht
      · exact List.mem_cons_self
      · exact List.mem_cons_of_mem _ (h.started t ht)
  | commit row =>
    simp only [act] at ha
    split_ifs at ha with hstarted
    exact Option.some.inj ha ▸ h.commit hstarted hg
  | rollback t₀ =>
    refine Option.some.inj ha ▸ ⟨h.mirror, fun r hr => ?_, fun t ht => ?_⟩
    · exact ⟨(h.used r hr).1, fun hmem => (h.used r hr).2 (List.mem_of_mem_filter hmem)⟩
    · exact h.started t (List.mem_of_mem_filter ht)
  | tick a =>
    obtain ⟨m, hm, rfl⟩ := Option.map_eq_some_iff.mp ha
    have hcases := tickStep_cases hm
    refine ⟨h.mirror.step (fun p hp => ?_) hm, hcases ▸ h.used, h.started⟩
    subst hp
    exact hg

lemma inv_of_reached (h : Reached (act url) guard init s) : Inv url s :=
  h.invariant (fun _ => Inv.of_init) fun _ _ _ hI hg ha => hI.step hg ha

/-! ### The result -/

/-- The tenant holds the committed version of every case whose stamp the persisted cursor has
passed. -/
def HoldsCurrent (url : Option String) (m : MirrorState) : Prop :=
  ∀ r ∈ m.cases.rows, ∀ k, m.cursor = some k → r.updatedAt ≤ k →
    m.tenant.lookup r.caseId = some (caseObject (mirroredCase url r))

/-- In every run that meets the condition, the tenant is current after every successful tick. -/
theorem tick_holds_current (url : Option String) (s t : State) (p : ℕ)
    (hs : Reached (act url) guard init s) (ht : act url s (.tick (.persist p)) = some t) :
    HoldsCurrent url t.mirror := by
  intro r hr k hk hle
  have hI := inv_of_reached (hs.step (a := .tick (.persist p)) trivial ht)
  exact (hI.mirror.persisted r hr ⟨k, hk, hle⟩).resolve_right (by simp)

/-! ### A late commit -/

lemma nodup_oneCase : ([sampleCase "CASE-1" 0].map CaseRow.caseId).Nodup := by decide

def startState : State where
  mirror :=
    { cases := ⟨[sampleCase "CASE-1" 0], nodup_oneCase⟩
      tenant := Table.empty
      ticks := Table.empty }
  used := [0]
  started := []

lemma init_startState : init startState :=
  ⟨rfl, rfl, rfl, by decide, by decide⟩

/-- The writer of CASE-1 starts before that of CASE-2 and commits when the cursor has passed both;
the last tick finds nothing new and is about to persist its cursor. -/
def lateCommit : List Action :=
  [.begin 1000000, .begin 2000000, .commit (sampleCase "CASE-2" 2000000),
   .tick (.start 0), .tick (.page 0), .tick (.post 0), .tick (.persist 0),
   .commit (sampleCase "CASE-1" 1000000), .tick (.start 1), .tick (.page 1)]

lemma lateCommit_stale : ∀ t ∈ runActions (act none) startState
    (lateCommit ++ [.tick (.persist 1)]), ∃ r ∈ t.mirror.cases.rows, ∃ k ∈ t.mirror.cursor,
      r.updatedAt ≤ k ∧ (t.mirror.tenant.lookup r.caseId).bind objectStamp ≠ some r.updatedAt := by
  decide

/-- The update of CASE-1 is skipped for good. -/
theorem late_commit_skipped : ¬ ∀ (url : Option String) (s t : State) (p : ℕ),
    Reached (act url) unguarded init s → act url s (.tick (.persist p)) = some t →
    HoldsCurrent url t.mirror := by
  intro h
  have hsome : (runActions (act none) startState
      (lateCommit ++ [.tick (.persist 1)])).isSome := by decide
  obtain ⟨s, t, hs, -, hrun, hpersist⟩ :=
    Reached.exists_split (.start init_startState) (guardsHold_unguarded startState _) hsome
  rw [runActions_singleton] at hpersist
  obtain ⟨r, hr, k, hk, hle, hstale⟩ := lateCommit_stale t (by
    rw [runActions_append, hrun, Option.bind_some, runActions_singleton, hpersist]
    rfl)
  have hcurrent := h none s t 1 hs hpersist r hr k hk hle
  simp [hcurrent] at hstale

/-- The same writers, committed in time. -/
def promptCommits : List Action :=
  [.begin 1000000, .begin 2000000, .commit (sampleCase "CASE-2" 2000000),
   .commit (sampleCase "CASE-1" 1000000), .tick (.start 0), .tick (.page 0), .tick (.post 0)]

theorem promptCommits_current : ∃ s t, runActions (act none) startState promptCommits = some s ∧
    act none s (.tick (.persist 0)) = some t ∧ HoldsCurrent none t.mirror := by
  have hguards : GuardsHold (act none) guard startState
      (promptCommits ++ [.tick (.persist 0)]) := by decide
  have hsome : (runActions (act none) startState
      (promptCommits ++ [.tick (.persist 0)])).isSome := by decide
  obtain ⟨s, t, hs, -, hrun, hpersist⟩ :=
    Reached.exists_split (.start init_startState) hguards hsome
  rw [runActions_singleton] at hpersist
  exact ⟨s, t, hrun, hpersist, tick_holds_current none s t 0 hs hpersist⟩

end FleetMonitor.CaseVersions
