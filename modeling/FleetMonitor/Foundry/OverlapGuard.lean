import FleetMonitor.Foundry.Materialization
import FleetMonitor.Library.Runs
import FleetMonitor.Library.Table

/-!
# The overlap guard

Five assets begin by asking for the other runs of their job that are in progress, and skip the tick
when there is one. Runs are launched, moved on by the orchestrator, canceled, and may die at any
moment; the guard keeps any two runs of a job from working at the same time.
-/

namespace FleetMonitor

open Library

/-! ### The guard -/

/-- `DagsterRunStatus`. -/
inductive RunStatus where
  | notStarted
  | queued
  | starting
  | started
  | managed
  | success
  | failure
  | canceling
  | canceled
  deriving DecidableEq, Repr

/-- The statuses the guards ask for. -/
def inProgressStatuses : List RunStatus := [.queued, .starting, .started, .canceling]

/-- What the orchestrator records of a run. -/
structure RunRecord where
  runId : String
  jobName : String
  status : RunStatus
  deriving DecidableEq, Repr

inductive GuardedAsset where
  | aircraftReconcile
  | flightEnrichment
  | flightReconcile
  | casesReconcile
  | flightArchive
  deriving DecidableEq, Repr

/-- The job of the asset in `definitions.py`. -/
def GuardedAsset.jobName : GuardedAsset → String
  | .aircraftReconcile => "foundry_aircraft_reconcile_job"
  | .flightEnrichment  => "foundry_flight_enrichment_job"
  | .flightReconcile   => "foundry_flight_reconcile_job"
  | .casesReconcile    => "foundry_cases_reconcile_job"
  | .flightArchive     => "foundry_flight_archive_job"

/-- Where the body of an asset stands. -/
inductive BodyPhase where
  | pending
  | draining
  /-- The body has returned or raised, or it was skipped. -/
  | over
  /-- The process has died. -/
  | crashed
  deriving DecidableEq, Repr

/-- A run that materializes one of the assets. A run that is launched from the asset itself has the
name of no job of `definitions.py`. -/
structure DagsterRun extends RunRecord where
  asset : GuardedAsset
  body : BodyPhase := .pending
  deriving DecidableEq, Repr

/-- The orchestrator: `get_run_records` with a `RunsFilter`, and the statuses it may give to a run.
The runs it finds are those of the job with one of the statuses, and it records no end of a run
whose body is at work; a run that an operator marks as canceled without stopping it is left out. -/
structure DagsterInstance where
  getRunRecords : List RunRecord → String → List RunStatus → List RunRecord
  mayMove : DagsterRun → RunStatus → Bool
  mem_getRunRecords : ∀ records jobName statuses r, r ∈ getRunRecords records jobName statuses ↔
    r ∈ records ∧ r.jobName = jobName ∧ r.status ∈ statuses
  in_progress_of_mayMove : ∀ run status, mayMove run status = true → run.body = .draining →
    run.status ∈ inProgressStatuses → status ∈ inProgressStatuses

variable (dagster : DagsterInstance)

/-- Why the run is skipped, if another run of the job is in progress. -/
def overlapGuard (jobName reason runId : String) (records : List RunRecord) : Option String :=
  if (dagster.getRunRecords records jobName inProgressStatuses).any (·.runId ≠ runId) then
    some reason
  else none

/-- The guard of `foundry_aircraft_reconcile`. -/
def aircraftReconcileGuard : String → List RunRecord → Option String :=
  overlapGuard dagster "foundry_aircraft_reconcile_job"
    ("another foundry_aircraft_reconcile run is already in progress " ++
      "(coalesced — the previous run is still draining)")

/-- The guard of `foundry_flight_enrichment`. -/
def flightEnrichmentGuard : String → List RunRecord → Option String :=
  overlapGuard dagster "foundry_flight_enrichment_job"
    ("another foundry_flight_enrichment run is already in progress " ++
      "(coalesced — the previous run is still draining)")

/-- The guard of `foundry_flight_reconcile`. -/
def flightReconcileGuard : String → List RunRecord → Option String :=
  overlapGuard dagster "foundry_flight_reconcile_job"
    ("another foundry_flight_reconcile run is already in progress " ++
      "(coalesced — the previous run is still draining)")

/-- The guard of `foundry_cases_reconcile`. -/
def casesReconcileGuard : String → List RunRecord → Option String :=
  overlapGuard dagster "foundry_cases_reconcile_job"
    ("another foundry_cases_reconcile run is already in progress " ++
      "(coalesced — the previous run is still draining)")

/-- The guard of `foundry_flight_archive`. -/
def flightArchiveGuard : String → List RunRecord → Option String :=
  overlapGuard dagster "foundry_flight_archive_job"
    "another foundry_flight_archive run is already in progress (coalesced)"

def GuardedAsset.overlapReason : GuardedAsset → String → List RunRecord → Option String
  | .aircraftReconcile => aircraftReconcileGuard dagster
  | .flightEnrichment  => flightEnrichmentGuard dagster
  | .flightReconcile   => flightReconcileGuard dagster
  | .casesReconcile    => casesReconcileGuard dagster
  | .flightArchive     => flightArchiveGuard dagster

variable {dagster}

variable {asset : GuardedAsset} {runId : String} {records : List RunRecord}

/-- Every asset asks for the runs of its own job. -/
lemma overlapReason_eq_none_iff : asset.overlapReason dagster runId records = none ↔
    ∀ r ∈ records, r.jobName = asset.jobName → r.status ∈ inProgressStatuses → r.runId = runId := by
  have hguard : ∀ jobName reason, overlapGuard dagster jobName reason runId records = none ↔
      ∀ r ∈ records, r.jobName = jobName → r.status ∈ inProgressStatuses → r.runId = runId := by
    intro jobName reason
    simp [overlapGuard, dagster.mem_getRunRecords]
  cases asset <;> exact hguard _ _

/-! ### Runs -/

/-- The runs the orchestrator knows. -/
abbrev DagsterRuns := Table fun r : DagsterRun => r.runId

inductive DagsterAction where
  | launch (runId jobName : String) (asset : GuardedAsset)
  /-- The orchestrator or an operator changes the status of a run. -/
  | move (runId : String) (status : RunStatus)
  /-- The body begins with the guard. -/
  | start (runId : String)
  | finish (runId : String)
  | crash (runId : String)
  deriving DecidableEq, Repr

variable (dagster)

/-- The body of the asset at its start: the tick is skipped, or it goes on. -/
def startBody (runs : DagsterRuns) (run : DagsterRun) : DagsterRun :=
  match run.asset.overlapReason dagster run.runId (runs.rows.map DagsterRun.toRunRecord) with
  | some _ => { run with body := .over }
  | none   => { run with body := .draining }

/-- What a step makes of the run it is about; `none` when it cannot be taken. -/
def changedRun (runs : DagsterRuns) : DagsterAction → Option DagsterRun
  | .launch runId jobName asset =>
    if runs.lookup runId = none then some { runId, jobName, status := .notStarted, asset } else none
  | .move runId status          =>
    (runs.lookup runId).bind fun run =>
      if dagster.mayMove run status then some { run with status } else none
  | .start runId                =>
    (runs.lookup runId).bind fun run =>
      if run.status = .started ∧ run.body = .pending then some (startBody dagster runs run) else none
  | .finish runId               =>
    (runs.lookup runId).bind fun run =>
      if run.body = .draining then some { run with body := .over } else none
  | .crash runId                =>
    (runs.lookup runId).bind fun run =>
      if run.body = .draining then some { run with body := .crashed } else none

def dagsterStep (runs : DagsterRuns) (action : DagsterAction) : Option DagsterRuns :=
  (changedRun dagster runs action).map runs.upsert

/-- The run is one of the job of its asset. -/
def DagsterRun.OfJob (run : DagsterRun) : Prop := run.jobName = run.asset.jobName

/-! ### Steps -/

variable {dagster} {runs runs' : DagsterRuns} {action : DagsterAction} {run old : DagsterRun}

/-- What a step can do to a run: it is launched, its status changes while its body stays, its body
starts to drain because no other run of its job is in progress, or its body ends. -/
inductive RunChange (dagster : DagsterInstance) (runs : DagsterRuns) : DagsterAction → DagsterRun → Prop
  | launched {runId jobName : String} {asset : GuardedAsset} (hnew : runs.lookup runId = none) :
      RunChange dagster runs (.launch runId jobName asset)
        { runId, jobName, status := .notStarted, asset }
  | moved {old : DagsterRun} {status : RunStatus} (hold : old ∈ runs.rows)
      (hmay : dagster.mayMove old status = true) :
      RunChange dagster runs (.move old.runId status) { old with status }
  | drains {old : DagsterRun} (hold : old ∈ runs.rows) (hstatus : old.status = .started)
      (hpending : old.body = .pending)
      (halone : ∀ r ∈ runs.rows, r.jobName = old.asset.jobName → r.status ∈ inProgressStatuses →
        r.runId = old.runId) :
      RunChange dagster runs (.start old.runId) { old with body := .draining }
  | ended {action : DagsterAction} {old : DagsterRun} {body : BodyPhase} (hold : old ∈ runs.rows)
      (hwas : old.body = .pending ∨ old.body = .draining) (hbody : body ≠ .draining) :
      RunChange dagster runs action { old with body }

/-- A step that can be taken changes one run in one of these ways. -/
lemma exists_runChange (h : dagsterStep dagster runs action = some runs') :
    ∃ run, RunChange dagster runs action run ∧ runs' = runs.upsert run := by
  obtain ⟨run, hrun, rfl⟩ := Option.map_eq_some_iff.mp h
  refine ⟨run, ?_, rfl⟩
  cases action with
  | launch runId jobName asset =>
    simp only [changedRun, Option.ite_none_right_eq_some] at hrun
    obtain ⟨hnew, heq⟩ := hrun
    obtain rfl := Option.some.inj heq
    exact .launched hnew
  | move runId status =>
    simp only [changedRun, Option.bind_eq_some_iff, Option.ite_none_right_eq_some] at hrun
    obtain ⟨old, hold, hmay, heq⟩ := hrun
    obtain rfl := Option.some.inj heq
    obtain ⟨hmem, rfl⟩ := Table.lookup_eq_some_iff.mp hold
    exact .moved hmem hmay
  | start runId =>
    simp only [changedRun, Option.bind_eq_some_iff, Option.ite_none_right_eq_some] at hrun
    obtain ⟨old, hold, ⟨hstatus, hpending⟩, heq⟩ := hrun
    obtain ⟨hmem, rfl⟩ := Table.lookup_eq_some_iff.mp hold
    obtain rfl := Option.some.inj heq
    rw [startBody]
    split
    · exact .ended hmem (.inl hpending) (by simp)
    · next hnone =>
      refine .drains hmem hstatus hpending fun r hr hname hprogress => ?_
      exact overlapReason_eq_none_iff.mp hnone r.toRunRecord (List.mem_map_of_mem hr) hname hprogress
  | finish runId =>
    simp only [changedRun, Option.bind_eq_some_iff, Option.ite_none_right_eq_some] at hrun
    obtain ⟨old, hold, hdraining, heq⟩ := hrun
    obtain rfl := Option.some.inj heq
    exact .ended (Table.mem_rows_of_lookup hold) (.inr hdraining) (by simp)
  | crash runId =>
    simp only [changedRun, Option.bind_eq_some_iff, Option.ite_none_right_eq_some] at hrun
    obtain ⟨old, hold, hdraining, heq⟩ := hrun
    obtain rfl := Option.some.inj heq
    exact .ended (Table.mem_rows_of_lookup hold) (.inr hdraining) (by simp)

/-! ### Mutual exclusion -/

/-- A run whose body is at work is in progress, and no two such runs of one asset are of its job. -/
structure GuardInv (runs : DagsterRuns) : Prop where
  in_progress : ∀ r ∈ runs.rows, r.body = .draining → r.status ∈ inProgressStatuses
  exclusive : ∀ a ∈ runs.rows, ∀ b ∈ runs.rows, a.body = .draining → b.body = .draining →
    a.asset = b.asset → a.OfJob → b.OfJob → a.runId = b.runId

lemma GuardInv.in_progress_of_change (h : GuardInv runs)
    (hchange : RunChange dagster runs action run)
    (hdraining : run.body = .draining) : run.status ∈ inProgressStatuses := by
  cases hchange with
  | launched hnew => cases hdraining
  | moved hold hmay =>
    exact dagster.in_progress_of_mayMove _ _ hmay hdraining (h.in_progress _ hold hdraining)
  | drains hold hstatus hpending halone => simp [hstatus, inProgressStatuses]
  | ended hold hwas hbody => exact absurd hdraining hbody

/-- A run that has changed and drains is the only one of its job that does. -/
lemma GuardInv.exclusive_of_change (h : GuardInv runs) (hchange : RunChange dagster runs action run)
    (hdraining : run.body = .draining) {other : DagsterRun} (hother : other ∈ runs.rows)
    (hdraining' : other.body = .draining) (hasset : run.asset = other.asset) (hrun : run.OfJob)
    (hjob : other.OfJob) : run.runId = other.runId := by
  cases hchange with
  | launched hnew => cases hdraining
  | moved hold hmay => exact h.exclusive _ hold other hother hdraining hdraining' hasset hrun hjob
  | drains hold hstatus hpending halone =>
    -- the other run was in progress when this one asked
    have hname : other.jobName = other.asset.jobName := hjob
    rw [← hasset] at hname
    exact (halone other hother hname (h.in_progress other hother hdraining')).symm
  | ended hold hwas hbody => exact absurd hdraining hbody

lemma GuardInv.step (h : GuardInv runs) (hstep : dagsterStep dagster runs action = some runs') :
    GuardInv runs' := by
  obtain ⟨run, hchange, rfl⟩ := exists_runChange hstep
  constructor
  · intro r hr hdraining
    rcases Table.mem_rows_upsert.mp hr with rfl | ⟨hr, -⟩
    · exact h.in_progress_of_change hchange hdraining
    · exact h.in_progress r hr hdraining
  · intro a ha b hb hadraining hbdraining hasset hajob hbjob
    rcases Table.mem_rows_upsert.mp ha with rfl | ⟨ha', -⟩
    · rcases Table.mem_rows_upsert.mp hb with heq | ⟨hb', -⟩
      · rw [heq]
      · exact h.exclusive_of_change hchange hadraining hb' hbdraining hasset hajob hbjob
    · rcases Table.mem_rows_upsert.mp hb with rfl | ⟨hb', -⟩
      · exact (h.exclusive_of_change hchange hbdraining ha' hadraining hasset.symm hbjob hajob).symm
      · exact h.exclusive a ha' b hb' hadraining hbdraining hasset hajob hbjob

lemma guardInv_of_reached (h : Reached (dagsterStep dagster) unguarded (· = Table.empty) runs) :
    GuardInv runs := by
  refine h.invariant ?_ ?_
  · rintro s rfl
    constructor
    · intro r hr
      cases hr
    · intro a ha
      cases ha
  · intro s action t hs _ hstep
    exact hs.step hstep

/-- The runs of the job of an asset that are at work. -/
def drainingRuns (asset : GuardedAsset) (runs : DagsterRuns) : List DagsterRun :=
  runs.rows.filter fun r => r.asset = asset ∧ r.jobName = asset.jobName ∧ r.body = .draining

/-- In every interleaving of launches, status changes, starts and ends of the bodies, crashes
included, at most one run of a guarded job is at work. -/
theorem one_draining_run (dagster : DagsterInstance) (runs : DagsterRuns) (asset : GuardedAsset)
    (hreached : Reached (dagsterStep dagster) unguarded (· = Table.empty) runs) :
    (drainingRuns asset runs).length ≤ 1 := by
  have hinv := guardInv_of_reached hreached
  have hnodup : (drainingRuns asset runs).Nodup := runs.nodup_rows.filter _
  have heq : ∀ a ∈ drainingRuns asset runs, ∀ b ∈ drainingRuns asset runs, a = b := by
    intro a ha b hb
    obtain ⟨ha, haasset, hajob, hadraining⟩ : a ∈ runs.rows ∧ a.asset = asset ∧
        a.jobName = asset.jobName ∧ a.body = .draining := by
      simpa [drainingRuns] using ha
    obtain ⟨hb, hbasset, hbjob, hbdraining⟩ : b ∈ runs.rows ∧ b.asset = asset ∧
        b.jobName = asset.jobName ∧ b.body = .draining := by
      simpa [drainingRuns] using hb
    apply Table.row_eq_of_key_eq ha hb
    exact hinv.exclusive a ha b hb hadraining hbdraining (haasset.trans hbasset.symm)
      (by rw [DagsterRun.OfJob, haasset, hajob]) (by rw [DagsterRun.OfJob, hbasset, hbjob])
  match hruns : drainingRuns asset runs with
  | [] => simp
  | [_] => simp
  | a :: b :: _ =>
    rw [hruns] at heq hnodup
    have hab : a = b := heq a (by simp) b (by simp)
    simp [hab] at hnodup

/-- An orchestrator that moves a run forward, or to canceling, or to an end. -/
def forwardInstance : DagsterInstance where
  getRunRecords records jobName statuses :=
    records.filter fun r => r.jobName = jobName ∧ r.status ∈ statuses
  mayMove run
    | .queued    => run.status = .notStarted
    | .starting  => run.status = .queued
    | .started   => run.status = .starting
    | .canceling => run.status ∈ [.queued, .starting, .started]
    | .success   => run.body ≠ .draining
    | .failure   => run.body ≠ .draining
    | .canceled  => run.body ≠ .draining
    | _          => false
  mem_getRunRecords records jobName statuses r := by simp
  in_progress_of_mayMove run status hmay hdraining _ := by
    cases status <;> simp [hdraining, inProgressStatuses] at hmay ⊢

/-- A run of the aircraft reconcile is launched and started. -/
def startedRun (runId : String) : List DagsterAction :=
  [.launch runId "foundry_aircraft_reconcile_job" .aircraftReconcile,
   .move runId .queued, .move runId .starting, .move runId .started]

/-- The second run is skipped. -/
theorem one_draining_run_of_two : ∃ runs,
    runActions (dagsterStep forwardInstance) Table.empty
      (startedRun "one" ++ [.start "one"] ++ startedRun "two" ++ [.start "two"]) = some runs ∧
    (drainingRuns .aircraftReconcile runs).length ≤ 1 := by
  have hempty : Reached (dagsterStep forwardInstance) unguarded (· = Table.empty)
      (Table.empty : DagsterRuns) := .start rfl
  have hsome : (runActions (dagsterStep forwardInstance) Table.empty
      (startedRun "one" ++ [.start "one"] ++ startedRun "two" ++ [.start "two"])).isSome = true := by
    decide
  obtain ⟨runs, hruns, hreached⟩ := hempty.exists_run (guardsHold_unguarded _ _) hsome
  exact ⟨runs, hruns, one_draining_run forwardInstance runs .aircraftReconcile hreached⟩

/-- Two runs that are both started before either has asked skip both. -/
example : (runActions (dagsterStep forwardInstance) Table.empty
    (startedRun "one" ++ startedRun "two" ++ [.start "one", .start "two"])).map
      (fun runs => runs.rows.map DagsterRun.body) = some [.over, .over] := by decide

/-! ### A run that has died -/

/-- The step leaves the run alone. -/
def LeavesAlone (runId : String) (action : DagsterAction) : Prop :=
  ∀ status, action ≠ .move runId status

/-- Only a change of its status changes a run that has died. -/
lemma mem_rows_of_crashed (hstep : dagsterStep dagster runs action = some runs')
    (hold : old ∈ runs.rows)
    (hcrashed : old.body = .crashed) (halone : LeavesAlone old.runId action) :
    old ∈ runs'.rows := by
  obtain ⟨run, hchange, rfl⟩ := exists_runChange hstep
  refine Table.mem_rows_upsert.mpr (.inr ⟨hold, fun heq => ?_⟩)
  have hlookup : runs.lookup old.runId = some old := Table.lookup_of_mem hold
  cases hchange with
  | @launched runId jobName asset hnew =>
    have hid : old.runId = runId := heq
    rw [← hid, hlookup] at hnew
    cases hnew
  | moved hmem hmay =>
    obtain rfl := Table.row_eq_of_key_eq hold hmem heq
    exact halone _ rfl
  | drains hmem hstatus hpending _ =>
    obtain rfl := Table.row_eq_of_key_eq hold hmem heq
    rw [hcrashed] at hpending
    cases hpending
  | ended hmem hwas hbody =>
    obtain rfl := Table.row_eq_of_key_eq hold hmem heq
    rw [hcrashed] at hwas
    rcases hwas with h | h <;> cases h

/-- While a run of the job is in progress and has died, no body of its asset starts to drain. -/
lemma draining_before (hstep : dagsterStep dagster runs action = some runs')
    (hold : old ∈ runs.rows)
    (hjob : old.OfJob) (hcrashed : old.body = .crashed)
    (hprogress : old.status ∈ inProgressStatuses)
    (hrun : run ∈ runs'.rows) (hasset : run.asset = old.asset) (hdraining : run.body = .draining) :
    ∃ r ∈ runs.rows, r.runId = run.runId ∧ r.asset = run.asset ∧ r.body = .draining := by
  obtain ⟨changed, hchange, rfl⟩ := exists_runChange hstep
  rcases Table.mem_rows_upsert.mp hrun with rfl | ⟨hmem, -⟩
  · cases hchange with
    | launched hnew => cases hdraining
    | moved hmem hmay => exact ⟨_, hmem, rfl, rfl, hdraining⟩
    | @drains pending hmem hstatus hpending halone =>
      -- the run that has died would be the one that starts
      have hname : old.jobName = pending.asset.jobName := by
        rw [show pending.asset = old.asset from hasset]
        exact hjob
      have hsame := Table.row_eq_of_key_eq hold hmem (halone old hold hname hprogress)
      rw [← hsame, hcrashed] at hpending
      cases hpending
    | ended hmem hwas hbody => exact absurd hdraining hbody
  · exact ⟨run, hmem, rfl, rfl, hdraining⟩

/-- A run of a job that dies at work while its record stays in progress blocks the job: until its
status is changed, no other run of the asset gets past the guard, however many are launched. -/
theorem dead_run_blocks_job (dagster : DagsterInstance) (runs runs' : DagsterRuns)
    (old : DagsterRun)
    (actions : List DagsterAction)
    (hold : old ∈ runs.rows) (hjob : old.OfJob) (hcrashed : old.body = .crashed)
    (hprogress : old.status ∈ inProgressStatuses)
    (halone : ∀ action ∈ actions, LeavesAlone old.runId action)
    (hrun : runActions (dagsterStep dagster) runs actions = some runs') :
    old ∈ runs'.rows ∧ ∀ run ∈ runs'.rows, run.asset = old.asset → run.body = .draining →
      ∃ r ∈ runs.rows, r.runId = run.runId ∧ r.asset = run.asset ∧ r.body = .draining := by
  induction actions generalizing runs with
  | nil =>
    obtain rfl := Option.some.inj hrun
    exact ⟨hold, fun run hrun _ hdraining => ⟨run, hrun, rfl, rfl, hdraining⟩⟩
  | cons action actions ih =>
    obtain ⟨next, hstep, hrest⟩ := Option.bind_eq_some_iff.mp hrun
    have hold' := mem_rows_of_crashed hstep hold hcrashed (halone action (by simp))
    obtain ⟨hlast, hdrain⟩ := ih next hold' (fun a ha => halone a (by simp [ha])) hrest
    refine ⟨hlast, fun run hrun hasset hdraining => ?_⟩
    obtain ⟨r, hr, hid, hasset', hdraining'⟩ := hdrain run hrun hasset hdraining
    obtain ⟨r', hr', hid', hasset'', hdraining''⟩ :=
      draining_before hstep hold hjob hcrashed hprogress hr (hasset'.trans hasset) hdraining'
    exact ⟨r', hr', hid'.trans hid, hasset''.trans hasset', hdraining''⟩

/-- A run that has died while its record says that it is started. -/
def deadRun : DagsterRun where
  runId := "one"
  jobName := "foundry_aircraft_reconcile_job"
  status := .started
  asset := .aircraftReconcile
  body := .crashed

def afterCrash : DagsterRuns where
  rows := [deadRun]
  nodup := by decide

theorem dead_run_blocks_two : ∃ runs',
    runActions (dagsterStep forwardInstance) afterCrash
      (startedRun "two" ++ [.start "two"]) = some runs' ∧
    deadRun ∈ runs'.rows ∧ ∀ run ∈ runs'.rows, run.asset = deadRun.asset → run.body = .draining →
      ∃ r ∈ afterCrash.rows, r.runId = run.runId ∧ r.asset = run.asset ∧ r.body = .draining := by
  have hsome : (runActions (dagsterStep forwardInstance) afterCrash
      (startedRun "two" ++ [.start "two"])).isSome = true := by decide
  obtain ⟨runs', hruns⟩ := Option.isSome_iff_exists.mp hsome
  refine ⟨runs', hruns, ?_⟩
  apply dead_run_blocks_job forwardInstance afterCrash runs' deadRun _ ?_ rfl rfl ?_ ?_ hruns
  · simp [afterCrash]
  · decide
  · intro action haction status heq
    subst heq
    simp [startedRun, deadRun] at haction ⊢

end FleetMonitor
