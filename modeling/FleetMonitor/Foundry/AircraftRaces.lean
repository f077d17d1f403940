import FleetMonitor.Foundry.AircraftReconcile
import Mathlib.Logic.Function.Basic

/-!
# The aircraft reconcile among the other jobs

Positions are ingested and pruned, positions ticks upsert Aircraft, and reconcile runs delete them,
in any interleaving. A run deletes by a feed it has fetched before it lists the tenant, and a feed
has a ceiling, so an aircraft that is live can be an orphan to it. It is none when the ceiling is
not reached and no aircraft the run lists is seen again after a feed without it.
-/

namespace FleetMonitor.AircraftReconcile

open Library

/-! ### The system -/

/-- Where the Aircraft writes of a positions tick stand: the chunks that are left. -/
inductive PositionsSyncPhase where
  | idle
  | posting (chunks : List (List UpsertRequest))
  deriving DecidableEq, Repr

inductive PositionsSyncAction where
  | fetch (order : List CurrentPosition)
  | post (outcome : PostOutcome)
  | stop

/-- One step of the Aircraft half of `incremental_sync_positions`. -/
def positionsSyncStep (now : Instant) (positions : CurrentPositions) (tenant : ObjectSet) :
    PositionsSyncPhase → PositionsSyncAction → Option (ObjectSet × PositionsSyncPhase)
  | .idle, .fetch order =>
    (fetchPositionsLive now positions order).map fun response =>
      let aircraft := (aircraftRows response.items).map positionToAircraft
      (tenant, .posting (chunks maxBatch (aircraft.map aircraftParams)))
  | .posting (chunk :: rest), .post outcome =>
    some (if outcome.applied then chunk.foldl applyUpsert tenant else tenant,
      outcome.phase (.posting rest) (.posting (chunk :: rest)) .idle)
  | _, .stop => some (tenant, .idle)
  | _, _     => none

/-- A reconcile run under way, and its history. -/
structure ReconcileRun where
  run : ℕ
  phase : ReconcilePhase
  /-- The feed it has fetched. -/
  feed : List String := []
  /-- What the pages of its listing have shown. -/
  listed : List String := []
  /-- What has been ingested within the live window since the fetch. -/
  seen : List String := []
  deriving DecidableEq, Repr

/-- The history after a step that leads to the phase. -/
def ReconcileRun.after (run : ReconcileRun) (phase : ReconcilePhase) :
    ReconcileAction → ReconcileRun
  | .fetch _ =>
    match phase with
    | .listing live _ => { run with phase, feed := live, listed := [], seen := [] }
    | _               => { run with phase }
  | .page objs => { run with phase, listed := run.listed ++ objs.map OntologyObject.pk }
  | _          => { run with phase }

@[simp] lemma ReconcileRun.after_phase (run : ReconcileRun) (phase : ReconcilePhase)
    (a : ReconcileAction) : (run.after phase a).phase = phase := by
  unfold ReconcileRun.after
  split
  next => split <;> rfl
  next => rfl
  next => rfl

def noteSeen (ids : List String) (runs : Table ReconcileRun.run) : Table ReconcileRun.run where
  rows := runs.rows.map fun run => { run with seen := ids ++ run.seen }
  nodup := by
    rw [List.map_map]
    exact runs.nodup

structure State where
  now : Instant
  positions : CurrentPositions
  tenant : ObjectSet
  syncs : ℕ → PositionsSyncPhase
  runs : Table ReconcileRun.run

inductive Action where
  | wait (now : Instant)
  /-- One statement of a poll. -/
  | ingest (aircraftTypes : Dict String) (rows : List PositionSnapshot)
  | prune
  | sync (p : ℕ) (a : PositionsSyncAction)
  | reconcile (r : ℕ) (a : ReconcileAction)

def State.run (s : State) (r : ℕ) : ReconcileRun :=
  (s.runs.lookup r).getD { run := r, phase := .idle }

/-- The aircraft among the rows that are within the live window. -/
def State.seenNow (s : State) (rows : List CurrentPosition) : List String :=
  (rows.filter fun row => s.now - livePositionWindow ≤ row.lastSeenAt).map CurrentPosition.icao24

variable (columns : PositionColumns)

def act (s : State) : Action → Option State
  | .wait now => if s.now ≤ now then some { s with now } else none
  | .ingest aircraftTypes rows =>
    let rows := rows.map (excludedRow s.now aircraftTypes)
    (upsertCurrentPositions columns s.now s.positions rows).map fun positions =>
      { s with positions, runs := noteSeen (s.seenNow rows) s.runs }
  | .prune => some { s with positions := pruneStalePositions s.now s.positions }
  | .sync p a =>
    (positionsSyncStep s.now s.positions s.tenant (s.syncs p) a).map fun (tenant, phase) =>
      { s with tenant, syncs := Function.update s.syncs p phase }
  | .reconcile r a =>
    (reconcileStep s.now s.positions s.tenant (s.run r).phase a).map fun (tenant, phase) =>
      { s with tenant, runs := s.runs.upsert ((s.run r).after phase a) }

/-- Nothing runs. -/
structure init (s : State) : Prop where
  syncs : ∀ p, s.syncs p = .idle
  runs : s.runs.rows = []

/-- The aircraft is in the live window, in a region of the live scope. -/
def State.Live (s : State) (icao24 : String) : Prop :=
  ∃ row ∈ s.positions.rows, row.icao24 = icao24 ∧ s.now - livePositionWindow ≤ row.lastSeenAt ∧
    inLiveScope (row.toPosition s.now).toPosition

instance (s : State) : DecidablePred s.Live := fun _ =>
  inferInstanceAs (Decidable (∃ row ∈ _, _ ∧ _))

/-- Whatever delete is issued next, none of its aircraft is live. -/
def DeletesNoLive (s : State) : Prop :=
  ∀ run ∈ s.runs.rows, ∀ id ∈ run.phase.nextChunk, ¬s.Live id

instance : DecidablePred DeletesNoLive := fun _ => inferInstanceAs (Decidable (∀ run ∈ _, _))

/-! ### The condition -/

/-- The live window has no more aircraft than the feed has room for. -/
def FeedFits (s : State) : Prop :=
  (s.positions.rows.filter fun row => s.now - livePositionWindow ≤ row.lastSeenAt).length ≤
    livePositionCeiling

instance : DecidablePred FeedFits := fun _ => inferInstanceAs (Decidable (_ ≤ _))

/-- At the fetch of a run the ceiling is not reached, and from there to the end of the run no
aircraft that its listing shows and its feed does not is ingested within the live window. -/
def guard (s : State) : Action → Prop
  | .ingest aircraftTypes rows =>
    ∀ id ∈ s.seenNow (rows.map (excludedRow s.now aircraftTypes)),
      ∀ run ∈ s.runs.rows, run.phase ≠ .idle → id ∈ run.listed → id ∈ run.feed
  | .reconcile _ (.fetch _)   => FeedFits s
  | .reconcile r (.page objs) => ∀ o ∈ objs, o.pk ∈ (s.run r).seen → o.pk ∈ (s.run r).feed
  | _                         => True

/-! ### The invariant -/

/-- What a run is about to delete its listing shows and its feed does not; while it is under way,
what is live is in its feed or has been seen since. -/
structure RunInv (s : State) (run : ReconcileRun) : Prop where
  listing : ∀ live objs, run.phase = .listing live objs →
    live = run.feed ∧ ∀ o ∈ objs, o.pk ∈ run.listed
  pending : ∀ id ∈ run.phase.pending, id ∈ run.listed ∧ id ∉ run.feed
  live : run.phase ≠ .idle → ∀ id, s.Live id → id ∈ run.feed ∨ id ∈ run.seen
  seen : run.phase ≠ .idle → ∀ id ∈ run.listed, id ∈ run.seen → id ∈ run.feed

def Inv (s : State) : Prop := ∀ run ∈ s.runs.rows, RunInv s run

variable {columns} {s t : State} {id : String} {r : ℕ} {run : ReconcileRun} {phase : ReconcilePhase}

/-- Every region is in the live scope. -/
lemma live_iff_seenSince :
    s.Live id ↔ SeenSince s.positions (s.now - livePositionWindow) id := by
  have hscope : ∀ p, inLiveScope p = true := fun _ => rfl
  simp [State.Live, SeenSince, hscope]

lemma mem_liveSet {response : LiveResponse} :
    id ∈ liveSet response ↔ id ∈ response.items.map (·.icao24) := by
  have hscope : (response.items.filter fun p => inLiveScope p.toPosition) = response.items :=
    List.filter_eq_self.mpr fun _ _ => rfl
  rw [liveSet, hscope, List.mem_dedup]

lemma ne_idle_of_mem_pending (h : id ∈ phase.pending) : phase ≠ .idle := by
  rintro rfl
  simp [ReconcilePhase.pending] at h

/-- No delete that is left is of a live aircraft. -/
lemma RunInv.not_live (h : RunInv s run) (hid : id ∈ run.phase.pending) : ¬s.Live id := by
  intro hlive
  obtain ⟨hlisted, hfeed⟩ := h.pending id hid
  have hphase := ne_idle_of_mem_pending hid
  rcases h.live hphase id hlive with hin | hseen
  · exact hfeed hin
  · exact hfeed (h.seen hphase id hlisted hseen)

/-- A run that is over, or has not begun. -/
lemma RunInv.idle (h : run.phase = .idle) : RunInv s run where
  listing live objs hphase := by simp [h] at hphase
  pending := by simp [h, ReconcilePhase.pending]
  live hne := absurd h hne
  seen hne := absurd h hne

lemma Inv.runInv (h : Inv s) (r : ℕ) : RunInv s (s.run r) := by
  unfold State.run
  cases hrun : s.runs.lookup r with
  | none => exact .idle rfl
  | some run => exact h run (Table.mem_rows_of_lookup hrun)

lemma RunInv.mono (h : RunInv s run) (hlive : ∀ id, t.Live id → s.Live id) : RunInv t run :=
  { h with live := fun hphase id hid => h.live hphase id (hlive id hid) }

lemma Inv.of_live (h : Inv s) (hruns : t.runs = s.runs) (hlive : ∀ id, t.Live id → s.Live id) :
    Inv t := by
  intro run hrun
  rw [hruns] at hrun
  exact (h run hrun).mono hlive

/-! ### The steps -/

/-- What is ingested is seen, by every run. -/
lemma Inv.ingest (h : Inv s) {rows : List CurrentPosition} {positions : CurrentPositions}
    (hrows : ∀ id ∈ s.seenNow rows, ∀ run ∈ s.runs.rows, run.phase ≠ .idle → id ∈ run.listed →
      id ∈ run.feed)
    (hafter : upsertCurrentPositions columns s.now s.positions rows = some positions) :
    Inv { s with positions, runs := noteSeen (s.seenNow rows) s.runs } := by
  intro run hrun
  obtain ⟨old, hold, rfl⟩ := List.mem_map.mp hrun
  have hinv := h old hold
  refine ⟨hinv.listing, hinv.pending, fun hphase id hlive => ?_, fun hphase id hlisted hseen => ?_⟩
  · rcases (seenSince_upsertCurrentPositions hafter).mp (live_iff_seenSince.mp hlive) with
      ⟨row, hrow, rfl, hrecent⟩ | hbefore
    · have hnow : row.icao24 ∈ s.seenNow rows :=
        List.mem_map_of_mem (List.mem_filter.mpr ⟨hrow, decide_eq_true hrecent⟩)
      exact .inr (List.mem_append_left _ hnow)
    · refine (hinv.live hphase id (live_iff_seenSince.mpr hbefore)).imp_right ?_
      exact List.mem_append_right _
  · rcases List.mem_append.mp hseen with hnow | hbefore
    · exact hrows id hnow old hold hphase hlisted
    · exact hinv.seen hphase id hlisted hbefore

/-- The feed of a fetch has all that is live. -/
lemma RunInv.fetch {order : List CurrentPosition} {response : LiveResponse} (hfits : FeedFits s)
    (hfeed : fetchPositionsLive s.now s.positions order = some response) :
    RunInv s (run.after (.listing (liveSet response) []) (.fetch order)) where
  listing live objs hphase := by
    obtain ⟨rfl, rfl⟩ := ReconcilePhase.listing.inj hphase
    simp [ReconcileRun.after]
  pending := by simp [ReconcileRun.after, ReconcilePhase.pending]
  live _ id hlive := by
    refine .inl (mem_liveSet.mpr ?_)
    exact (mem_feed hfeed (truncated_eq_false hfeed hfits)).mpr (live_iff_seenSince.mp hlive)
  seen := by simp [ReconcileRun.after]

lemma RunInv.page {live : List String} {objs page : List OntologyObject} (h : RunInv s run)
    (hphase : run.phase = .listing live objs)
    (hpage : ∀ o ∈ page, o.pk ∈ run.seen → o.pk ∈ run.feed) :
    RunInv s (run.after (.listing live (objs ++ page)) (.page page)) := by
  obtain ⟨hlive, hobjs⟩ := h.listing live objs hphase
  have hbusy : run.phase ≠ .idle := by simp [hphase]
  refine ⟨fun live' objs' heq => ?_, by simp [ReconcileRun.after, ReconcilePhase.pending],
    fun _ => h.live hbusy, fun _ id hlisted hseen => ?_⟩
  · obtain ⟨rfl, rfl⟩ := ReconcilePhase.listing.inj heq
    refine ⟨hlive, fun o ho => ?_⟩
    rcases List.mem_append.mp ho with ho | ho
    · exact List.mem_append_left _ (hobjs o ho)
    · exact List.mem_append_right _ (List.mem_map_of_mem ho)
  · rcases List.mem_append.mp hlisted with hlisted | hlisted
    · exact h.seen hbusy id hlisted hseen
    · obtain ⟨o, ho, rfl⟩ := List.mem_map.mp hlisted
      exact hpage o ho hseen

/-- A run plans to delete what it has listed and its feed does not have. -/
lemma RunInv.plan {live : List String} {objs : List OntologyObject} (h : RunInv s run)
    (hphase : run.phase = .listing live objs) :
    RunInv s (run.after (.deleting (reconcilePlan live (aircraftPks objs)).toDelete) .plan) := by
  obtain ⟨rfl, hobjs⟩ := h.listing live objs hphase
  have hbusy : run.phase ≠ .idle := by simp [hphase]
  refine ⟨by simp [ReconcileRun.after], fun id hid => ?_, fun _ => h.live hbusy,
    fun _ => h.seen hbusy⟩
  obtain ⟨hpk, hnot⟩ := mem_orphans.mp (List.mem_of_mem_take hid)
  obtain ⟨o, ho, rfl⟩ := List.mem_map.mp (List.mem_dedup.mp hpk)
  exact ⟨hobjs o (List.mem_of_mem_filter ho), hnot⟩

/-- A run that goes on deletes no more than it was about to. -/
lemma RunInv.deleting {rest left : List String} {a : ReconcileAction} (h : RunInv s run)
    (hphase : run.phase = .deleting rest) (hleft : left ⊆ rest)
    (hafter : run.after (.deleting left) a = { run with phase := .deleting left }) :
    RunInv s (run.after (.deleting left) a) := by
  have hbusy : run.phase ≠ .idle := by simp [hphase]
  rw [hafter]
  refine ⟨by simp, fun id hid => h.pending id ?_, fun _ => h.live hbusy, fun _ => h.seen hbusy⟩
  rw [hphase]
  exact hleft hid

lemma RunInv.step {tenant : ObjectSet} {a : ReconcileAction} (h : RunInv s (s.run r))
    (hg : guard s (.reconcile r a))
    (hstep : reconcileStep s.now s.positions s.tenant (s.run r).phase a = some (tenant, phase)) :
    RunInv s ((s.run r).after phase a) := by
  unfold reconcileStep at hstep
  split at hstep
  next order hphase =>
    obtain ⟨response, hfeed, heq⟩ := Option.map_eq_some_iff.mp hstep
    obtain ⟨-, rfl⟩ := Prod.mk.inj heq
    split_ifs
    · exact .idle (by simp)
    · exact .fetch hg hfeed
  next live objs page hphase =>
    split_ifs at hstep
    obtain ⟨-, rfl⟩ := Prod.mk.inj (Option.some.inj hstep)
    exact h.page hphase hg
  next live objs hphase =>
    obtain ⟨-, rfl⟩ := Prod.mk.inj (Option.some.inj hstep)
    exact h.plan hphase
  next first rest outcome hphase =>
    obtain ⟨-, rfl⟩ := Prod.mk.inj (Option.some.inj hstep)
    cases outcome with
    | posted => exact h.deleting hphase (List.drop_subset _ _) rfl
    | retried => exact h.deleting hphase (List.Subset.refl _) rfl
    | failed => exact .idle (by simp [PostOutcome.phase])
  next =>
    obtain ⟨-, rfl⟩ := Prod.mk.inj (Option.some.inj hstep)
    exact .idle (by simp)
  next => simp at hstep

lemma Inv.step (h : Inv s) {a : Action} (hg : guard s a) (hact : act columns s a = some t) :
    Inv t := by
  cases a with
  | wait now =>
    simp only [act] at hact
    split_ifs at hact with hle
    obtain rfl := Option.some.inj hact
    refine h.of_live rfl fun id hlive => ?_
    rw [live_iff_seenSince] at hlive ⊢
    exact hlive.mono (sub_le_sub_right (α := ℤ) hle _)
  | ingest aircraftTypes rows =>
    obtain ⟨positions, hafter, rfl⟩ := Option.map_eq_some_iff.mp hact
    exact h.ingest hg hafter
  | prune =>
    obtain rfl := Option.some.inj hact
    refine h.of_live rfl fun id hlive => ?_
    rw [live_iff_seenSince] at hlive ⊢
    exact hlive.of_prune
  | sync p a =>
    obtain ⟨⟨tenant, phase⟩, -, rfl⟩ := Option.map_eq_some_iff.mp hact
    exact h.of_live rfl fun _ hlive => hlive
  | reconcile r a =>
    obtain ⟨⟨tenant, phase⟩, hstep, rfl⟩ := Option.map_eq_some_iff.mp hact
    intro run hrun
    rcases Table.mem_rows_upsert.mp hrun with rfl | ⟨hrun, -⟩
    · exact ((h.runInv r).step hg hstep).mono fun _ hlive => hlive
    · exact (h run hrun).mono fun _ hlive => hlive

lemma inv_of_reached (h : Reached (act columns) guard init s) : Inv s := by
  refine h.invariant (fun s hinit => ?_) fun _ _ _ hI hg hact => hI.step hg hact
  intro run hrun
  simp [hinit.runs] at hrun

/-! ### The result -/

/-- In every run of the system whose steps meet the condition, no delete is issued for an aircraft
that is live. And with a feed that stays the same, is not truncated and not empty, runs whose
deletes succeed count their orphans, and one after the other reach what is live of the tenant,
each orphan being deleted once. -/
theorem reconcile_aircraft_keeps_live (columns : PositionColumns) (now : Instant)
    (positions : CurrentPositions) (order : List CurrentPosition) :
    (∀ s, Reached (act columns) guard init s → DeletesNoLive s) ∧
    ∀ response, fetchPositionsLive now positions order = some response →
      response.truncated = false → response.items ≠ [] → ∀ tenant : ObjectSet,
      let live := liveSet response
      let plan := reconcilePlan live (aircraftPks tenant.rows)
      (∀ pages, pages.flatten = tenant.rows →
        runActions (reconcileAlone now positions) (tenant, .idle)
          (runActionsOf order pages plan.toDelete) =
            some (reconcileOnce live tenant, .deleting [])) ∧
      plan.orphans = plan.toDelete.length + plan.remaining ∧
      ∀ n, plan.orphans ≤ n * aircraftReconcileDeleteCap →
        deletedIn live n tenant = orphans live (aircraftPks tenant.rows) ∧
        (deletedIn live n tenant).Nodup ∧
        ∀ id, id ∈ aircraftPks (tenantAfter live n tenant).rows ↔
          id ∈ aircraftPks tenant.rows ∧ SeenSince positions (now - livePositionWindow) id := by
  constructor
  · intro s hs run hrun id hid
    exact (inv_of_reached hs run hrun).not_live (List.mem_of_mem_take hid)
  · intro response hfeed htruncated hitems tenant live plan
    have hlive : ∀ id, id ∈ live ↔ SeenSince positions (now - livePositionWindow) id :=
      fun id => mem_liveSet.trans (mem_feed hfeed htruncated)
    refine ⟨fun pages hpages => run_reconcileOnce hfeed hitems hpages, ?_, fun n hn => ?_⟩
    · have hle : plan.toDelete.length ≤ plan.orphans := List.length_take_le' ..
      have hremaining : plan.remaining = plan.orphans - plan.toDelete.length := rfl
      omega
    · have hall : deletedIn live n tenant = orphans live (aircraftPks tenant.rows) := by
        rw [deletedIn_eq, List.take_of_length_le hn]
      refine ⟨hall, hall ▸ nodup_orphans (List.nodup_dedup _), fun id => ?_⟩
      rw [mem_aircraftPks, mem_keys_tenantAfter, hall, mem_orphans, ← hlive, mem_aircraftPks]
      tauto

/-! ### An aircraft that comes back -/

instance (s : State) (a : Action) : Decidable (guard s a) := by
  unfold guard; split <;> infer_instance

def polled (icao24 : String) (tsPolled : Instant) : PositionSnapshot where
  icao24 := icao24
  callsign := none
  originCountry := none
  lat := 40
  lon := -73
  altitudeFt := none
  speedKt := none
  headingDeg := none
  verticalRateFpm := none
  onGround := false
  squawk := none
  tsPolled := tsPolled
  tsPosition := none
  customerRegion := none

/-- The one aircraft that is live. -/
def liveRow : CurrentPosition := excludedRow 7200000000 (fun _ => none) (polled "b00001" 7200000000)

/-- The tenant has another one, which left an hour ago. -/
def startState : State where
  now := 7200000000
  positions := ⟨[liveRow], by decide⟩
  tenant := ⟨[⟨"a00001", []⟩, ⟨"b00001", []⟩], by decide⟩
  syncs := fun _ => .idle
  runs := ⟨[], by decide⟩

lemma init_startState : init startState := ⟨fun _ => rfl, rfl⟩

/-- A run reads the feed and the tenant. -/
def reads : List Action :=
  [.reconcile 0 (.fetch [liveRow]), .reconcile 0 (.page startState.tenant.rows)]

/-- The other aircraft is seen again before the run deletes it. -/
def racingRun : List Action :=
  reads ++ [.ingest (fun _ => none) [polled "a00001" 7200000000], .reconcile 0 .plan]

lemma racingRun_deletes :
    ∀ s ∈ runActions (act postgresColumns) startState racingRun, ¬DeletesNoLive s := by
  decide +kernel

/-- Not every interleaving keeps the live aircraft. -/
theorem live_aircraft_deleted :
    ¬∀ s, Reached (act postgresColumns) unguarded init s → DeletesNoLive s := by
  intro h
  have hsome : (runActions (act postgresColumns) startState racingRun).isSome := by decide +kernel
  obtain ⟨s, hs, hreached⟩ :=
    (Reached.start init_startState).exists_run (guardsHold_unguarded _ _) hsome
  exact racingRun_deletes s hs (h s hreached)

/-- The aircraft of the feed is seen again, and the run deletes the one that has left. -/
def orderlyRun : List Action :=
  reads ++ [.ingest (fun _ => none) [polled "b00001" 7200000001], .reconcile 0 .plan]

theorem orderlyRun_keeps_live : ∃ s,
    runActions (act postgresColumns) startState orderlyRun = some s ∧
      (s.run 0).phase = .deleting ["a00001"] ∧ DeletesNoLive s := by
  have hsome : (runActions (act postgresColumns) startState orderlyRun).isSome := by decide +kernel
  have hguards : GuardsHold (act postgresColumns) guard startState orderlyRun := by decide +kernel
  obtain ⟨s, hs, hreached⟩ := (Reached.start init_startState).exists_run hguards hsome
  have hphase : ∀ s ∈ runActions (act postgresColumns) startState orderlyRun,
      (s.run 0).phase = .deleting ["a00001"] := by
    decide +kernel
  exact ⟨s, hs, hphase s hs,
    (reconcile_aircraft_keeps_live postgresColumns 0 startState.positions []).1 s hreached⟩

end FleetMonitor.AircraftReconcile
