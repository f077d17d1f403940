import FleetMonitor.Archive.FlightArchive
import FleetMonitor.Foundry.FlightReconcile
import FleetMonitor.Library.StaleWrites

/-!
# The jobs that share the flights

The archive deletes flights, the enrichment and the reconcile upsert flights they have listed
before. Each job has its overlap guard, so one run of it is under way at a time, but nothing keeps
the jobs apart: an upsert of a flight that the archive has deleted in the meantime creates it again.
-/

namespace FleetMonitor.FlightJobs

open Library Library.StaleWrites

/-! ### The system -/

structure JobSettings where
  grace : Instant
  retention : Instant
  cap : ℕ
  isliveEnabled : Bool

/-- Where the archive run stands. -/
inductive ArchivePhase where
  | idle
  | paging (now : Instant) (archived : ℕ)
  | writing (now : Instant) (archived : ℕ) (capped : Bool) (groups : List (Date × List ArchiveRow))
      (writtenIds : List String) (files : List ArchivedFlight)
  | deleting (now : Instant) (archived : ℕ) (capped : Bool) (chunk : List String)
      (rest : List (List String))
  deriving DecidableEq, Repr

inductive ArchiveAction where
  | start (now : Instant)
  | page (objs : List OntologyObject)
  /-- One partition; of its rows those that are kept can be read. -/
  | write (keep : ArchiveRow → Bool)
  | verify (sees : ArchivedFlight → Bool)
  | delete (outcome : PostOutcome)
  /-- The run is over, or it fails. -/
  | stop

/-- The tenant's flights, the cold store, the flights an archive run has deleted, and the runs. -/
structure State where
  tenant : ObjectSet
  coldStore : List ArchivedFlight
  deleted : List String
  archive : ArchivePhase := .idle
  enrichment : EnrichmentPhase := .idle
  reconcile : FlightReconcilePhase := .idle

inductive Action where
  | archive (a : ArchiveAction)
  | enrich (a : EnrichmentAction)
  | reconcile (a : FlightReconcileAction)

variable (cfg : JobSettings)

/-- The archive run after it has read a page. -/
def afterArchivePage (now : Instant) (archived : ℕ) (page : List OntologyObject) : ArchivePhase :=
  match scanPage (now - cfg.grace) (now - cfg.retention)
    (page.filter fun o => decide (Completed o)) with
  | .error _ => .idle
  | .ok (eligible, _) =>
    if eligible = [] then .paging now archived
    else
      let room := cfg.cap - archived
      if room = 0 then .idle
      else
        match rowsByDate now (eligible.take room) [] with
        | .error _ => .idle
        | .ok groups =>
          .writing now archived (decide (room < eligible.length)) groups
            ((groups.flatMap Prod.snd).map ArchiveRow.flightId).dedup []

/-- The archive run with these chunks left to delete. -/
def deletingPhase (now : Instant) (archived : ℕ) (capped : Bool) : List (List String) → ArchivePhase
  | []            => if capped then .idle else .paging now archived
  | chunk :: rest => .deleting now archived capped chunk rest

/-- One step of `_run_flight_archive`; a page has objects of the tenant. -/
def archiveStep (s : State) : ArchivePhase → ArchiveAction → Option State
  | .idle, .start now => some { s with archive := .paging now 0 }
  | .paging now archived, .page page =>
    if ∀ o ∈ page, o ∈ s.tenant.rows then
      some { s with archive := afterArchivePage cfg now archived page }
    else none
  | .writing now archived capped ((date, rows) :: groups) writtenIds files, .write keep =>
    let file := (rows.filter keep).map (ArchivedFlight.mk date)
    some { s with
      coldStore := s.coldStore ++ file
      archive := .writing now archived capped groups writtenIds (files ++ file) }
  | .writing now archived capped [] writtenIds files, .verify sees =>
    let readback := (files.filter sees).map ArchivedFlight.flightId
    if ∀ id ∈ writtenIds, id ∈ readback then
      some { s with
        archive := deletingPhase now (archived + writtenIds.length) capped
          (chunks maxBatch (sortedIds writtenIds)) }
    else some { s with archive := .idle }
  | .deleting now archived capped chunk rest, .delete outcome =>
    let archive := outcome.phase (deletingPhase now archived capped rest)
      (.deleting now archived capped chunk rest) .idle
    if outcome.applied then
      some { s with tenant := s.tenant.delete chunk, deleted := s.deleted ++ chunk, archive }
    else some { s with archive }
  | _, .stop => some { s with archive := .idle }
  | _, _     => none

def act (s : State) : Action → Option State
  | .archive a => archiveStep cfg s s.archive a
  | .enrich a =>
    (enrichmentStep cfg.isliveEnabled s.tenant s.enrichment a).map fun (tenant, enrichment) =>
      { s with tenant, enrichment }
  | .reconcile a =>
    (flightReconcileStep cfg.isliveEnabled s.tenant s.reconcile a).map fun (tenant, reconcile) =>
      { s with tenant, reconcile }

/-- Nothing runs; what the archive has deleted is in the cold store only. -/
structure init (s : State) : Prop where
  archive : s.archive = .idle
  enrichment : s.enrichment = .idle
  reconcile : s.reconcile = .idle
  archived : ∀ id ∈ s.deleted, ∃ c ∈ s.coldStore, c.flightId = id
  deleted : ∀ id ∈ s.deleted, id ∉ s.tenant.keys

/-! ### The condition -/

/-- A run of the enrichment or of the reconcile may still write the flight. -/
def MayWrite (s : State) (id : String) : Prop :=
  s.enrichment.MayWrite id ∨ s.reconcile.MayWrite cfg.isliveEnabled id

instance (s : State) : DecidablePred (MayWrite cfg s) := fun _ =>
  inferInstanceAs (Decidable (_ ∨ _))

/-- The flights the archive deletes next. -/
def ArchivePhase.nextDelete : ArchivePhase → List String
  | .deleting _ _ _ chunk _ => chunk
  | _                       => []

/-- The archive deletes no flight that another run may still write. -/
def guard (s : State) : Action → Prop
  | .archive (.delete outcome) => outcome.applied → ∀ id ∈ s.archive.nextDelete, ¬ MayWrite cfg s id
  | _                          => True

instance (s : State) (a : Action) : Decidable (guard cfg s a) := by
  unfold guard; split <;> infer_instance

/-! ### The invariant -/

/-- The flights of the tenant, those a run may still write, and those the archive has deleted. -/
def keysOf (s : State) : Keys String where
  live := {id | id ∈ s.tenant.keys}
  held := {id | MayWrite cfg s id}
  gone := {id | id ∈ s.deleted}

/-- What the archive run has written and verified is in the cold store. -/
def ArchivePhase.Stored (coldStore : List ArchivedFlight) : ArchivePhase → Prop
  | .writing _ _ _ _ _ files     => ∀ c ∈ files, c ∈ coldStore
  | .deleting _ _ _ chunk rest   =>
    ∀ id ∈ chunk ++ rest.flatten, ∃ c ∈ coldStore, c.flightId = id
  | _                            => True

structure Inv (s : State) : Prop where
  stored : s.archive.Stored s.coldStore
  archived : ∀ id ∈ s.deleted, ∃ c ∈ s.coldStore, c.flightId = id

variable {cfg} {s t : State}

lemma stored_deletingPhase {coldStore : List ArchivedFlight} {now : Instant} {archived : ℕ}
    {capped : Bool} {todo : List (List String)}
    (h : ∀ id ∈ todo.flatten, ∃ c ∈ coldStore, c.flightId = id) :
    (deletingPhase now archived capped todo).Stored coldStore := by
  cases todo with
  | nil =>
    rw [deletingPhase]
    split_ifs <;> trivial
  | cons chunk rest => simpa [deletingPhase, ArchivePhase.Stored] using h

/-- What a step of the archive run does. -/
inductive ArchiveRule (cfg : JobSettings) (s : State) : ArchiveAction → State → Prop where
  /-- The run goes on or ends; the two stores stay as they are. -/
  | move (a : ArchiveAction) (phase : ArchivePhase)
      (h : Inv s → phase.Stored s.coldStore) : ArchiveRule cfg s a { s with archive := phase }
  | write (keep : ArchiveRow → Bool) (now : Instant) (archived : ℕ) (capped : Bool)
      (groups : List (Date × List ArchiveRow)) (writtenIds : List String)
      (files file : List ArchivedFlight)
      (hp : s.archive = .writing now archived capped groups writtenIds files) :
      ArchiveRule cfg s (.write keep) { s with
        coldStore := s.coldStore ++ file
        archive := .writing now archived capped groups.tail writtenIds (files ++ file) }
  | delete (outcome : PostOutcome) (chunk : List String) (phase : ArchivePhase)
      (hnext : s.archive.nextDelete = chunk) (happlied : outcome.applied)
      (h : Inv s → phase.Stored s.coldStore) :
      ArchiveRule cfg s (.delete outcome) { s with
        tenant := s.tenant.delete chunk
        deleted := s.deleted ++ chunk
        archive := phase }

lemma stored_afterArchivePage (coldStore : List ArchivedFlight) (now : Instant) (archived : ℕ)
    (page : List OntologyObject) :
    (afterArchivePage cfg now archived page).Stored coldStore := by
  rw [afterArchivePage]
  split
  next => trivial
  next =>
    split_ifs
    · trivial
    · simp only
      split_ifs
      · trivial
      · split
        next => trivial
        next => exact fun c hc => absurd hc List.not_mem_nil

lemma ArchiveRule.of_archiveStep {a : ArchiveAction}
    (h : archiveStep cfg s s.archive a = some t) : ArchiveRule cfg s a t := by
  unfold archiveStep at h
  split at h
  next now _ =>
    cases h
    exact .move _ _ fun _ => trivial
  next now archived page hp =>
    split_ifs at h
    cases h
    exact .move _ _ fun _ => stored_afterArchivePage _ _ _ _
  next now archived capped date rows groups writtenIds files keep hp =>
    cases h
    exact .write keep now archived capped ((date, rows) :: groups) writtenIds files _ hp
  next now archived capped writtenIds files sees hp =>
    simp only at h
    split_ifs at h with hread
    · cases h
      refine .move _ _ fun hI => stored_deletingPhase fun id hid => ?_
      have hsize : 0 < maxBatch := by decide
      rw [flatten_chunks hsize, mem_sortedIds] at hid
      obtain ⟨c, hc, hcid⟩ := List.mem_map.mp (hread id hid)
      have hstored := hI.stored
      rw [hp] at hstored
      exact ⟨c, hstored c (List.mem_of_mem_filter hc), hcid⟩
    · cases h
      exact .move _ _ fun _ => trivial
  next now archived capped chunk rest outcome hp =>
    have hphase : Inv s → (outcome.phase (deletingPhase now archived capped rest)
        (.deleting now archived capped chunk rest) .idle).Stored s.coldStore := by
      intro hI
      have hstored := hI.stored
      rw [hp] at hstored
      cases outcome with
      | posted =>
        exact stored_deletingPhase fun id hid => hstored id (List.mem_append_right _ hid)
      | retried => exact hstored
      | failed => trivial
    simp only at h
    split_ifs at h with happlied
    · cases h
      have hnext : s.archive.nextDelete = chunk := by rw [hp]; rfl
      exact .delete outcome chunk _ hnext happlied hphase
    · cases h
      exact .move _ _ hphase
  next =>
    cases h
    exact .move _ _ fun _ => trivial
  next => simp at h

lemma Inv.of_init (h : init s) : Inv s :=
  ⟨by rw [h.archive]; trivial, h.archived⟩

lemma Inv.step {a : Action} (h : Inv s) (ha : act cfg s a = some t) : Inv t := by
  cases a with
  | archive a =>
    cases ArchiveRule.of_archiveStep ha with
    | move a phase hstored => exact ⟨hstored h, h.archived⟩
    | write keep now archived capped groups writtenIds files file hp =>
      have hstored := h.stored
      rw [hp] at hstored
      refine ⟨fun c hc => ?_, fun id hid => ?_⟩
      · exact List.mem_append.mpr ((List.mem_append.mp hc).imp_left (hstored c))
      · obtain ⟨c, hc, hcid⟩ := h.archived id hid
        exact ⟨c, List.mem_append_left _ hc, hcid⟩
    | delete outcome chunk phase hnext happlied hstored =>
      subst hnext
      refine ⟨hstored h, fun id hid => ?_⟩
      rcases List.mem_append.mp hid with hid | hid
      · exact h.archived id hid
      · have hchunk := h.stored
        unfold ArchivePhase.nextDelete at hid
        split at hid
        next hp =>
          rw [hp] at hchunk
          exact hchunk id (List.mem_append_left _ hid)
        next => simp at hid
  | enrich a =>
    obtain ⟨⟨tenant, phase⟩, -, rfl⟩ := Option.map_eq_some_iff.mp ha
    exact ⟨h.stored, h.archived⟩
  | reconcile a =>
    obtain ⟨⟨tenant, phase⟩, -, rfl⟩ := Option.map_eq_some_iff.mp ha
    exact ⟨h.stored, h.archived⟩

/-- In a step that meets the condition the jobs keep the tenant clean. -/
lemma keys_step {a : Action} (hg : guard cfg s a) (ha : act cfg s a = some t) :
    StaleWrites.Step (keysOf cfg s) (keysOf cfg t) := by
  cases a with
  | archive a =>
    cases ArchiveRule.of_archiveStep ha with
    | move => exact Step.refl _
    | write => exact Step.refl _
    | delete outcome chunk phase hnext happlied =>
      subst hnext
      have hkeys : keysOf cfg { s with
            tenant := s.tenant.delete s.archive.nextDelete
            deleted := s.deleted ++ s.archive.nextDelete
            archive := phase } =
          ⟨(keysOf cfg s).live \ {id | id ∈ s.archive.nextDelete}, (keysOf cfg s).held,
            (keysOf cfg s).gone ∪ {id | id ∈ s.archive.nextDelete}⟩ := by
        ext id
        · exact Table.mem_keys_delete
        · rfl
        · exact List.mem_append
      rw [hkeys]
      exact Step.remove (hg happlied)
  | enrich a =>
    obtain ⟨⟨tenant, phase⟩, hstep, rfl⟩ := Option.map_eq_some_iff.mp ha
    refine Step.write (s := keysOf cfg s) (fun id hid => ?_) fun id hid => ?_
    · exact ((enrichmentStep_mayWrite hstep).1 hid).imp_right .inl
    · rcases hid with hid | hid
      · exact ((enrichmentStep_mayWrite hstep).2 hid).imp_right .inl
      · exact .inr (.inr hid)
  | reconcile a =>
    obtain ⟨⟨tenant, phase⟩, hstep, rfl⟩ := Option.map_eq_some_iff.mp ha
    refine Step.write (s := keysOf cfg s) (fun id hid => ?_) fun id hid => ?_
    · exact ((flightReconcileStep_mayWrite hstep).1 hid).imp_right .inr
    · rcases hid with hid | hid
      · exact .inr (.inl hid)
      · exact ((flightReconcileStep_mayWrite hstep).2 hid).imp_right .inr

/-- In every run of the system a flush of the enrichment is one call. -/
theorem flushFits_of_reached {anyGuard : State → Action → Prop}
    (h : Reached (act cfg) anyGuard init s) : s.enrichment.FlushFits := by
  refine h.invariant (I := fun s => s.enrichment.FlushFits) (fun s hs => ?_)
    fun s a t hfits _ ha => ?_
  · rw [hs.enrichment]
    trivial
  · cases a with
    | archive a =>
      cases ArchiveRule.of_archiveStep ha <;> exact hfits
    | enrich a =>
      obtain ⟨⟨tenant, phase⟩, hstep, rfl⟩ := Option.map_eq_some_iff.mp ha
      exact enrichmentStep_flushFits hfits hstep
    | reconcile a =>
      obtain ⟨⟨tenant, phase⟩, -, rfl⟩ := Option.map_eq_some_iff.mp ha
      exact hfits

lemma clean_of_init (h : init s) : Clean (keysOf cfg s) := by
  intro id hid
  refine ⟨h.deleted id hid, ?_⟩
  show ¬ MayWrite cfg s id
  rw [MayWrite, h.enrichment, h.reconcile]
  simp [EnrichmentPhase.MayWrite, FlightReconcilePhase.MayWrite]

/-! ### The results -/

/-- A flight the archive has deleted is in the cold store, and no longer in the tenant. -/
def DeletedStaysAway (s : State) : Prop :=
  ∀ id ∈ s.deleted, (∃ c ∈ s.coldStore, c.flightId = id) ∧ id ∉ s.tenant.keys

/-- What both stores have is a flight whose delete is still to come. -/
def ArchiveAndTenantDisjoint (s : State) : Prop :=
  ∀ c ∈ s.coldStore, c.flightId ∈ s.tenant.keys → c.flightId ∉ s.deleted

/-- In every run that meets the condition a flight that is archived and deleted never reappears, and
the two stores are disjoint but for the flights that are still to be deleted. -/
theorem deleted_stays_away (cfg : JobSettings) (s : State)
    (hs : Reached (act cfg) (guard cfg) init s) :
    DeletedStaysAway s ∧ ArchiveAndTenantDisjoint s := by
  have hI : Inv s := hs.invariant (fun _ => Inv.of_init) fun _ _ _ hI _ ha => hI.step ha
  have hclean : Clean (keysOf cfg s) :=
    clean_of_reached (keysOf cfg) (fun _ => clean_of_init) (fun _ _ _ => keys_step) hs
  exact ⟨fun id hid => ⟨hI.archived id hid, (hclean id hid).1⟩,
    fun c _ hlive hid => (hclean c.flightId hid).1 hlive⟩

/-! ### An enrichment around an archive run -/

/-- The grace window, the retention and the cap of the deployed archive. -/
def deployed : JobSettings where
  grace := 2 * 3600000000
  retention := 30 * 24 * 3600000000
  cap := 5000
  isliveEnabled := true

/-- A leg that has landed; its aircraft is in the air again. -/
def landedLeg : OntologyObject :=
  ⟨"a0b1c2-100", [("icao24", .text "a0b1c2"), ("takeoffTs", .instant 100000000),
    ("landedAt", .instant 3600000000), ("isLive", .flag false)]⟩

def startState : State where
  tenant := ⟨[landedLeg], by decide⟩
  coldStore := []
  deleted := []

lemma init_startState : init startState := ⟨rfl, rfl, rfl, by decide, by decide⟩

def airborneDetail : FlightDetail where
  icao24 := "a0b1c2"
  callsign := some "UAL12"
  registration := none
  aircraftType := none
  operatorIcao := none
  originIcao := none
  destinationIcao := none
  customerRegion := none
  lat := 40
  lon := -73
  etaMinutes := none
  statusTimeline := []
  openCaseIds := []

/-- The archive moves a leg. -/
def archiveRun (leg : OntologyObject) : List Action :=
  [.archive (.start 14400000000), .archive (.page [leg]), .archive (.write fun _ => true),
    .archive (.verify fun _ => true), .archive (.delete .posted), .archive .stop]

/-- The enrichment writes the leg it has listed. -/
def enrichmentWrites : List Action :=
  [.enrich (.fetch ["a0b1c2-100"] fun _ => .ok airborneDetail), .enrich .trailsEnd, .enrich .next,
    .enrich (.flush .posted), .enrich .stop]

/-- The archive moves the leg after the enrichment has listed it. -/
def racingRun : List Action :=
  [.enrich .start, .enrich (.page [landedLeg])] ++ archiveRun landedLeg ++ enrichmentWrites

lemma racingRun_reappears : ∀ t ∈ runActions (act deployed) startState racingRun,
    "a0b1c2-100" ∈ t.deleted ∧ "a0b1c2-100" ∈ t.tenant.keys := by
  decide

/-- The enrichment creates the leg again that the archive has deleted. -/
theorem deleted_reappears : ¬ ∀ (cfg : JobSettings) (s : State),
    Reached (act cfg) unguarded init s → DeletedStaysAway s ∧ ArchiveAndTenantDisjoint s := by
  intro h
  have hsome : (runActions (act deployed) startState racingRun).isSome := by decide
  obtain ⟨s, hs, hreached⟩ :=
    (Reached.start init_startState).exists_run (guardsHold_unguarded _ _) hsome
  obtain ⟨hdeleted, htenant⟩ := racingRun_reappears s hs
  exact ((h deployed s hreached).1 _ hdeleted).2 htenant

def enrichedLeg : OntologyObject :=
  modifyOrCreate
    (flightParams true (flightDetailToFlight "a0b1c2-100" 100000000 airborneDetail none))
    (some landedLeg)

/-- The archive moves the leg once the enrichment is done with it. -/
def orderlyRun : List Action :=
  [.enrich .start, .enrich (.page [landedLeg])] ++ enrichmentWrites ++ archiveRun enrichedLeg

lemma orderlyRun_deletes : ∀ t ∈ runActions (act deployed) startState orderlyRun,
    t.deleted = ["a0b1c2-100"] := by
  decide

theorem orderlyRun_stays_away : ∃ s, runActions (act deployed) startState orderlyRun = some s ∧
    s.deleted = ["a0b1c2-100"] ∧ DeletedStaysAway s ∧ ArchiveAndTenantDisjoint s := by
  have hsome : (runActions (act deployed) startState orderlyRun).isSome := by decide
  have hguards : GuardsHold (act deployed) (guard deployed) startState orderlyRun := by decide
  obtain ⟨s, hs, hreached⟩ := (Reached.start init_startState).exists_run hguards hsome
  exact ⟨s, hs, orderlyRun_deletes s hs, deleted_stays_away deployed s hreached⟩

end FleetMonitor.FlightJobs
