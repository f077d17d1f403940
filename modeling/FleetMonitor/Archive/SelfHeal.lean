import FleetMonitor.Archive.FlightJobs
import FleetMonitor.Foundry.FlightWriters

/-!
# Landings that are not landings

The landing stamp can mark a go-around as landed. The grace window of the archive is there to let
the next enrichment take the landing back before the flight is archived and deleted. An enrichment
without a landing leaves `landedAt` out, though, and a property left out keeps its value.
-/

namespace FleetMonitor.SelfHeal

open Library Library.StoreMove
open FlightJobs (JobSettings deployed)

/-! ### The system -/

/-- The two stores; the flights the archive has deleted; its runs, and whether each has come to its
end below the cap; when enrichments without a landing have been written; and the time. -/
structure State where
  stores : Stores OntologyObject.pk ArchivedFlight
  deleted : List String
  runs : List (Instant × Bool)
  enrichments : List (String × Instant)
  clock : Instant

def State.tenant (s : State) : ObjectSet := s.stores.source

inductive Action where
  | write (now : Instant) (w : FlightWrite)
  | archive (now : Instant) (faults : Faults) (pages : List (List OntologyObject))

/-- The timeline has no landing. -/
def NoLanding (detail : FlightDetail) : Prop := ∀ e ∈ detail.statusTimeline, e.stage ≠ .landed

instance : DecidablePred NoLanding := fun detail =>
  inferInstanceAs (Decidable (∀ e ∈ detail.statusTimeline, e.stage ≠ .landed))

/-- The enrichments among the writes that have no landing. -/
def enrichedWithoutLanding (now : Instant) : FlightWrite → List (String × Instant)
  | .enrich flightId _ detail _ => if NoLanding detail then [(flightId, now)] else []
  | _                           => []

/-- The flights a trace has deleted. -/
def deletedIds (trace : List ArchiveEvent) : List String :=
  trace.flatMap fun
    | .delete ids true => ids
    | _                => []

/-- The run has come to its end, and below the cap. -/
def complete : Except ArchiveError FlightArchiveResult → Bool
  | .ok result => !result.capped
  | .error _   => false

variable (cfg : JobSettings)

/-- A write of a flight, or a run of the archive over the pages of the tenant. -/
def act (s : State) : Action → Option State
  | .write now w =>
    if s.clock ≤ now then
      some { s with
        stores := { s.stores with source := applyUpsert s.tenant (w.request cfg.isliveEnabled) }
        enrichments := s.enrichments ++ enrichedWithoutLanding now w
        clock := now }
    else none
  | .archive now faults pages =>
    if s.clock ≤ now ∧ pages.flatten.Perm s.tenant.rows then
      let run := runFlightArchive faults s.stores pages now cfg.grace cfg.cap cfg.retention
      some { s with
        stores := s.stores.after run.2
        deleted := s.deleted ++ deletedIds run.2
        runs := s.runs ++ [(now, complete run.1)]
        clock := now }
    else none

/-- The landing of a leg has just been stamped. -/
structure JustStamped (stamp : FlightLandedStamp) (s : State) : Prop where
  stamped : ∃ tenant, s.tenant = applyUpsert tenant (landedStampParams cfg.isliveEnabled stamp)
  deleted : s.deleted = []
  runs : s.runs = []
  enrichments : s.enrichments = []

/-- No write brings another landing of the leg: the enrichments of it have none, and it is not
stamped again. -/
def NoOtherLanding (id : String) : Action → Prop
  | .write _ (.enrich flightId _ detail _) => flightId = id → NoLanding detail
  | .write _ (.landed stamp)               => stamp.flightId ≠ id
  | _                                      => True

instance (id : String) : DecidablePred (NoOtherLanding id) := fun a => by
  unfold NoOtherLanding; split <;> infer_instance

/-! ### What the writes and the archive do to a landing -/

variable {cfg} {s t : State} {id : String} {landedAt : Instant}

lemma landedAt_flightDetailToFlight {flightId : String} {takeoffTs : Instant}
    {detail : FlightDetail} {trail : Option TrailResponse} (h : NoLanding detail) :
    (flightDetailToFlight flightId takeoffTs detail trail).landedAt = none := by
  have hfind : detail.statusTimeline.find? (·.stage = .landed) = none := by
    rw [List.find?_eq_none]
    intro e he
    simpa using h e he
  rw [flightDetailToFlight, hfind]
  rfl

/-- A write without a landing does not send `landedAt`. -/
lemma lookup_landedAt_request {w : FlightWrite} {now : Instant} (isliveEnabled : Bool)
    (hid : w.flightId = id) (h : NoOtherLanding id (.write now w)) :
    (w.request isliveEnabled).params.lookup "landedAt" = none := by
  cases w with
  | takeoff t => exact lookup_flightParams_landedAt _ _
  | enrich flightId takeoffTs detail trail =>
    rw [FlightWrite.request, lookup_flightParams_landedAt, landedAt_flightDetailToFlight (h hid)]
    rfl
  | landed stamp => exact absurd hid h
  | live stamp => simp [FlightWrite.request, liveStampParams, List.lookup_cons]

/-- Such a write neither sets the landing of the leg nor clears it. -/
lemma landedAt_write {tenant : ObjectSet} {w : FlightWrite} {now : Instant} (isliveEnabled : Bool)
    (h : NoOtherLanding id (.write now w)) :
    ObjectSet.prop (applyUpsert tenant (w.request isliveEnabled)) id "landedAt" =
      tenant.prop id "landedAt" := by
  rw [prop_applyUpsert, request_locator]
  split_ifs with hid
  · rw [lookup_landedAt_request isliveEnabled hid h, Option.none_or]
  · rfl

lemma mem_deletedIds {trace : List ArchiveEvent} : id ∈ deletedIds trace ↔ DeletedIn trace id := by
  rw [deletedIds, List.mem_flatMap]
  constructor
  · rintro ⟨e, he, hid⟩
    split at hid
    next ids => exact ⟨ids, he, hid⟩
    next => simp at hid
  · rintro ⟨ids, hdel, hid⟩
    exact ⟨_, hdel, hid⟩

/-- The object of a leg with a landing. -/
lemma exists_object {tenant : ObjectSet}
    (h : tenant.prop id "landedAt" = some (.instant landedAt)) :
    ∃ o ∈ tenant.rows, o.pk = id ∧ o.get "landedAt" = some (.instant landedAt) := by
  obtain ⟨o, ho, hget⟩ := Option.bind_eq_some_iff.mp h
  exact ⟨o, Table.mem_rows_of_lookup ho, Table.key_of_lookup ho, hget⟩

lemma landedBefore_iff {o : OntologyObject} {before : Instant}
    (h : o.get "landedAt" = some (.instant landedAt)) :
    LandedBefore before o ↔ landedAt < before := by
  rw [LandedBefore, h]
  rfl

lemma settled_iff {o : OntologyObject} {before : Instant} (hpk : o.pk ≠ "")
    (h : o.get "landedAt" = some (.instant landedAt)) : Settled before o ↔ landedAt < before := by
  have hcompleted : Completed o := ⟨by simp [h], hpk⟩
  rw [Settled, landedBefore_iff h]
  exact and_iff_right hcompleted

/-- A complete run deletes the settled flights. -/
lemma deletedIn_of_complete {stores : Stores OntologyObject.pk ArchivedFlight} {faults : Faults}
    {pages : List (List OntologyObject)} {now grace retention : Instant} {cap : ℕ}
    {o : OntologyObject} (hpages : ∀ o, o ∈ pages.flatten ↔ o ∈ stores.source.rows)
    (h : complete (runFlightArchive faults stores pages now grace cap retention).1 = true)
    (ho : o ∈ stores.source.rows) (hsettled : Settled (now - grace) o) :
    DeletedIn (runFlightArchive faults stores pages now grace cap retention).2 o.pk := by
  cases hresult : (runFlightArchive faults stores pages now grace cap retention).1 with
  | error e => simp [hresult, complete] at h
  | ok result =>
    obtain ⟨st, hrun, -, -, hcapped, -⟩ := runFlightArchive_ok hresult
    have hbelow : st.capped = false := by
      rw [← hcapped]
      simpa [hresult, complete] using h
    rw [runFlightArchive_trace]
    exact archivePages_deleted (fun o ho => (hpages o).mp ho) (by rw [hrun]) (by rw [hrun]; exact hbelow)
      ((hpages o).mpr ho) hsettled

/-! ### The invariant -/

/-- What is known of a leg whose landing has been stamped. -/
structure Inv (cfg : JobSettings) (id : String) (landedAt : Instant) (s : State) : Prop where
  kept : id ∉ s.deleted → s.tenant.prop id "landedAt" = some (.instant landedAt)
  archived : id ∈ s.deleted → ∃ c ∈ s.stores.copies, c.flightId = id
  late : id ∈ s.deleted → ∃ run ∈ s.runs, landedAt < run.1 - cfg.grace
  taken : ∀ now, (now, true) ∈ s.runs → landedAt < now - cfg.grace → id ∈ s.deleted

lemma Inv.of_justStamped {stamp : FlightLandedStamp} (h : JustStamped cfg stamp s) :
    Inv cfg stamp.flightId stamp.landedAt s where
  kept _ := by
    obtain ⟨tenant, htenant⟩ := h.stamped
    rw [htenant, prop_applyUpsert]
    simp [landedStampParams, List.lookup_cons]
  archived hid := by simp [h.deleted] at hid
  late hid := by simp [h.deleted] at hid
  taken now hnow := by simp [h.runs] at hnow

lemma Inv.write {now : Instant} {w : FlightWrite} (h : Inv cfg id landedAt s)
    (hw : NoOtherLanding id (.write now w)) (ha : act cfg s (.write now w) = some t) :
    Inv cfg id landedAt t := by
  rw [act] at ha
  split_ifs at ha
  obtain rfl := Option.some.inj ha
  refine ⟨fun hid => ?_, h.archived, h.late, h.taken⟩
  exact (landedAt_write cfg.isliveEnabled hw).trans (h.kept hid)

lemma Inv.archive {now : Instant} {faults : Faults} {pages : List (List OntologyObject)}
    (hne : id ≠ "") (h : Inv cfg id landedAt s)
    (ha : act cfg s (.archive now faults pages) = some t) : Inv cfg id landedAt t := by
  rw [act] at ha
  split_ifs at ha with hguard
  obtain rfl := Option.some.inj ha
  have hpages : ∀ o, o ∈ pages.flatten ↔ o ∈ s.stores.source.rows := fun o => hguard.2.mem_iff
  have hverified : RunVerified s.stores.source now (now - cfg.grace)
      (runFlightArchive faults s.stores pages now cfg.grace cfg.cap cfg.retention).2 :=
    runFlightArchive_verified hpages
  refine ⟨fun hid => ?_, fun hid => ?_, fun hid => ?_, fun now' hrun hlate => ?_⟩
  · rw [List.mem_append, not_or, mem_deletedIds] at hid
    obtain ⟨o, ho, rfl, hget⟩ := exists_object (h.kept hid.1)
    have hkept : o ∈ (s.stores.after (runFlightArchive faults s.stores pages now cfg.grace cfg.cap
        cfg.retention).2).source.rows :=
      mem_source_after.mpr ⟨ho, fun ids hdel hmem => hid.2 ⟨ids, hdel, hmem⟩⟩
    rw [State.tenant, ObjectSet.prop, Table.lookup_of_mem hkept]
    exact hget
  · rw [copies_after]
    by_cases hold : id ∈ s.deleted
    · obtain ⟨c, hc, hcid⟩ := h.archived hold
      exact ⟨c, List.mem_append_left _ hc, hcid⟩
    · obtain ⟨ids, hdel, hmem⟩ := mem_deletedIds.mp ((List.mem_append.mp hid).resolve_left hold)
      obtain ⟨c, hc, hcid, -⟩ := hverified.exists_copy hdel hmem
      exact ⟨c, List.mem_append_right _ hc, hcid⟩
  · by_cases hold : id ∈ s.deleted
    · obtain ⟨run, hrun, hlate⟩ := h.late hold
      exact ⟨run, List.mem_append_left _ hrun, hlate⟩
    · obtain ⟨ids, hdel, hmem⟩ := mem_deletedIds.mp ((List.mem_append.mp hid).resolve_left hold)
      obtain ⟨c, -, hcid, o, ho, hcopy⟩ := hverified.exists_copy hdel hmem
      obtain ⟨o', ho', hpk, hget⟩ := exists_object (h.kept hold)
      obtain rfl : o = o' := Table.row_eq_of_key_eq ho ho'
        (hcopy.flightId.symm.trans (hcid.trans hpk.symm))
      exact ⟨_, List.mem_append_right _ (List.mem_singleton_self _),
        (landedBefore_iff hget).mp hcopy.settled.2⟩
  · rw [List.mem_append]
    by_cases hold : id ∈ s.deleted
    · exact .inl hold
    · rcases List.mem_append.mp hrun with hrun | hrun
      · exact .inl (h.taken now' hrun hlate)
      · obtain ⟨rfl, hcomplete⟩ := Prod.mk.inj (List.mem_singleton.mp hrun)
        obtain ⟨o, ho, rfl, hget⟩ := exists_object (h.kept hold)
        refine .inr (mem_deletedIds.mpr ?_)
        have hsettled : Settled (now' - cfg.grace) o := (settled_iff hne hget).mpr hlate
        exact deletedIn_of_complete hpages hcomplete.symm ho hsettled

lemma Inv.step {a : Action} (hne : id ≠ "") (h : Inv cfg id landedAt s)
    (ha : NoOtherLanding id a) (hact : act cfg s a = some t) : Inv cfg id landedAt t := by
  cases a with
  | write now w => exact h.write ha hact
  | archive now faults pages => exact h.archive hne hact

/-! ### The results -/

lemma synthesizeFlightId_ne_empty (icao24 : String) (takeoffTs : Instant) :
    synthesizeFlightId icao24 takeoffTs ≠ "" := by
  intro h
  have hchars := congrArg String.toList h
  simp [synthesizeFlightId, String.toList_append] at hchars

/-- Whatever enrichments without a landing follow a landing stamp, the leg keeps its landing as long
as the archive has not deleted it; and the archive deletes it in the first complete run that starts
later than the grace window after the landing, and in no run before that. -/
theorem landing_never_heals (cfg : JobSettings) (stamp : FlightLandedStamp)
    (hminted : ∃ icao24 takeoffTs, stamp.flightId = synthesizeFlightId icao24 takeoffTs) (s : State)
    (hs : Reached (act cfg) (fun _ => NoOtherLanding stamp.flightId) (JustStamped cfg stamp) s) :
    (stamp.flightId ∉ s.deleted →
      s.tenant.prop stamp.flightId "landedAt" = some (.instant stamp.landedAt)) ∧
    (stamp.flightId ∈ s.deleted → (∃ c ∈ s.stores.copies, c.flightId = stamp.flightId) ∧
      ∃ run ∈ s.runs, stamp.landedAt < run.1 - cfg.grace) ∧
    ∀ now, (now, true) ∈ s.runs → stamp.landedAt < now - cfg.grace →
      stamp.flightId ∈ s.deleted := by
  have hne : stamp.flightId ≠ "" := by
    obtain ⟨icao24, takeoffTs, heq⟩ := hminted
    exact heq ▸ synthesizeFlightId_ne_empty icao24 takeoffTs
  have hI : Inv cfg stamp.flightId stamp.landedAt s :=
    hs.invariant (fun _ => Inv.of_justStamped) fun _ _ _ hI ha hact => hI.step hne ha hact
  exact ⟨hI.kept, fun hid => ⟨hI.archived hid, hI.late hid⟩, hI.taken⟩

/-! ### A go-around -/

/-- The landing of a go-around; the aircraft stays in the air. -/
def goAround : FlightLandedStamp := ⟨"a0b1c2-100", "a0b1c2", 100000000, 3600000000⟩

lemma goAround_minted :
    ∃ icao24 takeoffTs, goAround.flightId = synthesizeFlightId icao24 takeoffTs :=
  ⟨"a0b1c2", 100000000, by decide⟩

/-- The leg took off and has been stamped. -/
def stampedState : State where
  stores :=
    { source := applyUpsert (applyUpsert Table.empty (takeoffWrite.request true))
        (landedStampParams true goAround)
      copies := [] }
  deleted := []
  runs := []
  enrichments := []
  clock := 3600000000

lemma justStamped_stampedState : JustStamped deployed goAround stampedState :=
  ⟨⟨_, rfl⟩, rfl, rfl, rfl⟩

/-- One hour after the landing stamp the enrichment writes the leg. -/
def enrichedRun : List Action := [.write 7200000000 enrichWrite]

def enrichedLeg : OntologyObject :=
  modifyOrCreate (enrichWrite.request true) (stampedState.tenant.lookup "a0b1c2-100")

/-- Two hours and a minute after the stamp the archive runs. -/
def archivedRun : List Action :=
  enrichedRun ++ [.archive 10860000000 noFaults [[enrichedLeg]]]

lemma archivedRun_deleted : ∀ s ∈ runActions (act deployed) stampedState archivedRun,
    ("a0b1c2-100", 7200000000) ∈ s.enrichments ∧ "a0b1c2-100" ∈ s.deleted ∧
      (10860000000, true) ∈ s.runs := by
  decide

/-- The enrichment within the grace window does not clear the landing, and the leg is archived and
deleted. -/
theorem landing_not_healed : ¬ ∀ (cfg : JobSettings) (stamp : FlightLandedStamp) (s : State),
    (∃ icao24 takeoffTs, stamp.flightId = synthesizeFlightId icao24 takeoffTs) →
    Reached (act cfg) (fun _ => NoOtherLanding stamp.flightId) (JustStamped cfg stamp) s →
    (∃ at' ≤ stamp.landedAt + cfg.grace, (stamp.flightId, at') ∈ s.enrichments) →
      s.tenant.prop stamp.flightId "landedAt" = none ∧ stamp.flightId ∉ s.deleted := by
  intro h
  have hsome : (runActions (act deployed) stampedState archivedRun).isSome := by decide
  have hguards : GuardsHold (act deployed) (fun _ => NoOtherLanding goAround.flightId) stampedState
      archivedRun := by decide
  obtain ⟨s, hs, hreached⟩ := (Reached.start justStamped_stampedState).exists_run hguards hsome
  obtain ⟨henriched, hdeleted, -⟩ := archivedRun_deleted s hs
  have hgrace : (7200000000 : Instant) ≤ goAround.landedAt + deployed.grace := by decide
  exact (h deployed goAround s goAround_minted hreached ⟨7200000000, hgrace, henriched⟩).2 hdeleted

/-- After the enrichment the landing is still there. -/
theorem landing_stays_enriched : ∃ s, runActions (act deployed) stampedState enrichedRun = some s ∧
    ("a0b1c2-100", 7200000000) ∈ s.enrichments ∧
      s.tenant.prop "a0b1c2-100" "landedAt" = some (.instant 3600000000) := by
  have hsome : (runActions (act deployed) stampedState enrichedRun).isSome := by decide
  have hguards : GuardsHold (act deployed) (fun _ => NoOtherLanding goAround.flightId) stampedState
      enrichedRun := by decide
  obtain ⟨s, hs, hreached⟩ := (Reached.start justStamped_stampedState).exists_run hguards hsome
  have hlast : ∀ s ∈ runActions (act deployed) stampedState enrichedRun,
      ("a0b1c2-100", 7200000000) ∈ s.enrichments ∧ "a0b1c2-100" ∉ s.deleted := by decide
  obtain ⟨henriched, hkept⟩ := hlast s hs
  exact ⟨s, hs, henriched,
    (landing_never_heals deployed goAround goAround_minted s hreached).1 hkept⟩

end FleetMonitor.SelfHeal
