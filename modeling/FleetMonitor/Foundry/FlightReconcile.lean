import FleetMonitor.Foundry.FlightEnrichment

/-!
# The flight reconcile

`reconcile_flights` lists the tenant's flights once, deletes the stubs outside the live working set
and then sets `isLive` of the legs whose liveness has changed. It is given step by step, as the
enrichment is.
-/

namespace FleetMonitor

open Library

/-! ### The plan -/

/-- `FlightLiveStamp`. -/
structure FlightLiveStamp where
  flightId : String
  icao24 : String
  takeoffTs : Instant
  isLive : Bool
  deriving DecidableEq, Repr

/-- The parameters `set_flight_live_batch` sends. -/
def liveStampParams (s : FlightLiveStamp) : UpsertRequest where
  locator := s.flightId
  params :=
    [("icao24", .text s.icao24), ("takeoffTs", .instant s.takeoffTs), ("isLive", .flag s.isLive)]

/-- `_FLIGHT_RECONCILE_TTL`. -/
def flightReconcileTtl : Instant := 24 * 3600000000

/-- `_FLIGHT_RECONCILE_DELETE_CAP`. -/
def flightReconcileDeleteCap : ℕ := 5000

/-- What the loop over the tenant computes. -/
structure TenantScan where
  keep : List String
  latestAirborne : List Leg
  deriving DecidableEq, Repr

/-- The loop over the tenant. -/
def scanTenant (cutoff : Instant) (airborne : List String) :
    List String → TenantScan → Except FlightIdError TenantScan
  | [], scan => .ok scan
  | pk :: pks, scan =>
    match parseFlightId pk with
    | .error .valueError    => scanTenant cutoff airborne pks { scan with keep := scan.keep ++ [pk] }
    | .error .overflowError => .error .overflowError
    | .ok (icao24, takeoffTs) =>
      scanTenant cutoff airborne pks
        { keep := if cutoff ≤ takeoffTs then scan.keep ++ [pk] else scan.keep
          latestAirborne :=
            if icao24 ∈ airborne then keepLatestLeg scan.latestAirborne ⟨icao24, takeoffTs, pk⟩
            else scan.latestAirborne }

def liveStamp (isLive : Bool) (leg : Leg) : FlightLiveStamp :=
  ⟨leg.flightId, leg.icao24, leg.takeoffTs, isLive⟩

/-- The stamp that takes a leg out of the live set. An id that cannot be parsed is passed over; one
whose time does not fit has stopped the run before. -/
def falseStamp (pk : String) : Option FlightLiveStamp :=
  match parseFlightId pk with
  | .ok (icao24, takeoffTs) => some ⟨pk, icao24, takeoffTs, false⟩
  | .error _                => none

/-- What a run is about to do, and what it counts. -/
structure FlightReconcilePlan where
  liveAirborne : ℕ
  tenant : ℕ
  keep : ℕ
  orphans : ℕ
  completedSkipped : ℕ
  remaining : ℕ
  toDelete : List String
  trueStamps : List FlightLiveStamp
  falseStamps : List FlightLiveStamp
  deriving DecidableEq, Repr

/-- What `reconcile_flights` computes of its listing; the set of ids is iterated over in `order`. -/
def flightReconcilePlan (isliveEnabled : Bool) (now : Instant) (airborne : List String)
    (listing : FlightListing) (order : List String) : Except FlightIdError FlightReconcilePlan :=
  (scanTenant (now - flightReconcileTtl) airborne order ⟨[], []⟩).map fun scan =>
    let keep := scan.keep ++ scan.latestAirborne.map (·.flightId)
    let evictable := listing.allPks.filter (· ∉ keep)
    let stubOrphans := sortedIds (evictable.filter (· ∉ listing.completed))
    let toDelete := stubOrphans.take flightReconcileDeleteCap
    let targetLive := scan.latestAirborne.filter (·.flightId ∉ listing.completed)
    let stale := listing.live.filter fun pk =>
      pk ∉ targetLive.map (·.flightId) ∧ pk ∉ toDelete
    { liveAirborne := airborne.length
      tenant := listing.allPks.length
      keep := keep.dedup.length
      orphans := evictable.length
      completedSkipped := (evictable.filter (· ∈ listing.completed)).length
      remaining := stubOrphans.length - toDelete.length
      toDelete
      trueStamps :=
        if isliveEnabled then
          (targetLive.filter (·.flightId ∉ listing.live)).map (liveStamp true)
        else []
      falseStamps := if isliveEnabled then (sortedIds stale).filterMap falseStamp else [] }

/-- `FlightReconcileResult`. -/
structure FlightReconcileResult where
  liveAirborne : ℕ
  tenant : ℕ
  keep : ℕ
  orphans : ℕ
  deleted : ℕ
  completedSkipped : ℕ := 0
  remaining : ℕ := 0
  skippedEmptyLive : Bool := false
  liveMarkedTrue : ℕ := 0
  liveMarkedFalse : ℕ := 0
  deriving DecidableEq, Repr

/-- What a run returns that has got through its calls: a batch that does not raise has succeeded as
a whole. -/
def FlightReconcilePlan.result (plan : FlightReconcilePlan) : FlightReconcileResult where
  liveAirborne := plan.liveAirborne
  tenant := plan.tenant
  keep := plan.keep
  orphans := plan.orphans
  deleted := plan.toDelete.length
  completedSkipped := plan.completedSkipped
  remaining := plan.remaining
  liveMarkedTrue := plan.trueStamps.length
  liveMarkedFalse := plan.falseStamps.length

/-- What it returns with no aircraft in the air. -/
def FlightReconcileResult.skipped : FlightReconcileResult where
  liveAirborne := 0
  tenant := 0
  keep := 0
  orphans := 0
  deleted := 0
  skippedEmptyLive := true

/-- The aircraft of a live feed that are in the air. -/
def airborneIn (response : PositionsLiveResponse) : List String :=
  ((response.items.filter (!·.onGround)).map (·.icao24)).dedup

/-- The result of `reconcile_flights` when none of its calls raises, for the objects it lists. -/
def flightReconcileResult (isliveEnabled : Bool) (now : Instant) (response : PositionsLiveResponse)
    (objs : List OntologyObject) (order : List String) :
    Except FlightIdError FlightReconcileResult :=
  if airborneIn response = [] then .ok .skipped
  else
    (flightReconcilePlan isliveEnabled now (airborneIn response) (flightListing objs) order).map
      FlightReconcilePlan.result

/-! ### The job -/

/-- Where a run stands. -/
inductive FlightReconcilePhase where
  | idle
  | listing (now : Instant) (airborne : List String) (objs : List OntologyObject)
  /-- The chunks that are left of the deletes, and of the stamps after them. -/
  | writing (deletes : List (List String)) (stamps : List (List FlightLiveStamp))
  deriving DecidableEq, Repr

inductive FlightReconcileAction where
  | start (now : Instant) (response : PositionsLiveResponse)
  | page (objs : List OntologyObject)
  | plan (order : List String)
  | delete (outcome : PostOutcome)
  | stamp (outcome : PostOutcome)
  /-- The run is over, or it fails. -/
  | stop

def FlightReconcilePlan.phase (plan : FlightReconcilePlan) : FlightReconcilePhase :=
  .writing (chunks maxBatch plan.toDelete)
    (chunks maxBatch plan.trueStamps ++ chunks maxBatch plan.falseStamps)

variable (isliveEnabled : Bool)

/-- One step of `reconcile_flights`; a page has objects of the tenant. -/
def flightReconcileStep (tenant : ObjectSet) :
    FlightReconcilePhase → FlightReconcileAction → Option (ObjectSet × FlightReconcilePhase)
  | .idle, .start now response =>
    let airborne := airborneIn response
    some (tenant, if airborne = [] then .idle else .listing now airborne [])
  | .listing now airborne objs, .page page =>
    if ∀ o ∈ page, o ∈ tenant.rows then some (tenant, .listing now airborne (objs ++ page)) else none
  | .listing now airborne objs, .plan order =>
    let listing := flightListing objs
    if order.Perm listing.allPks then
      match flightReconcilePlan isliveEnabled now airborne listing order with
      | .ok plan => some (tenant, plan.phase)
      | .error _ => some (tenant, .idle)
    else none
  | .writing (chunk :: deletes) stamps, .delete outcome =>
    some (if outcome.applied then tenant.delete chunk else tenant,
      outcome.phase (.writing deletes stamps) (.writing (chunk :: deletes) stamps) .idle)
  | .writing [] (chunk :: stamps), .stamp outcome =>
    some (if outcome.applied then (chunk.map liveStampParams).foldl applyUpsert tenant else tenant,
      outcome.phase (.writing [] stamps) (.writing [] (chunk :: stamps)) .idle)
  | _, .stop => some (tenant, .idle)
  | _, _     => none

variable {isliveEnabled} {tenant tenant' : ObjectSet} {phase phase' : FlightReconcilePhase}
  {a : FlightReconcileAction}

/-- What a step does to the tenant and to the phase. -/
inductive FlightReconcileRule (isliveEnabled : Bool) (tenant : ObjectSet) :
    FlightReconcilePhase → ObjectSet → FlightReconcilePhase → Prop where
  | start (now : Instant) (airborne : List String) :
      FlightReconcileRule isliveEnabled tenant .idle tenant (.listing now airborne [])
  | page (now : Instant) (airborne : List String) (objs page : List OntologyObject)
      (h : ∀ o ∈ page, o ∈ tenant.rows) :
      FlightReconcileRule isliveEnabled tenant (.listing now airborne objs) tenant
        (.listing now airborne (objs ++ page))
  | plan (now : Instant) (airborne : List String) (objs : List OntologyObject)
      (order : List String) (plan : FlightReconcilePlan)
      (h : order.Perm (flightListing objs).allPks)
      (hplan : flightReconcilePlan isliveEnabled now airborne (flightListing objs) order =
        .ok plan) :
      FlightReconcileRule isliveEnabled tenant (.listing now airborne objs) tenant plan.phase
  | delete (chunk : List String) (deletes : List (List String))
      (stamps : List (List FlightLiveStamp)) (outcome : PostOutcome) :
      FlightReconcileRule isliveEnabled tenant (.writing (chunk :: deletes) stamps)
        (if outcome.applied then tenant.delete chunk else tenant)
        (outcome.phase (.writing deletes stamps) (.writing (chunk :: deletes) stamps) .idle)
  | stamp (chunk : List FlightLiveStamp) (stamps : List (List FlightLiveStamp))
      (outcome : PostOutcome) :
      FlightReconcileRule isliveEnabled tenant (.writing [] (chunk :: stamps))
        (if outcome.applied then (chunk.map liveStampParams).foldl applyUpsert tenant else tenant)
        (outcome.phase (.writing [] stamps) (.writing [] (chunk :: stamps)) .idle)
  | stop (phase : FlightReconcilePhase) :
      FlightReconcileRule isliveEnabled tenant phase tenant .idle

lemma FlightReconcileRule.of_flightReconcileStep
    (h : flightReconcileStep isliveEnabled tenant phase a = some (tenant', phase')) :
    FlightReconcileRule isliveEnabled tenant phase tenant' phase' := by
  unfold flightReconcileStep at h
  split at h
  next now response =>
    simp only at h
    split_ifs at h
    · cases h
      exact .stop _
    · cases h
      exact .start _ _
  next now airborne objs page =>
    split_ifs at h with hpage
    cases h
    exact .page now airborne objs page hpage
  next now airborne objs order =>
    simp only at h
    split_ifs at h with horder
    split at h
    next plan hplan =>
      cases h
      exact .plan now airborne objs order plan horder hplan
    next =>
      cases h
      exact .stop _
  next chunk deletes stamps outcome =>
    cases h
    exact .delete chunk deletes stamps outcome
  next chunk stamps outcome =>
    cases h
    exact .stamp chunk stamps outcome
  next =>
    cases h
    exact .stop phase
  next => simp at h

/-! ### What a run can still write -/

/-- A leg that has been listed can be stamped unless it is completed and not live. -/
def MayStamp (listing : FlightListing) (id : String) : Prop :=
  (parseFlightId id).isOk ∧ (id ∈ listing.live ∨ id ∈ listing.allPks ∧ id ∉ listing.completed)

/-- The run may still write the flight. -/
def FlightReconcilePhase.MayWrite (isliveEnabled : Bool) : FlightReconcilePhase → String → Prop
  | .idle, _             => False
  | .listing _ _ objs, id => isliveEnabled ∧ MayStamp (flightListing objs) id
  | .writing _ stamps, id => id ∈ stamps.flatten.map FlightLiveStamp.flightId

instance (listing : FlightListing) : DecidablePred (MayStamp listing) := fun _ =>
  inferInstanceAs (Decidable (_ ∧ _))

instance (phase : FlightReconcilePhase) : DecidablePred (phase.MayWrite isliveEnabled) := by
  intro id; unfold FlightReconcilePhase.MayWrite; split <;> infer_instance

lemma mem_live {objs : List OntologyObject} {id : String} : id ∈ (flightListing objs).live ↔
    id ≠ "" ∧ ∃ o ∈ objs, o.pk = id ∧ o.get "isLive" = some (.flag true) := by
  simp only [flightListing, List.mem_dedup, List.mem_map, List.mem_filter, decide_eq_true_eq]
  constructor
  · rintro ⟨o, ⟨⟨ho, hne⟩, hlive⟩, rfl⟩
    exact ⟨hne, o, ho, rfl, hlive⟩
  · rintro ⟨hne, o, ho, rfl, hlive⟩
    exact ⟨o, ⟨⟨ho, hne⟩, hlive⟩, rfl⟩

lemma mem_completed {objs : List OntologyObject} {id : String} :
    id ∈ (flightListing objs).completed ↔
      id ≠ "" ∧ ∃ o ∈ objs, o.pk = id ∧ o.get "landedAt" ≠ none := by
  simp only [flightListing, List.mem_dedup, List.mem_map, List.mem_filter, decide_eq_true_eq]
  constructor
  · rintro ⟨o, ⟨⟨ho, hne⟩, hlanded⟩, rfl⟩
    exact ⟨hne, o, ho, rfl, hlanded⟩
  · rintro ⟨hne, o, ho, rfl, hlanded⟩
    exact ⟨o, ⟨⟨ho, hne⟩, hlanded⟩, rfl⟩

/-- What is not in the next page cannot be stamped because of it. -/
lemma MayStamp.of_append {objs page : List OntologyObject} {id : String}
    (h : MayStamp (flightListing (objs ++ page)) id) (hid : id ∉ page.map OntologyObject.pk) :
    MayStamp (flightListing objs) id := by
  have hpage : ∀ o ∈ page, o.pk ≠ id := by
    rintro o ho rfl
    exact hid (List.mem_map_of_mem ho)
  obtain ⟨hparse, hlive | ⟨hmem, hnot⟩⟩ := h
  · refine ⟨hparse, .inl ?_⟩
    obtain ⟨hne, o, ho, hpk, hlive⟩ := mem_live.mp hlive
    have ho : o ∈ objs := (List.mem_append.mp ho).resolve_right fun ho => hpage o ho hpk
    exact mem_live.mpr ⟨hne, o, ho, hpk, hlive⟩
  · refine ⟨hparse, .inr ⟨?_, fun hcompleted => hnot ?_⟩⟩
    · obtain ⟨hne, hmem⟩ := mem_allPks.mp hmem
      rw [List.map_append, List.mem_append] at hmem
      exact mem_allPks.mpr ⟨hne, hmem.resolve_right hid⟩
    · obtain ⟨hne, o, ho, hlanded⟩ := mem_completed.mp hcompleted
      exact mem_completed.mpr ⟨hne, o, List.mem_append_left _ ho, hlanded⟩

lemma mem_keepLatestLeg {latest : List Leg} {leg l : Leg} (h : l ∈ keepLatestLeg latest leg) :
    l = leg ∨ l ∈ latest := by
  rw [keepLatestLeg] at h
  split at h
  · simpa [or_comm] using h
  · split_ifs at h
    · obtain ⟨l', hl', rfl⟩ := List.mem_map.mp h
      split_ifs
      · exact .inl rfl
      · exact .inr hl'
    · exact .inr h

/-- The legs of the scan are parsed from the ids. -/
lemma mem_latestAirborne {cutoff : Instant} {airborne pks : List String} {scan result : TenantScan}
    (h : scanTenant cutoff airborne pks scan = .ok result) {leg : Leg}
    (hleg : leg ∈ result.latestAirborne) : leg ∈ scan.latestAirborne ∨
      leg.flightId ∈ pks ∧ parseFlightId leg.flightId = .ok (leg.icao24, leg.takeoffTs) := by
  induction pks generalizing scan with
  | nil =>
    obtain rfl := Except.ok.inj h
    exact .inl hleg
  | cons pk pks ih =>
    rw [scanTenant] at h
    split at h
    next =>
      exact (ih h).imp_right fun hleg => ⟨List.mem_cons_of_mem _ hleg.1, hleg.2⟩
    next => simp at h
    next icao24 ts hparse =>
      rcases ih h with hold | ⟨hmem, hok⟩
      · simp only at hold
        split_ifs at hold
        · rcases mem_keepLatestLeg hold with rfl | hold
          · exact .inr ⟨List.mem_cons_self, hparse⟩
          · exact .inl hold
        · exact .inl hold
      · exact .inr ⟨List.mem_cons_of_mem _ hmem, hok⟩

/-- Every stamp of a plan is of a leg that may be stamped. -/
lemma mayStamp_of_plan {now : Instant} {airborne order : List String} {listing : FlightListing}
    {plan : FlightReconcilePlan} (horder : order.Perm listing.allPks)
    (h : flightReconcilePlan isliveEnabled now airborne listing order = .ok plan)
    {s : FlightLiveStamp} (hs : s ∈ plan.trueStamps ++ plan.falseStamps) :
    isliveEnabled ∧ MayStamp listing s.flightId := by
  rw [flightReconcilePlan] at h
  cases hscan : scanTenant (now - flightReconcileTtl) airborne order ⟨[], []⟩ with
  | error e => simp [hscan, Except.map] at h
  | ok scan =>
    rw [hscan] at h
    obtain rfl := Except.ok.inj h
    cases isliveEnabled with
    | false => simp at hs
    | true =>
      refine ⟨rfl, ?_⟩
      simp only [if_true] at hs
      rcases List.mem_append.mp hs with hs | hs
      · obtain ⟨leg, hleg, rfl⟩ := List.mem_map.mp hs
        simp only [List.mem_filter, decide_eq_true_eq] at hleg
        obtain ⟨⟨hlatest, hnot⟩, -⟩ := hleg
        obtain ⟨hmem, hparse⟩ := (mem_latestAirborne hscan hlatest).resolve_left (by simp)
        exact ⟨by simp [liveStamp, hparse, Except.isOk, Except.toBool],
          .inr ⟨horder.mem_iff.mp hmem, hnot⟩⟩
      · obtain ⟨pk, hpk, hstamp⟩ := List.mem_filterMap.mp hs
        have hlive := (List.mem_filter.mp (mem_sortedIds.mp hpk)).1
        rw [falseStamp] at hstamp
        split at hstamp
        · next hparse =>
          obtain rfl := Option.some.inj hstamp
          exact ⟨by simp [hparse, Except.isOk, Except.toBool], .inl hlive⟩
        · simp at hstamp

/-- A run writes only flights it may write, and may write only those and what it reads. -/
lemma flightReconcileStep_mayWrite {id : String}
    (h : flightReconcileStep isliveEnabled tenant phase a = some (tenant', phase')) :
    (id ∈ tenant'.keys → id ∈ tenant.keys ∨ phase.MayWrite isliveEnabled id) ∧
      (phase'.MayWrite isliveEnabled id →
        id ∈ tenant.keys ∨ phase.MayWrite isliveEnabled id) := by
  cases FlightReconcileRule.of_flightReconcileStep h with
  | start now airborne =>
    simp [FlightReconcilePhase.MayWrite, MayStamp, flightListing]
  | page now airborne objs page hpage =>
    refine ⟨.inl, fun hmay => ?_⟩
    by_cases hid : id ∈ page.map OntologyObject.pk
    · obtain ⟨o, ho, rfl⟩ := List.mem_map.mp hid
      exact .inl (List.mem_map_of_mem (hpage o ho))
    · exact .inr ⟨hmay.1, hmay.2.of_append hid⟩
  | plan now airborne objs order plan horder hplan =>
    refine ⟨.inl, fun hmay => .inr ?_⟩
    have hsize : 0 < maxBatch := by decide
    simp only [FlightReconcilePlan.phase, FlightReconcilePhase.MayWrite, List.flatten_append,
      flatten_chunks hsize] at hmay
    obtain ⟨s, hs, rfl⟩ := List.mem_map.mp hmay
    exact mayStamp_of_plan horder hplan hs
  | delete chunk deletes stamps outcome =>
    refine ⟨fun hid => .inl ?_, fun hmay => .inr ?_⟩
    · split_ifs at hid
      · exact (Table.mem_keys_delete.mp hid).1
      · exact hid
    · cases outcome with
      | posted => exact hmay
      | retried => exact hmay
      | failed => exact hmay.elim
  | stamp chunk stamps outcome =>
    refine ⟨fun hid => ?_, fun hmay => .inr ?_⟩
    · split_ifs at hid
      · refine (mem_keys_applyUpserts.mp hid).imp_right fun hid => ?_
        rw [List.map_map] at hid
        simp only [FlightReconcilePhase.MayWrite, List.flatten_cons, List.map_append,
          List.mem_append]
        exact .inl hid
      · exact .inl hid
    · cases outcome with
      | posted =>
        simp only [FlightReconcilePhase.MayWrite, List.flatten_cons, List.map_append,
          List.mem_append]
        exact .inr hmay
      | retried => exact hmay
      | failed => exact hmay.elim
  | stop => exact ⟨.inl, fun hmay => hmay.elim⟩

end FleetMonitor
