import FleetMonitor.Foundry.LiveSet

/-!
# Runs of the flight reconcile

A run that nothing else interferes with, from its listing to its last call. Whatever happens to the
calls, only stubs are deleted. When all of them are posted the live set is exact, and the same run
once more has no stamp to send.
-/

namespace FleetMonitor

open Library

variable {isliveEnabled : Bool} {cutoff now : Instant} {airborne order : List String}
  {tenant : ObjectSet} {plan : FlightReconcilePlan} {id key : String}

/-! ### The tenant after a plan -/

/-- The tenant once every call of the plan has been applied. -/
def FlightReconcilePlan.apply (plan : FlightReconcilePlan) (tenant : ObjectSet) : ObjectSet :=
  ((plan.trueStamps ++ plan.falseStamps).map liveStampParams).foldl applyUpsert
    (tenant.delete plan.toDelete)

lemma lookup_liveStampParams_isLive (s : FlightLiveStamp) :
    (liveStampParams s).params.lookup "isLive" = some (.flag s.isLive) := rfl

lemma lookup_liveStampParams_landedAt (s : FlightLiveStamp) :
    (liveStampParams s).params.lookup "landedAt" = none := rfl

lemma prop_delete (ids : List String) :
    ObjectSet.prop (tenant.delete ids) id key = if id ∈ ids then none else tenant.prop id key := by
  rw [ObjectSet.prop, Table.lookup_delete]
  split_ifs <;> rfl

/-- Stamps that say the same of a leg leave it that way. -/
lemma prop_stamps {b : Bool} {stamps : List FlightLiveStamp} (h : ∀ s ∈ stamps, s.isLive = b) :
    ObjectSet.prop ((stamps.map liveStampParams).foldl applyUpsert tenant) id "isLive" =
      if id ∈ stamps.map FlightLiveStamp.flightId then some (.flag b)
      else tenant.prop id "isLive" := by
  induction stamps generalizing tenant with
  | nil => rfl
  | cons s stamps ih =>
    obtain ⟨hs, hstamps⟩ := List.forall_mem_cons.mp h
    rw [List.map_cons, List.foldl_cons, ih hstamps, prop_applyUpsert, List.map_cons,
      lookup_liveStampParams_isLive, hs]
    by_cases hid : id ∈ stamps.map FlightLiveStamp.flightId
    · rw [if_pos hid, if_pos (List.mem_cons_of_mem _ hid)]
    · have hcons : id ∈ s.flightId :: stamps.map FlightLiveStamp.flightId ↔ s.flightId = id := by
        rw [List.mem_cons, or_iff_left hid, eq_comm]
      rw [if_neg hid]
      simp only [hcons]
      rfl

/-- No stamp touches the landing time. -/
lemma prop_stamps_landedAt {stamps : List FlightLiveStamp} :
    ObjectSet.prop ((stamps.map liveStampParams).foldl applyUpsert tenant) id "landedAt" =
      tenant.prop id "landedAt" := by
  induction stamps generalizing tenant with
  | nil => rfl
  | cons s stamps ih =>
    rw [List.map_cons, List.foldl_cons, ih, prop_applyUpsert, lookup_liveStampParams_landedAt,
      Option.none_or, ite_self]

/-- No leg is stamped that is deleted, or that the tenant does not have. -/
lemma PlanOf.stamped (h : PlanOf isliveEnabled cutoff airborne tenant plan)
    (hid : id ∈ (plan.trueStamps ++ plan.falseStamps).map FlightLiveStamp.flightId) :
    id ∈ tenant.keys ∧ id ∉ plan.toDelete := by
  rw [List.map_append, List.mem_append] at hid
  rcases hid with hid | hid
  · obtain ⟨-, htarget, -⟩ := (h.trueStamps id).mp hid
    refine ⟨htarget.1.1.mem, fun hdelete => ?_⟩
    exact (h.deletes id hdelete).2.1.2 htarget.1
  · obtain ⟨-, -, hlive, -, hnot⟩ := (h.falseStamps id).mp hid
    exact ⟨mem_keys_of_prop (by rw [hlive]; simp), hnot⟩

lemma PlanOf.mem_keys_apply (h : PlanOf isliveEnabled cutoff airborne tenant plan) :
    id ∈ (plan.apply tenant).keys ↔ id ∈ tenant.keys ∧ id ∉ plan.toDelete := by
  rw [FlightReconcilePlan.apply, mem_keys_applyUpserts, Table.mem_keys_delete, List.map_map]
  exact or_iff_left_of_imp h.stamped

/-- A run deletes as many flights as it counts. -/
lemma PlanOf.length_deleted (h : PlanOf isliveEnabled cutoff airborne tenant plan) :
    (tenant.keys.filter (· ∉ (plan.apply tenant).keys)).length = plan.result.deleted := by
  refine List.Perm.length_eq ((List.perm_ext_iff_of_nodup ?_ h.nodup).mpr fun id => ?_)
  · exact tenant.nodup.filter _
  · rw [List.mem_filter, decide_eq_true_eq, h.mem_keys_apply, not_and, not_not]
    exact ⟨fun hid => hid.2 hid.1, fun hid => ⟨(h.deletes id hid).1, fun _ => hid⟩⟩

lemma prop_apply_landedAt (hid : id ∉ plan.toDelete) :
    (plan.apply tenant).prop id "landedAt" = tenant.prop id "landedAt" := by
  rw [FlightReconcilePlan.apply, prop_stamps_landedAt, prop_delete, if_neg hid]

/-- Among the flight ids that are left, those of the targets are live. -/
lemma PlanOf.isLive_apply (h : PlanOf true cutoff airborne tenant plan)
    (hid : id ∈ (plan.apply tenant).keys) {leg : String × Instant}
    (hparse : parseFlightId id = .ok leg) :
    (plan.apply tenant).prop id "isLive" = some (.flag true) ↔ TargetLive airborne tenant id := by
  obtain ⟨-, hkept⟩ := h.mem_keys_apply.mp hid
  have htrue := h.trueStamps id
  have hfalse := h.falseStamps id
  rw [FlightReconcilePlan.apply, List.map_append, List.foldl_append, prop_stamps h.falseLive,
    prop_stamps h.trueLive, prop_delete, if_neg hkept]
  split_ifs with hstale hnew
  · have hnot := (hfalse.mp hstale).2.2.2.1
    simpa using hnot
  · exact iff_of_true rfl (htrue.mp hnew).2.1
  · constructor
    · intro hlive
      by_contra hnot
      exact hstale (hfalse.mpr ⟨rfl, ⟨leg, hparse⟩, hlive, hnot, hkept⟩)
    · intro htarget
      by_contra hlive
      exact hnew (htrue.mpr ⟨rfl, htarget, hlive⟩)

/-! ### The same run once more -/

lemma exists_liveLeg (htenant : ∀ id ∈ tenant.keys, TenantId id) {icao24 pk : String}
    {ts : Instant} (hair : icao24 ∈ airborne) (hpk : pk ∈ tenant.keys)
    (hparse : parseFlightId pk = .ok (icao24, ts)) :
    ∃ id ts', LiveLeg airborne tenant.keys id ∧ parseFlightId id = .ok (icao24, ts') ∧
      ts ≤ ts' := by
  obtain ⟨scan, hscan⟩ := exists_scanTenant 0 airborne ⟨[], []⟩ fun pk hpk =>
    (htenant pk hpk).ne_overflow
  have h : ScanOf 0 airborne tenant.keys scan := scanTenant_ok scanOf_nil hscan
  exact h.exists_liveLeg htenant hair hpk hparse

/-- Deleting stubs makes no other leg the latest. -/
lemma PlanOf.liveLeg_apply (h : PlanOf isliveEnabled cutoff airborne tenant plan)
    (htenant : ∀ id ∈ tenant.keys, TenantId id) :
    LiveLeg airborne (plan.apply tenant).keys id ↔ LiveLeg airborne tenant.keys id := by
  constructor
  · rintro ⟨hlatest, icao24, hair, ts, hid⟩
    obtain ⟨hkey, hlatest⟩ := (latestAmong_iff hid).mp hlatest
    refine ⟨(latestAmong_iff hid).mpr ⟨(h.mem_keys_apply.mp hkey).1, fun pk hpk ts' hpk' => ?_⟩,
      icao24, hair, ts, hid⟩
    -- The latest leg of the aircraft is still there.
    obtain ⟨top, tsTop, htop, hparse, hle⟩ := exists_liveLeg htenant hair hpk hpk'
    have hkept : top ∈ (plan.apply tenant).keys :=
      h.mem_keys_apply.mpr ⟨htop.1.mem, fun hdelete => (h.deletes top hdelete).2.1.2 htop⟩
    exact hle.trans (hlatest top hkept tsTop hparse)
  · intro hlive
    have hkept : id ∈ (plan.apply tenant).keys :=
      h.mem_keys_apply.mpr ⟨hlive.1.mem, fun hdelete => (h.deletes id hdelete).2.1.2 hlive⟩
    obtain ⟨hlatest, icao24, hair, ts, hid⟩ := hlive
    obtain ⟨-, hlatest⟩ := (latestAmong_iff hid).mp hlatest
    refine ⟨(latestAmong_iff hid).mpr ⟨hkept, fun pk hpk => ?_⟩, icao24, hair, ts, hid⟩
    exact hlatest pk (h.mem_keys_apply.mp hpk).1

lemma PlanOf.targetLive_apply (h : PlanOf isliveEnabled cutoff airborne tenant plan)
    (htenant : ∀ id ∈ tenant.keys, TenantId id) :
    TargetLive airborne (plan.apply tenant) id ↔ TargetLive airborne tenant id := by
  rw [TargetLive, TargetLive, h.liveLeg_apply htenant]
  refine and_congr_right fun hlive => ?_
  rw [prop_apply_landedAt fun hdelete => (h.deletes id hdelete).2.1.2 hlive]

/-- What a second run may delete are stubs that the first has left. -/
lemma PlanOf.stubOrphan_apply (h : PlanOf isliveEnabled cutoff airborne tenant plan)
    (htenant : ∀ id ∈ tenant.keys, TenantId id)
    (hid : StubOrphan cutoff airborne (plan.apply tenant) id) :
    StubOrphan cutoff airborne tenant id ∧ id ∉ plan.toDelete := by
  obtain ⟨hkey, ⟨hold, hlive⟩, hlanded⟩ := hid
  obtain ⟨hkey, hkept⟩ := h.mem_keys_apply.mp hkey
  rw [prop_apply_landedAt hkept] at hlanded
  exact ⟨⟨hkey, ⟨hold, mt (h.liveLeg_apply htenant).mpr hlive⟩, hlanded⟩, hkept⟩

/-- A second run has no stamp to send. -/
lemma PlanOf.stamps_again {plan' : FlightReconcilePlan}
    (h : PlanOf isliveEnabled cutoff airborne tenant plan)
    (htenant : ∀ id ∈ tenant.keys, TenantId id)
    (h' : PlanOf isliveEnabled cutoff airborne (plan.apply tenant) plan') :
    plan'.trueStamps = [] ∧ plan'.falseStamps = [] := by
  have hempty : ∀ stamps : List FlightLiveStamp,
      (∀ id, id ∉ stamps.map FlightLiveStamp.flightId) → stamps = [] := fun stamps hnone =>
    List.map_eq_nil_iff.mp (List.eq_nil_iff_forall_not_mem.mpr hnone)
  constructor
  · refine hempty _ fun id hid => ?_
    obtain ⟨rfl, htarget, hlive⟩ := (h'.trueStamps id).mp hid
    obtain ⟨icao24, -, ts, hparse⟩ := htarget.1.2
    exact hlive ((h.isLive_apply htarget.1.1.mem hparse).mpr
      ((h.targetLive_apply htenant).mp htarget))
  · refine hempty _ fun id hid => ?_
    obtain ⟨rfl, ⟨leg, hparse⟩, hlive, hnot, -⟩ := (h'.falseStamps id).mp hid
    have hkey : id ∈ (plan.apply tenant).keys := mem_keys_of_prop (by rw [hlive]; simp)
    exact hnot ((h.targetLive_apply htenant).mpr ((h.isLive_apply hkey hparse).mp hlive))

/-! ### Runs -/

/-- The tenant and the phase after a step, when nothing else writes. -/
def reconcileAct (isliveEnabled : Bool) (s : ObjectSet × FlightReconcilePhase)
    (a : FlightReconcileAction) : Option (ObjectSet × FlightReconcilePhase) :=
  flightReconcileStep isliveEnabled s.1 s.2 a

/-- The first half of a run: the feed, the pages of the listing, and the plan. -/
def listingActions (now : Instant) (response : PositionsLiveResponse)
    (pages : List (List OntologyObject)) (order : List String) : List FlightReconcileAction :=
  .start now response :: (pages.map .page ++ [.plan order])

/-- A call of the writer, or the end of the run. -/
def FlightReconcileAction.IsCall : FlightReconcileAction → Prop
  | .delete _ | .stamp _ | .stop => True
  | _                            => False

/-- The second half of a run all of whose calls are posted. -/
def FlightReconcilePlan.postedCalls (plan : FlightReconcilePlan) : List FlightReconcileAction :=
  (chunks maxBatch plan.toDelete).map (fun _ => .delete .posted) ++
    (chunks maxBatch plan.trueStamps ++ chunks maxBatch plan.falseStamps).map
      fun _ => .stamp .posted

variable {response : PositionsLiveResponse} {pages : List (List OntologyObject)}

lemma run_pages {objs : List OntologyObject}
    (hpages : ∀ page ∈ pages, ∀ o ∈ page, o ∈ tenant.rows) :
    runActions (reconcileAct isliveEnabled) (tenant, .listing now airborne objs)
        (pages.map .page) =
      some (tenant, .listing now airborne (objs ++ pages.flatten)) := by
  induction pages generalizing objs with
  | nil => simp [runActions]
  | cons page pages ih =>
    obtain ⟨hpage, hpages⟩ := List.forall_mem_cons.mp hpages
    rw [List.map_cons, runActions, reconcileAct, flightReconcileStep, if_pos hpage,
      Option.bind_some, ih hpages, List.flatten_cons, List.append_assoc]

lemma run_listing (hair : airborneIn response ≠ []) (hpages : pages.flatten = tenant.rows)
    (horder : order.Perm (flightListing tenant.rows).allPks)
    (hplan : flightReconcilePlan isliveEnabled now (airborneIn response)
      (flightListing tenant.rows) order = .ok plan) :
    runActions (reconcileAct isliveEnabled) (tenant, .idle)
      (listingActions now response pages order) = some (tenant, plan.phase) := by
  have hstart : reconcileAct isliveEnabled (tenant, .idle) (.start now response) =
      some (tenant, .listing now (airborneIn response) []) := by
    have hsome : (if airborneIn response = [] then FlightReconcilePhase.idle
        else .listing now (airborneIn response) []) = .listing now (airborneIn response) [] :=
      if_neg hair
    exact congrArg (fun phase => some (tenant, phase)) hsome
  have hread : ∀ page ∈ pages, ∀ o ∈ page, o ∈ tenant.rows := by
    intro page hpage o ho
    rw [← hpages]
    exact List.mem_flatten.mpr ⟨page, hpage, ho⟩
  have hlast : reconcileAct isliveEnabled
      (tenant, .listing now (airborneIn response) ([] ++ pages.flatten)) (.plan order) =
        some (tenant, plan.phase) := by
    simp only [reconcileAct, flightReconcileStep, List.nil_append, hpages, hplan]
    rw [if_pos horder]
  rw [listingActions, runActions, hstart, Option.bind_some, runActions_append, run_pages hread,
    Option.bind_some, runActions_singleton, hlast]

lemma run_stamps (stamps : List (List FlightLiveStamp)) :
    runActions (reconcileAct isliveEnabled) (tenant, .writing [] stamps)
        (stamps.map fun _ => .stamp .posted) =
      some ((stamps.flatten.map liveStampParams).foldl applyUpsert tenant, .writing [] []) := by
  induction stamps generalizing tenant with
  | nil => rfl
  | cons chunk stamps ih =>
    rw [List.map_cons, runActions, reconcileAct, flightReconcileStep]
    simp only [PostOutcome.applied, PostOutcome.phase, if_true, Option.bind_some]
    rw [ih, List.flatten_cons, List.map_append, List.foldl_append]

lemma run_deletes (deletes : List (List String)) (stamps : List (List FlightLiveStamp)) :
    runActions (reconcileAct isliveEnabled) (tenant, .writing deletes stamps)
        (deletes.map fun _ => .delete .posted) =
      some (tenant.delete deletes.flatten, .writing [] stamps) := by
  induction deletes generalizing tenant with
  | nil => simp [runActions, delete_nil]
  | cons chunk deletes ih =>
    rw [List.map_cons, runActions, reconcileAct, flightReconcileStep]
    simp only [PostOutcome.applied, PostOutcome.phase, if_true, Option.bind_some]
    rw [ih, delete_delete, List.flatten_cons]

/-- A run whose calls are all posted leaves the tenant of its plan. -/
lemma run_postedCalls : runActions (reconcileAct isliveEnabled) (tenant, plan.phase)
    plan.postedCalls = some (plan.apply tenant, .writing [] []) := by
  have hsize : 0 < maxBatch := by decide
  rw [FlightReconcilePlan.postedCalls, FlightReconcilePlan.phase, runActions_append, run_deletes,
    Option.bind_some, run_stamps, List.flatten_append, flatten_chunks hsize, flatten_chunks hsize,
    flatten_chunks hsize]
  rfl

/-- The ids a phase may still delete. -/
def FlightReconcilePhase.Deletes : FlightReconcilePhase → List String → Prop
  | .idle, _              => True
  | .listing _ _ _, _     => False
  | .writing deletes _, ids => ∀ id ∈ deletes.flatten, id ∈ ids

/-- A call deletes nothing but what the phase may delete. -/
lemma call_step {s t : ObjectSet × FlightReconcilePhase} {c : FlightReconcileAction}
    {ids : List String}
    (hc : c.IsCall) (hs : s.2.Deletes ids) (hstep : reconcileAct isliveEnabled s c = some t) :
    t.2.Deletes ids ∧ ∀ id ∈ s.1.keys, id ∉ ids → id ∈ t.1.keys := by
  obtain ⟨before, phase⟩ := s
  obtain ⟨after, phase'⟩ := t
  cases phase with
  | listing => exact hs.elim
  | idle =>
    cases c with
    | stop =>
      obtain ⟨rfl, rfl⟩ := Prod.mk.inj (Option.some.inj hstep)
      exact ⟨trivial, fun id hid _ => hid⟩
    | start => exact hc.elim
    | page => exact hc.elim
    | plan => exact hc.elim
    | delete => simp [reconcileAct, flightReconcileStep] at hstep
    | stamp => simp [reconcileAct, flightReconcileStep] at hstep
  | writing deletes stamps =>
    cases FlightReconcileRule.of_flightReconcileStep hstep with
    | delete chunk deletes stamps outcome =>
      rw [FlightReconcilePhase.Deletes, List.flatten_cons, List.forall_mem_append] at hs
      refine ⟨?_, fun id hid hnot => ?_⟩
      · cases outcome with
        | posted => exact hs.2
        | retried =>
          simpa [PostOutcome.phase, FlightReconcilePhase.Deletes, or_imp, forall_and] using hs
        | failed => trivial
      · split_ifs
        · exact Table.mem_keys_delete.mpr ⟨hid, fun hchunk => hnot (hs.1 id hchunk)⟩
        · exact hid
    | stamp chunk stamps outcome =>
      refine ⟨?_, fun id hid _ => ?_⟩
      · cases outcome with
        | posted => exact hs
        | retried => exact hs
        | failed => trivial
      · split_ifs
        · exact mem_keys_applyUpserts.mpr (.inl hid)
        · exact hid
    | stop => exact ⟨trivial, fun id hid _ => hid⟩

/-- The calls of a run delete nothing but what it has planned to. -/
lemma run_calls {s t : ObjectSet × FlightReconcilePhase} {calls : List FlightReconcileAction}
    {ids : List String} (hcalls : ∀ c ∈ calls, c.IsCall) (hs : s.2.Deletes ids)
    (hrun : runActions (reconcileAct isliveEnabled) s calls = some t) :
    ∀ id ∈ s.1.keys, id ∉ ids → id ∈ t.1.keys := by
  induction calls generalizing s with
  | nil =>
    obtain rfl := Option.some.inj hrun
    exact fun id hid _ => hid
  | cons c calls ih =>
    obtain ⟨hc, hcalls⟩ := List.forall_mem_cons.mp hcalls
    obtain ⟨u, hstep, hrun⟩ := Option.bind_eq_some_iff.mp hrun
    obtain ⟨hu, hkept⟩ := call_step hc hs hstep
    intro id hid hnot
    exact ih hcalls hu hrun id (hkept id hid hnot) hnot

/-- `reconcile_flights` on its own, on any tenant and any feed. With no aircraft in the air it reads
and changes nothing. Otherwise it gets as far as its plan; whatever then happens to its calls, only
stubs outside the live working set are deleted; and when all of them are posted, the result accounts
for the orphans, the live flights are the targets, and the same run once more sends no stamp and
deletes only what the first one has left. -/
theorem reconcile_flights_alone (isliveEnabled : Bool) (tenant : ObjectSet) (now : Instant)
    (response : PositionsLiveResponse) (htenant : ∀ id ∈ tenant.keys, TenantId id) :
    (airborneIn response = [] →
      reconcileAct isliveEnabled (tenant, .idle) (.start now response) = some (tenant, .idle) ∧
        ∀ objs order, flightReconcileResult isliveEnabled now response objs order = .ok .skipped) ∧
    (airborneIn response ≠ [] → ∀ pages order, pages.flatten = tenant.rows →
      order.Perm (flightListing tenant.rows).allPks →
      ∃ (plan : FlightReconcilePlan) (result : FlightReconcileResult) (tenant' : ObjectSet),
        flightReconcilePlan isliveEnabled now (airborneIn response) (flightListing tenant.rows)
            order = .ok plan ∧
        flightReconcileResult isliveEnabled now response tenant.rows order = .ok result ∧
        runActions (reconcileAct isliveEnabled) (tenant, .idle)
            (listingActions now response pages order) = some (tenant, plan.phase) ∧
        (∀ calls s, (∀ c ∈ calls, FlightReconcileAction.IsCall c) →
          runActions (reconcileAct isliveEnabled) (tenant, plan.phase) calls = some s →
          ∀ id ∈ tenant.keys, id ∉ s.1.keys →
            StubOrphan (now - flightReconcileTtl) (airborneIn response) tenant id) ∧
        runActions (reconcileAct isliveEnabled) (tenant, plan.phase) plan.postedCalls =
          some (tenant', .writing [] []) ∧
        (result.orphans = result.completedSkipped + result.deleted + result.remaining ∧
          result.deleted ≤ flightReconcileDeleteCap ∧
          result.deleted = (tenant.keys.filter (· ∉ tenant'.keys)).length) ∧
        (isliveEnabled = true → ∀ id ∈ tenant'.keys, ∀ leg, parseFlightId id = .ok leg →
          (tenant'.prop id "isLive" = some (.flag true) ↔
            TargetLive (airborneIn response) tenant' id)) ∧
        ∀ pages' order', pages'.flatten = tenant'.rows →
          order'.Perm (flightListing tenant'.rows).allPks →
          ∃ plan' : FlightReconcilePlan,
            flightReconcilePlan isliveEnabled now (airborneIn response)
                (flightListing tenant'.rows) order' = .ok plan' ∧
            runActions (reconcileAct isliveEnabled) (tenant', .idle)
              (listingActions now response pages' order') = some (tenant', plan'.phase) ∧
            plan'.trueStamps = [] ∧ plan'.falseStamps = [] ∧
            ∀ id ∈ plan'.toDelete,
              StubOrphan (now - flightReconcileTtl) (airborneIn response) tenant id ∧
                id ∉ plan.toDelete) := by
  constructor
  · intro hair
    have hidle : (if airborneIn response = [] then FlightReconcilePhase.idle
        else .listing now (airborneIn response) []) = .idle := if_pos hair
    refine ⟨congrArg (fun phase => some (tenant, phase)) hidle, fun objs order => ?_⟩
    rw [flightReconcileResult, if_pos hair]
  · intro hair pages order hpages horder
    obtain ⟨plan, hplan, h⟩ := exists_planOf isliveEnabled now (airborneIn response) htenant
      horder
    have hkeys : ∀ id ∈ (plan.apply tenant).keys, TenantId id :=
      fun id hid => htenant id (h.mem_keys_apply.mp hid).1
    have hsize : 0 < maxBatch := by decide
    refine ⟨plan, plan.result, plan.apply tenant, hplan, ?_, run_listing hair hpages horder hplan,
      ?_, run_postedCalls, ⟨h.counts, h.capped, h.length_deleted.symm⟩, ?_, ?_⟩
    · rw [flightReconcileResult, if_neg hair, hplan]
      rfl
    · intro calls s hcalls hrun id hid hgone
      have hdeletes : plan.phase.Deletes plan.toDelete := by
        intro id hid
        rwa [flatten_chunks hsize] at hid
      by_contra hnot
      exact hgone (run_calls hcalls hdeletes hrun id hid fun hdelete => hnot (h.deletes id hdelete))
    · rintro rfl id hid leg hparse
      rw [h.isLive_apply hid hparse, h.targetLive_apply htenant]
    · intro pages' order' hpages' horder'
      obtain ⟨plan', hplan', h'⟩ := exists_planOf isliveEnabled now (airborneIn response) hkeys
        horder'
      obtain ⟨htrue, hfalse⟩ := h.stamps_again htenant h'
      exact ⟨plan', hplan', run_listing hair hpages' horder' hplan', htrue, hfalse,
        fun id hid => h.stubOrphan_apply htenant (h'.deletes id hid)⟩

/-- A tenant with two legs of an aircraft, neither of them landed, and an object that is no flight.
-/
def twoLegTenant : ObjectSet where
  rows := [⟨"a1b2c3-1767225660", []⟩, ⟨"a1b2c3-1767000000", [("isLive", .flag true)]⟩,
    ⟨"scratch", []⟩]
  nodup := by decide

/-- The aircraft is in the air. -/
def oneAirborne : PositionsLiveResponse where
  items := [⟨"a1b2c3", false, some .west, 1767229200000000⟩]
  serverTime := 1767229200000000

lemma tenantId_twoLegTenant : ∀ id ∈ twoLegTenant.keys, TenantId id := by
  have hminted : ∀ seconds : ℕ, IsDatetime (seconds * 1000000 : ℤ) →
      TenantId (synthesizeFlightId "a1b2c3" (seconds * 1000000 : ℤ)) :=
    fun seconds h => .inl ⟨"a1b2c3", _, h, rfl⟩
  intro id hid
  have hid : id = synthesizeFlightId "a1b2c3" (1767225660 * 1000000 : ℤ) ∨
      id = synthesizeFlightId "a1b2c3" (1767000000 * 1000000 : ℤ) ∨ id = "scratch" := by
    revert id
    decide
  rcases hid with rfl | rfl | rfl
  · exact hminted 1767225660 ⟨by decide, by decide⟩
  · exact hminted 1767000000 ⟨by decide, by decide⟩
  · exact .inr (by decide)

theorem reconcile_flights_twoLegTenant :
    ∃ (plan : FlightReconcilePlan) (tenant' : ObjectSet),
      flightReconcileResult true 1767229200000000 oneAirborne twoLegTenant.rows
          twoLegTenant.keys = .ok plan.result ∧
      runActions (reconcileAct true) (twoLegTenant, plan.phase) plan.postedCalls =
        some (tenant', .writing [] []) ∧
      plan.result.deleted = (twoLegTenant.keys.filter (· ∉ tenant'.keys)).length := by
  obtain ⟨plan, result, tenant', hplan, hresult, -, -, hposted, ⟨-, -, hdeleted⟩, -⟩ :=
    (reconcile_flights_alone true twoLegTenant 1767229200000000 oneAirborne
      tenantId_twoLegTenant).2 (by decide) [twoLegTenant.rows] twoLegTenant.keys rfl (by decide)
  have hsame : flightReconcileResult true 1767229200000000 oneAirborne twoLegTenant.rows
      twoLegTenant.keys = .ok plan.result := by
    rw [flightReconcileResult, if_neg (by decide), hplan]
    rfl
  obtain rfl := Except.ok.inj (hresult.symm.trans hsame)
  exact ⟨plan, tenant', hsame, hposted, hdeleted⟩

/-- The older leg is deleted, and the other one becomes live. -/
example : (flightReconcilePlan true 1767229200000000 (airborneIn oneAirborne)
    (flightListing twoLegTenant.rows) twoLegTenant.keys).map
      (fun plan => (plan.toDelete, plan.trueStamps.map FlightLiveStamp.flightId)) =
    .ok (["a1b2c3-1767000000"], ["a1b2c3-1767225660"]) := by decide

end FleetMonitor
