import FleetMonitor.Foundry.EnrichmentFailures
import FleetMonitor.Foundry.LiveSet

/-!
# Malformed flight ids

The ids of a tenant can be any texts. `reconcile_flights` and `enriched_sync_flights` both run
`parse_flight_id` on each of them in a loop that catches a `ValueError` and nothing else.
-/

namespace FleetMonitor

open Library

/-! ### Ids whose time is no time at all -/

/-- The number after the last hyphen of an id, if it has one, fits a `time_t`. -/
def FitsTimeT (id : String) : Prop :=
  ∀ icao24 ts : List Char, id.toList = icao24 ++ '-' :: ts → icao24 ≠ [] → '-' ∉ ts →
    ∀ n : ℤ, pyInt ts = some n → n < 2 ^ 63

/-- The two halves of a text with a hyphen. -/
lemma parseFlightId_append {id : String} {icao24 ts : List Char}
    (hid : id.toList = icao24 ++ '-' :: ts) (hts : '-' ∉ ts) :
    parseFlightId id =
      if icao24 = [] ∨ ts = [] then .error .valueError
      else
        (pyInt ts).elim (.error .valueError) fun seconds =>
          (fromTimestamp seconds).map fun t => (String.ofList icao24, t) := by
  have hhyphen : '-' ∉ ts.reverse := by rwa [List.mem_reverse]
  have hreverse : id.toList.reverse = ts.reverse ++ '-' :: icao24.reverse := by simp [hid]
  simp only [parseFlightId, hreverse, takeWhile_append_hyphen hhyphen,
    dropWhile_append_hyphen hhyphen, List.drop_one, List.tail_cons, List.reverse_reverse]
  cases pyInt ts <;> rfl

/-- A text is split at its last hyphen, unless it has none. -/
lemma exists_last_hyphen {cs : List Char} (h : '-' ∈ cs) :
    ∃ front back, cs = front ++ '-' :: back ∧ '-' ∉ back := by
  obtain ⟨back, front, hcs, hback⟩ := List.eq_append_cons_of_mem (List.mem_reverse.mpr h)
  refine ⟨front.reverse, back.reverse, ?_, by rwa [List.mem_reverse]⟩
  rw [← List.reverse_reverse cs, hcs]
  simp

lemma parseFlightId_of_no_hyphen {id : String} (h : '-' ∉ id.toList) :
    parseFlightId id = .error .valueError := by
  have hall : ∀ c ∈ id.toList.reverse, (decide (c ≠ '-')) = true := by
    intro c hc
    rw [decide_eq_true_eq]
    rintro rfl
    exact h (List.mem_reverse.mp hc)
  have hnil : id.toList.reverse.dropWhile (fun c => decide (c ≠ '-')) = [] :=
    List.dropWhile_eq_nil_iff.mpr hall
  simp only [parseFlightId, hnil]
  rfl

lemma fromTimestamp_overflow_iff {n : ℤ} (h : 0 ≤ n) :
    fromTimestamp n = .error .overflowError ↔ 2 ^ 63 ≤ n := by
  rw [fromTimestamp]
  split_ifs with hout hyear
  · simpa using hout.resolve_left (by omega)
  · refine iff_of_false (by simp) ?_
    omega
  · refine iff_of_false (by simp) ?_
    omega

/-- `parse_flight_id` raises something else than a `ValueError` exactly when the number does not
fit. -/
lemma parse_ne_overflow_iff {id : String} :
    parseFlightId id ≠ .error .overflowError ↔ FitsTimeT id := by
  by_cases hhyphen : '-' ∈ id.toList
  · obtain ⟨icao24, ts, hid, hts⟩ := exists_last_hyphen hhyphen
    have hunique : ∀ icao24' ts', id.toList = icao24' ++ '-' :: ts' → '-' ∉ ts' →
        icao24' = icao24 ∧ ts' = ts := by
      intro icao24' ts' hid' hts'
      exact append_hyphen_inj hts' hts (hid'.symm.trans hid)
    rw [parseFlightId_append hid hts]
    constructor
    · intro h icao24' ts' hid' hne hts' n hn
      obtain ⟨rfl, rfl⟩ := hunique icao24' ts' hid' hts'
      by_contra hlarge
      have hnil : ts' ≠ [] := by
        rintro rfl
        have hnone : pyInt [] = none := by decide
        simp [hnone] at hn
      have hover := (fromTimestamp_overflow_iff (pyInt_nonneg hts' hn)).mpr (not_lt.mp hlarge)
      rw [if_neg (by simp [hne, hnil]), hn, Option.elim_some, hover] at h
      exact h rfl
    · intro h hover
      split_ifs at hover with hempty
      · cases hover
      · obtain ⟨hne, -⟩ := not_or.mp hempty
        cases hn : pyInt ts with
        | none => simp [hn] at hover
        | some n =>
          have hsmall := h icao24 ts hid hne hts n hn
          cases hfrom : fromTimestamp n with
          | ok t => simp [hn, hfrom, Except.map] at hover
          | error e =>
            obtain rfl : e = .overflowError := by simpa [hn, hfrom, Except.map] using hover
            have := (fromTimestamp_overflow_iff (pyInt_nonneg hts hn)).mp hfrom
            omega
  · rw [parseFlightId_of_no_hyphen hhyphen]
    refine iff_of_true (by simp) fun icao24 ts hid => ?_
    exact absurd (by simp [hid]) hhyphen

/-! ### What the loops are for -/

/-- The id of a flight. -/
def isFlightId (id : String) : Bool := (parseFlightId id).isOk

/-- The ids a loop warns of, until an exception it does not catch ends it. -/
def warnedIds : List String → List String
  | [] => []
  | pk :: pks =>
    match parseFlightId pk with
    | .ok _                 => warnedIds pks
    | .error .valueError    => pk :: warnedIds pks
    | .error .overflowError => []

/-- The flight has taken off before the cutoff. -/
def takenOffBefore (cutoff : Instant) (id : String) : Bool :=
  match parseFlightId id with
  | .ok (_, takeoffTs) => takeoffTs < cutoff
  | .error _           => false

/-- The flights outside the working set, when these are the latest legs of the airborne aircraft. -/
def outsideWorkingSet (cutoff : Instant) (listing : FlightListing) (latest : List Leg) :
    List String :=
  listing.allPks.filter fun id =>
    takenOffBefore cutoff id && decide (id ∉ latest.map (·.flightId))

/-- The plan takes the flights among the ids, each by what its id says, and leaves the others. -/
structure PlansFlights (isliveEnabled : Bool) (cutoff : Instant) (airborne : List String)
    (listing : FlightListing) (latest : List Leg) (plan : FlightReconcilePlan) : Prop where
  legs : LegsOf (listing.allPks.filter (OfAirborne airborne)) latest
  orphans : plan.orphans = (outsideWorkingSet cutoff listing latest).length
  completedSkipped : plan.completedSkipped =
    ((outsideWorkingSet cutoff listing latest).filter (· ∈ listing.completed)).length
  deletes : ∃ remaining, plan.toDelete ++ remaining =
      sortedIds ((outsideWorkingSet cutoff listing latest).filter (· ∉ listing.completed)) ∧
    remaining.length = plan.remaining ∧
    (remaining = [] ∨ plan.toDelete.length = flightReconcileDeleteCap)
  keeps : ∀ id ∈ plan.toDelete, isFlightId id = true
  trueStamps : ∀ s, s ∈ plan.trueStamps ↔ isliveEnabled = true ∧
    ∃ leg ∈ latest, leg.flightId ∉ listing.live ∧ leg.flightId ∉ listing.completed ∧
      liveStamp true leg = s
  falseStamps : ∀ s, s ∈ plan.falseStamps ↔ isliveEnabled = true ∧
    s.flightId ∈ listing.live ∧ s.flightId ∉ plan.toDelete ∧
    (s.flightId ∈ latest.map (·.flightId) → s.flightId ∈ listing.completed) ∧
    parseFlightId s.flightId = .ok (s.icao24, s.takeoffTs) ∧ s.isLive = false

/-- The run, said to have listed this many flights. -/
def EnrichmentRun.ofListed (run : EnrichmentRun) (tenantFlights : ℕ) : EnrichmentRun where
  calls := run.calls
  result := run.result.map fun r => { r with tenantFlights }

/-- Whatever the ids of the tenant are, both jobs pass over those that are no flight ids with a
warning, and take every flight among the others. -/
structure HandlesAnyIds (tenant : ObjectSet) : Prop where
  parses : ∀ id ∈ tenant.keys,
    (∃ leg, parseFlightId id = .ok leg) ∨ parseFlightId id = .error .valueError
  warns : ∀ order, order.Perm (flightListing tenant.rows).allPks →
    warnedIds order = order.filter fun id => !isFlightId id
  reconciles : ∀ isliveEnabled now airborne order,
    order.Perm (flightListing tenant.rows).allPks →
    ∃ latest plan, flightReconcilePlan isliveEnabled now airborne (flightListing tenant.rows) order =
        .ok plan ∧
      PlansFlights isliveEnabled (now - flightReconcileTtl) airborne (flightListing tenant.rows)
        latest plan
  enriches : ∀ order, order.Perm (flightListing tenant.rows).allPks →
    ∃ latest, latestLegs order [] = .ok latest ∧ LegsOf order latest ∧
      ∀ upsert details stream, enrichedSyncFlights upsert order details stream =
        (enrichedSyncFlights upsert (order.filter isFlightId) details stream).ofListed order.length

/-! ### Ids that fit -/

variable {order : List String} {listing : FlightListing} {scan : TenantScan} {latest : List Leg}
  {id : String}

lemma isFlightId_iff : isFlightId id = true ↔ ∃ leg, parseFlightId id = .ok leg := by
  rw [isFlightId]
  cases parseFlightId id <;> simp [Except.isOk, Except.toBool]

lemma isFlightId_eq_false_iff (h : parseFlightId id ≠ .error .overflowError) :
    isFlightId id = false ↔ parseFlightId id = .error .valueError := by
  rw [isFlightId]
  cases hid : parseFlightId id with
  | ok leg => simp [Except.isOk, Except.toBool]
  | error e =>
    cases e with
    | valueError => simp [Except.isOk, Except.toBool]
    | overflowError => exact absurd hid h

lemma takenOffBefore_iff {cutoff : Instant} : takenOffBefore cutoff id = true ↔
    ∃ icao24 ts, parseFlightId id = .ok (icao24, ts) ∧ ts < cutoff := by
  rw [takenOffBefore]
  cases hid : parseFlightId id with
  | ok leg =>
    obtain ⟨icao24, ts⟩ := leg
    simp
  | error e => simp

/-- When every time fits, the loop goes through and warns of the ids that are no flight ids. -/
lemma warnedIds_eq (h : ∀ id ∈ order, parseFlightId id ≠ .error .overflowError) :
    warnedIds order = order.filter fun id => !isFlightId id := by
  induction order with
  | nil => rfl
  | cons pk pks ih =>
    obtain ⟨hpk, hpks⟩ := List.forall_mem_cons.mp h
    rw [warnedIds]
    split
    next leg hleg =>
      have hflight : isFlightId pk = true := isFlightId_iff.mpr ⟨leg, hleg⟩
      rw [ih hpks, List.filter_cons_of_neg (by simp [hflight])]
    next hvalue =>
      have hnot : isFlightId pk = false := (isFlightId_eq_false_iff hpk).mpr hvalue
      rw [ih hpks, List.filter_cons_of_pos (by simp [hnot])]
    next hover => exact absurd hover hpk

/-- The legs depend on which ids there are, not on their order. -/
lemma LegsOf.congr {pks pks' : List String} (h : LegsOf pks latest)
    (hmem : ∀ id, id ∈ pks ↔ id ∈ pks') : LegsOf pks' latest where
  mem leg hleg := ⟨(hmem _).mp (h.mem leg hleg).1, (h.mem leg hleg).2⟩
  covers pk hpk := h.covers pk ((hmem pk).mpr hpk)
  distinct := h.distinct

/-- What a scan leaves to evict: the flights outside the working set. -/
lemma ScanOf.evictable_eq {cutoff : Instant} {airborne : List String}
    (h : ScanOf cutoff airborne order scan) (horder : order.Perm listing.allPks)
    (hfits : ∀ id ∈ order, parseFlightId id ≠ .error .overflowError) :
    scan.evictable listing = outsideWorkingSet cutoff listing scan.latestAirborne := by
  refine List.filter_congr fun id hid => ?_
  have hid : id ∈ order := horder.mem_iff.mpr hid
  rw [Bool.eq_iff_iff, decide_eq_true_eq, Bool.and_eq_true, decide_eq_true_eq, takenOffBefore_iff,
    List.mem_append, not_or, h.keep]
  refine and_congr_left fun _ => ?_
  cases hparse : parseFlightId id with
  | ok leg =>
    obtain ⟨icao24, ts⟩ := leg
    simp [hid]
  | error e =>
    cases e with
    | valueError => simp [hid]
    | overflowError => exact absurd hparse (hfits id hid)

lemma isFlightId_of_mem_outside {cutoff : Instant}
    (h : id ∈ outsideWorkingSet cutoff listing latest) : isFlightId id = true := by
  obtain ⟨-, hid⟩ := List.mem_filter.mp h
  obtain ⟨icao24, ts, hparse, -⟩ := takenOffBefore_iff.mp (Bool.and_eq_true_iff.mp hid).1
  exact isFlightId_iff.mpr ⟨_, hparse⟩

lemma mem_filterMap_falseStamp_iff {ids : List String} {s : FlightLiveStamp} :
    s ∈ ids.filterMap falseStamp ↔ s.flightId ∈ ids ∧
      parseFlightId s.flightId = .ok (s.icao24, s.takeoffTs) ∧ s.isLive = false := by
  rw [List.mem_filterMap]
  constructor
  · rintro ⟨pk, hpk, hstamp⟩
    rw [falseStamp] at hstamp
    split at hstamp
    next icao24 ts hparse =>
      obtain rfl := Option.some.inj hstamp
      exact ⟨hpk, hparse, rfl⟩
    next => simp at hstamp
  · rintro ⟨hid, hparse, hlive⟩
    refine ⟨s.flightId, hid, ?_⟩
    rw [falseStamp, hparse, ← hlive]

/-- A scan that goes through gives a plan for the flights. -/
lemma ScanOf.plansFlights {isliveEnabled : Bool} {now : Instant} {airborne : List String}
    (h : ScanOf (now - flightReconcileTtl) airborne order scan)
    (hscan : scanTenant (now - flightReconcileTtl) airborne order ⟨[], []⟩ = .ok scan)
    (horder : order.Perm listing.allPks)
    (hfits : ∀ id ∈ order, parseFlightId id ≠ .error .overflowError) :
    ∃ plan, flightReconcilePlan isliveEnabled now airborne listing order = .ok plan ∧
      PlansFlights isliveEnabled (now - flightReconcileTtl) airborne listing scan.latestAirborne
        plan := by
  have hevictable := h.evictable_eq horder hfits
  refine ⟨_, flightReconcilePlan_eq hscan, ?_⟩
  constructor
  case legs => exact h.legs.congr fun id => by simp [horder.mem_iff]
  case orphans => simp only [hevictable]
  case completedSkipped => simp only [hevictable]
  case deletes =>
    refine ⟨(scan.stubOrphans listing).drop flightReconcileDeleteCap, ?_, ?_, ?_⟩
    · rw [← hevictable]
      exact List.take_append_drop ..
    · simp only [TenantScan.toDelete, List.length_drop, List.length_take]
      omega
    · simp only [TenantScan.toDelete, List.drop_eq_nil_iff, List.length_take]
      omega
  case keeps =>
    intro id hid
    have hmem := mem_sortedIds.mp (List.mem_of_mem_take hid)
    rw [hevictable] at hmem
    exact isFlightId_of_mem_outside (List.mem_filter.mp hmem).1
  case trueStamps =>
    intro s
    cases isliveEnabled with
    | false => simp
    | true => simp [TenantScan.targetLive, and_assoc]
  case falseStamps =>
    intro s
    cases isliveEnabled with
    | false => simp
    | true =>
      have htarget : s.flightId ∉ (scan.targetLive listing).map (·.flightId) ↔
          (s.flightId ∈ scan.latestAirborne.map (·.flightId) → s.flightId ∈ listing.completed) := by
        simp only [TenantScan.targetLive, List.mem_map, List.mem_filter, decide_eq_true_eq]
        constructor
        · rintro hnot ⟨leg, hleg, heq⟩
          by_contra hcompleted
          exact hnot ⟨leg, ⟨hleg, by rwa [heq]⟩, heq⟩
        · rintro himp ⟨leg, ⟨hleg, hcompleted⟩, heq⟩
          exact hcompleted (heq ▸ himp ⟨leg, hleg, heq⟩)
      simp only [↓reduceIte, true_and, mem_filterMap_falseStamp_iff, mem_sortedIds,
        TenantScan.stale, List.mem_filter, decide_eq_true_eq, htarget]
      tauto

lemma latestLegs_filter (h : ∀ id ∈ order, parseFlightId id ≠ .error .overflowError) :
    latestLegs (order.filter isFlightId) latest = latestLegs order latest := by
  induction order generalizing latest with
  | nil => rfl
  | cons pk pks ih =>
    obtain ⟨hpk, hpks⟩ := List.forall_mem_cons.mp h
    cases hparse : parseFlightId pk with
    | ok leg =>
      rw [List.filter_cons_of_pos (isFlightId_iff.mpr ⟨leg, hparse⟩), latestLegs, latestLegs,
        hparse]
      exact ih hpks
    | error e =>
      cases e with
      | valueError =>
        have hnot : isFlightId pk = false := (isFlightId_eq_false_iff hpk).mpr hparse
        rw [List.filter_cons_of_neg (by simp [hnot]), latestLegs, hparse]
        exact ih hpks
      | overflowError => exact absurd hparse hpk

/-- A run of the enrichment is the run of the flights alone. -/
lemma enrichedSyncFlights_filter (h : ∀ id ∈ order, parseFlightId id ≠ .error .overflowError)
    (upsert : ℕ → Except HttpError Unit) (details : String → Except BodyException FlightDetail)
    (stream : TrailStream) :
    enrichedSyncFlights upsert order details stream =
      (enrichedSyncFlights upsert (order.filter isFlightId) details stream).ofListed
        order.length := by
  obtain ⟨candidates, hcandidates⟩ : ∃ candidates, latestLegs order [] = .ok candidates :=
    exists_latestLegs_iff.mpr h
  have hfiltered := (latestLegs_filter h).trans hcandidates
  cases houtcomes : gatherDetails details candidates with
  | error e =>
    simp [enrichedSyncFlights, hcandidates, hfiltered, houtcomes, EnrichmentRun.ofListed,
      Except.map]
  | ok outcomes =>
    cases hactive : enrichActive upsert (activeOutcomes outcomes) stream with
    | mk s ended =>
      cases ended <;>
        simp [enrichedSyncFlights, hcandidates, hfiltered, houtcomes, hactive,
          EnrichmentRun.ofListed, Except.map]

/-- Both jobs handle any ids of a tenant exactly when the number of none of them is too large for a
`time_t`: such an id is caught by neither. -/
theorem handlesAnyIds_iff (tenant : ObjectSet) :
    HandlesAnyIds tenant ↔ ∀ id ∈ tenant.keys, FitsTimeT id := by
  constructor
  · intro h id hid
    rw [← parse_ne_overflow_iff]
    rcases h.parses id hid with ⟨leg, hleg⟩ | hvalue
    · simp [hleg]
    · simp [hvalue]
  · intro hfits
    have hparse : ∀ id ∈ tenant.keys, parseFlightId id ≠ .error .overflowError :=
      fun id hid => parse_ne_overflow_iff.mpr (hfits id hid)
    have horder : ∀ {order : List String}, order.Perm (flightListing tenant.rows).allPks →
        ∀ id ∈ order, parseFlightId id ≠ .error .overflowError :=
      fun hperm id hid => hparse id (mem_allPks.mp (hperm.mem_iff.mp hid)).2
    constructor
    case parses =>
      intro id hid
      cases hflight : isFlightId id with
      | true => exact .inl (isFlightId_iff.mp hflight)
      | false => exact .inr ((isFlightId_eq_false_iff (hparse id hid)).mp hflight)
    case warns => exact fun order hperm => warnedIds_eq (horder hperm)
    case reconciles =>
      intro isliveEnabled now airborne order hperm
      obtain ⟨scan, hscan⟩ :=
        exists_scanTenant (now - flightReconcileTtl) airborne ⟨[], []⟩ (horder hperm)
      obtain ⟨plan, hplan, hflights⟩ :=
        (scanTenant_ok scanOf_nil hscan).plansFlights hscan hperm (horder hperm)
      exact ⟨scan.latestAirborne, plan, hplan, hflights⟩
    case enriches =>
      intro order hperm
      obtain ⟨latest, hlatest⟩ := exists_latestLegs_iff.mpr (horder hperm)
      exact ⟨latest, hlatest, latestLegs_ok legsOf_nil hlatest,
        enrichedSyncFlights_filter (horder hperm)⟩

/-- A tenant with one object, whose id ends in twenty digits. -/
def twentyDigitTenant : ObjectSet where
  rows := [⟨"a1b2c3-99999999999999999999", []⟩]
  nodup := by simp

/-- The id is neither parsed nor rejected with a `ValueError`. -/
theorem twentyDigitId_not_handled : ¬∀ tenant : ObjectSet, HandlesAnyIds tenant := by
  intro h
  have hover : parseFlightId "a1b2c3-99999999999999999999" = .error .overflowError := by
    decide +kernel
  rcases (h twentyDigitTenant).parses _ List.mem_cons_self with ⟨leg, hleg⟩ | hvalue
  · cases hover.symm.trans hleg
  · cases hover.symm.trans hvalue

end FleetMonitor
