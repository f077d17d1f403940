import FleetMonitor.Foundry.FlightIds
import FleetMonitor.Foundry.FlightReconcile
import FleetMonitor.Library.Runs

/-!
# The live set

The flight reconcile run on its own. The keep-set, the delete cap and the two liveness deltas are
all computed from one scan of the tenant, so what a run deletes and what it stamps is said first in
terms of the ids alone: which of them are latest legs of an aircraft in the air (`LiveLeg`), and
which are stubs outside the live working set (`StubOrphan`).
-/

namespace FleetMonitor

open Library

/-! ### Ids of a tenant -/

/-- An id a tenant can have: minted for the time of a takeoff, or no flight id at all. -/
def TenantId (id : String) : Prop :=
  (∃ icao24 t, IsDatetime t ∧ id = synthesizeFlightId icao24 t) ∨
    parseFlightId id = .error .valueError

/-- The id is that of the latest leg of an aircraft in the air. -/
def LiveLeg (airborne pks : List String) (id : String) : Prop :=
  LatestAmong pks id ∧ ∃ icao24 ∈ airborne, ∃ ts, parseFlightId id = .ok (icao24, ts)

/-- A flight outside the live working set: taken off before the cutoff, and no live leg. -/
def Orphan (cutoff : Instant) (airborne pks : List String) (id : String) : Prop :=
  (∃ icao24 ts, parseFlightId id = .ok (icao24, ts) ∧ ts < cutoff) ∧ ¬LiveLeg airborne pks id

variable {cutoff : Instant} {airborne pks : List String} {id pk : String}

lemma TenantId.ne_overflow (h : TenantId id) : parseFlightId id ≠ .error .overflowError := by
  rcases h with ⟨icao24, t, ht, rfl⟩ | h
  · exact parseFlightId_minted icao24 ht
  · simp [h]

lemma TenantId.inj {id' : String} {leg : String × Instant} (h : TenantId id) (h' : TenantId id')
    (hid : parseFlightId id = .ok leg) (hid' : parseFlightId id' = .ok leg) : id = id' := by
  rcases h with ⟨i, a, ha, rfl⟩ | h
  · rcases h' with ⟨j, b, hb, rfl⟩ | h'
    · exact parseFlightId_minted_inj ha hb hid hid'
    · simp [h'] at hid'
  · simp [h] at hid

lemma latestAmong_iff {icao24 : String} {ts : Instant} (h : parseFlightId id = .ok (icao24, ts)) :
    LatestAmong pks id ↔
      id ∈ pks ∧ ∀ pk ∈ pks, ∀ ts', parseFlightId pk = .ok (icao24, ts') → ts' ≤ ts := by
  rw [LatestAmong, h]
  refine and_congr_right fun _ => forall₂_congr fun pk _ => ?_
  unfold NotLater
  cases hpk : parseFlightId pk with
  | error e => simp
  | ok leg =>
    constructor
    · rintro hle ts' heq
      obtain rfl := Except.ok.inj heq
      exact hle rfl
    · rintro hle hicao
      exact hle leg.2 (by rw [← hicao])

lemma LatestAmong.mem (h : LatestAmong pks id) : id ∈ pks := h.1

/-- Ids that are no flight ids take no part. -/
lemma LiveLeg.congr {pks' : List String}
    (h : ∀ pk leg, parseFlightId pk = .ok leg → (pk ∈ pks ↔ pk ∈ pks')) :
    LiveLeg airborne pks id ↔ LiveLeg airborne pks' id := by
  refine and_congr_left ?_
  rintro ⟨icao24, -, ts, hid⟩
  rw [latestAmong_iff hid, latestAmong_iff hid, h id _ hid]
  refine and_congr_right fun _ => forall_congr' fun pk => ⟨fun hle hpk ts' hpk' => ?_,
    fun hle hpk ts' hpk' => ?_⟩
  · exact hle ((h pk _ hpk').mpr hpk) ts' hpk'
  · exact hle ((h pk _ hpk').mp hpk) ts' hpk'

/-! ### The scan -/

/-- The id is of an aircraft in the air. -/
def OfAirborne (airborne : List String) (pk : String) : Bool :=
  match parseFlightId pk with
  | .ok (icao24, _) => icao24 ∈ airborne
  | .error _        => false

/-- What the loop over the tenant has found among the ids it has passed. -/
structure ScanOf (cutoff : Instant) (airborne pks : List String) (scan : TenantScan) : Prop where
  keep : ∀ id, id ∈ scan.keep ↔ id ∈ pks ∧ (parseFlightId id = .error .valueError ∨
    ∃ icao24 ts, parseFlightId id = .ok (icao24, ts) ∧ cutoff ≤ ts)
  legs : LegsOf (pks.filter (OfAirborne airborne)) scan.latestAirborne

variable {scan result : TenantScan}

lemma scanOf_nil : ScanOf cutoff airborne [] ⟨[], []⟩ := ⟨by simp, legsOf_nil⟩

/-- An id that is kept, or not, by what it says of itself. -/
lemma ScanOf.keep_concat (h : ScanOf cutoff airborne pks scan) {keep : List String}
    (hkeep : ∀ id, id ∈ keep ↔ id ∈ scan.keep ∨ id = pk ∧
      (parseFlightId id = .error .valueError ∨
        ∃ icao24 ts, parseFlightId id = .ok (icao24, ts) ∧ cutoff ≤ ts)) (id : String) :
    id ∈ keep ↔ id ∈ pks ++ [pk] ∧ (parseFlightId id = .error .valueError ∨
      ∃ icao24 ts, parseFlightId id = .ok (icao24, ts) ∧ cutoff ≤ ts) := by
  rw [hkeep, h.keep, List.mem_append, List.mem_singleton, or_and_right]

lemma scanTenant_ok {done : List String} (h : ScanOf cutoff airborne done scan)
    (hok : scanTenant cutoff airborne pks scan = .ok result) :
    ScanOf cutoff airborne (done ++ pks) result := by
  induction pks generalizing done scan with
  | nil =>
    obtain rfl := Except.ok.inj hok
    simpa using h
  | cons pk pks ih =>
    rw [← List.singleton_append, ← List.append_assoc]
    rw [scanTenant] at hok
    split at hok
    next hpk =>
      refine ih ⟨h.keep_concat fun id => ?_, ?_⟩ hok
      · rw [List.mem_append, List.mem_singleton]
        refine or_congr_right ⟨?_, And.left⟩
        rintro rfl
        exact ⟨rfl, .inl hpk⟩
      · have hnot : OfAirborne airborne pk = false := by rw [OfAirborne, hpk]
        simpa [List.filter_append, hnot] using h.legs
    next => simp at hok
    next icao24 ts hpk =>
      refine ih ⟨h.keep_concat fun id => ?_, ?_⟩ hok
      · by_cases hcut : cutoff ≤ ts
        · rw [if_pos hcut, List.mem_append, List.mem_singleton]
          refine or_congr_right ⟨?_, And.left⟩
          rintro rfl
          exact ⟨rfl, .inr ⟨icao24, ts, hpk, hcut⟩⟩
        · rw [if_neg hcut]
          refine ⟨.inl, fun hid => hid.resolve_right ?_⟩
          rintro ⟨rfl, hvalue | ⟨i, t, hid, ht⟩⟩
          · simp [hpk] at hvalue
          · rw [hpk] at hid
            obtain ⟨rfl, rfl⟩ := Prod.mk.inj (Except.ok.inj hid)
            exact hcut ht
      · by_cases hair : icao24 ∈ airborne
        · have hof : OfAirborne airborne pk = true := by simpa [OfAirborne, hpk] using hair
          simpa [List.filter_append, hof, hair] using h.legs.keep hpk
        · have hnot : OfAirborne airborne pk = false := by simpa [OfAirborne, hpk] using hair
          simpa [List.filter_append, hnot, hair] using h.legs

/-- The scan goes through when the times of all ids fit. -/
lemma exists_scanTenant (cutoff : Instant) (airborne : List String) (scan : TenantScan)
    (h : ∀ pk ∈ pks, parseFlightId pk ≠ .error .overflowError) :
    ∃ result, scanTenant cutoff airborne pks scan = .ok result := by
  induction pks generalizing scan with
  | nil => exact ⟨scan, rfl⟩
  | cons pk pks ih =>
    obtain ⟨hpk, hpks⟩ := List.forall_mem_cons.mp h
    rw [scanTenant]
    split
    next => exact ih _ hpks
    next hover => exact absurd hover hpk
    next => exact ih _ hpks

/-- The legs the scan keeps are the live legs. -/
lemma ScanOf.mem_latestAirborne (h : ScanOf cutoff airborne pks scan)
    (hpks : ∀ pk ∈ pks, TenantId pk) :
    id ∈ scan.latestAirborne.map Leg.flightId ↔ LiveLeg airborne pks id := by
  have hof : ∀ {pk icao24 ts}, parseFlightId pk = .ok (icao24, ts) →
      (OfAirborne airborne pk = true ↔ icao24 ∈ airborne) := by
    intro pk icao24 ts hpk
    simp [OfAirborne, hpk]
  constructor
  · intro hid
    obtain ⟨leg, hleg, rfl⟩ := List.mem_map.mp hid
    obtain ⟨hmem, hparse⟩ := h.legs.mem leg hleg
    obtain ⟨hpk, hair⟩ := List.mem_filter.mp hmem
    have hair := (hof hparse).mp hair
    refine ⟨(latestAmong_iff hparse).mpr ⟨hpk, fun pk' hpk' ts' hparse' => ?_⟩,
      leg.icao24, hair, leg.takeoffTs, hparse⟩
    obtain ⟨-, hlatest⟩ := (latestAmong_iff hparse).mp (h.legs.latestAmong hleg)
    exact hlatest pk' (List.mem_filter.mpr ⟨hpk', (hof hparse').mpr hair⟩) ts' hparse'
  · rintro ⟨hlatest, icao24, hair, ts, hparse⟩
    obtain ⟨hpk, hlatest⟩ := (latestAmong_iff hparse).mp hlatest
    have hmem := List.mem_filter.mpr ⟨hpk, (hof hparse).mpr hair⟩
    obtain ⟨leg, hleg, rfl, hle⟩ := h.legs.covers id hmem icao24 ts hparse
    obtain ⟨hlegmem, hlegparse⟩ := h.legs.mem leg hleg
    have hlegpk := (List.mem_filter.mp hlegmem).1
    -- No other id of the tenant has the same time, so the leg kept is this one.
    have hts : leg.takeoffTs = ts := le_antisymm (hlatest _ hlegpk _ hlegparse) hle
    rw [hts] at hlegparse
    exact List.mem_map.mpr ⟨leg, hleg, (hpks _ hlegpk).inj (hpks _ hpk) hlegparse hparse⟩

/-- Some leg of an airborne aircraft is the latest. -/
lemma ScanOf.exists_liveLeg (h : ScanOf cutoff airborne pks scan) (hpks : ∀ pk ∈ pks, TenantId pk)
    {icao24 : String} {ts : Instant} (hair : icao24 ∈ airborne) (hpk : pk ∈ pks)
    (hparse : parseFlightId pk = .ok (icao24, ts)) :
    ∃ id ts', LiveLeg airborne pks id ∧ parseFlightId id = .ok (icao24, ts') ∧ ts ≤ ts' := by
  have hof : OfAirborne airborne pk = true := by simpa [OfAirborne, hparse] using hair
  obtain ⟨leg, hleg, rfl, hle⟩ :=
    h.legs.covers pk (List.mem_filter.mpr ⟨hpk, hof⟩) icao24 ts hparse
  exact ⟨leg.flightId, leg.takeoffTs,
    (h.mem_latestAirborne hpks).mp (List.mem_map_of_mem hleg), (h.legs.mem leg hleg).2, hle⟩

/-! ### The plan -/

/-- A stub the run may delete: outside the live working set, and not landed. -/
def StubOrphan (cutoff : Instant) (airborne : List String) (tenant : ObjectSet) (id : String) :
    Prop :=
  id ∈ tenant.keys ∧ Orphan cutoff airborne tenant.keys id ∧ tenant.prop id "landedAt" = none

/-- A leg that should be live: the latest of an aircraft in the air, and not landed. -/
def TargetLive (airborne : List String) (tenant : ObjectSet) (id : String) : Prop :=
  LiveLeg airborne tenant.keys id ∧ tenant.prop id "landedAt" = none

variable {tenant : ObjectSet} {isliveEnabled : Bool} {now : Instant} {order : List String}
  {plan : FlightReconcilePlan}

lemma prop_of_mem {o : OntologyObject} (ho : o ∈ tenant.rows) (key : String) :
    tenant.prop o.pk key = o.get key := by
  rw [ObjectSet.prop, Table.lookup_of_mem ho, Option.bind_some]

lemma mem_keys_of_prop {key : String} (h : tenant.prop id key ≠ none) : id ∈ tenant.keys := by
  rw [Table.mem_keys_iff]
  intro hnone
  rw [ObjectSet.prop, hnone] at h
  exact h rfl

lemma mem_completed_rows : id ∈ (flightListing tenant.rows).completed ↔
    id ≠ "" ∧ tenant.prop id "landedAt" ≠ none := by
  refine mem_completed.trans (and_congr_right fun _ => ⟨?_, fun h => ?_⟩)
  · rintro ⟨o, ho, rfl, hlanded⟩
    rwa [prop_of_mem ho]
  · obtain ⟨o, ho, rfl⟩ := List.mem_map.mp (mem_keys_of_prop h)
    exact ⟨o, ho, rfl, by rwa [← prop_of_mem ho]⟩

lemma mem_live_rows : id ∈ (flightListing tenant.rows).live ↔
    id ≠ "" ∧ tenant.prop id "isLive" = some (.flag true) := by
  refine mem_live.trans (and_congr_right fun _ => ⟨?_, fun h => ?_⟩)
  · rintro ⟨o, ho, rfl, hlive⟩
    rwa [prop_of_mem ho]
  · have hkey : id ∈ tenant.keys := mem_keys_of_prop (by rw [h]; simp)
    obtain ⟨o, ho, rfl⟩ := List.mem_map.mp hkey
    exact ⟨o, ho, rfl, by rwa [← prop_of_mem ho]⟩

lemma ne_empty_of_parse {leg : String × Instant} (h : parseFlightId id = .ok leg) : id ≠ "" := by
  rintro rfl
  have hempty : parseFlightId "" = .error .valueError := by decide
  simp [hempty] at h

lemma liveLeg_allPks :
    LiveLeg airborne (flightListing tenant.rows).allPks id ↔ LiveLeg airborne tenant.keys id := by
  refine LiveLeg.congr fun pk leg hpk => ?_
  rw [mem_allPks]
  exact and_iff_right (ne_empty_of_parse hpk)

lemma LiveLeg.ne_empty (h : LiveLeg airborne pks id) : id ≠ "" := by
  obtain ⟨-, icao24, -, ts, hid⟩ := h
  exact ne_empty_of_parse hid

/-! What a run computes of its scan, piece by piece. -/

def TenantScan.evictable (scan : TenantScan) (listing : FlightListing) : List String :=
  listing.allPks.filter (· ∉ scan.keep ++ scan.latestAirborne.map (·.flightId))

def TenantScan.stubOrphans (scan : TenantScan) (listing : FlightListing) : List String :=
  sortedIds ((scan.evictable listing).filter (· ∉ listing.completed))

def TenantScan.toDelete (scan : TenantScan) (listing : FlightListing) : List String :=
  (scan.stubOrphans listing).take flightReconcileDeleteCap

def TenantScan.targetLive (scan : TenantScan) (listing : FlightListing) : List Leg :=
  scan.latestAirborne.filter (·.flightId ∉ listing.completed)

def TenantScan.stale (scan : TenantScan) (listing : FlightListing) : List String :=
  listing.live.filter fun pk =>
    pk ∉ (scan.targetLive listing).map (·.flightId) ∧ pk ∉ scan.toDelete listing

lemma flightReconcilePlan_eq {listing : FlightListing}
    (h : scanTenant (now - flightReconcileTtl) airborne order ⟨[], []⟩ = .ok scan) :
    flightReconcilePlan isliveEnabled now airborne listing order = .ok
      { liveAirborne := airborne.length
        tenant := listing.allPks.length
        keep := (scan.keep ++ scan.latestAirborne.map (·.flightId)).dedup.length
        orphans := (scan.evictable listing).length
        completedSkipped := ((scan.evictable listing).filter (· ∈ listing.completed)).length
        remaining := (scan.stubOrphans listing).length - (scan.toDelete listing).length
        toDelete := scan.toDelete listing
        trueStamps :=
          if isliveEnabled then
            ((scan.targetLive listing).filter (·.flightId ∉ listing.live)).map (liveStamp true)
          else []
        falseStamps :=
          if isliveEnabled then (sortedIds (scan.stale listing)).filterMap falseStamp else [] } := by
  rw [flightReconcilePlan, h]
  rfl

/-- The evictable flights are the completed ones and the stubs. -/
lemma length_evictable (scan : TenantScan) (listing : FlightListing) :
    (scan.evictable listing).length =
      ((scan.evictable listing).filter (· ∈ listing.completed)).length +
        (scan.toDelete listing).length +
        ((scan.stubOrphans listing).length - (scan.toDelete listing).length) := by
  have hsplit := List.length_eq_length_filter_add (l := scan.evictable listing)
    fun id => decide (id ∈ listing.completed)
  have hstubs : (scan.stubOrphans listing).length =
      ((scan.evictable listing).filter (· ∉ listing.completed)).length :=
    List.length_insertionSort ..
  have hdelete : (scan.toDelete listing).length ≤ (scan.stubOrphans listing).length :=
    List.length_take_le' ..
  have hnot : ((scan.evictable listing).filter fun id => !decide (id ∈ listing.completed)) =
      (scan.evictable listing).filter (· ∉ listing.completed) :=
    List.filter_congr fun id _ => by simp
  rw [hnot] at hsplit
  omega

lemma nodup_toDelete (scan : TenantScan) (listing : FlightListing) (h : listing.allPks.Nodup) :
    (scan.toDelete listing).Nodup := by
  have horphans : (scan.stubOrphans listing).Nodup :=
    (List.perm_insertionSort _ _).nodup_iff.mpr ((h.filter _).filter _)
  exact horphans.sublist (List.take_sublist ..)

/-- A scan of the whole tenant. -/
structure ScanOfTenant (cutoff : Instant) (airborne : List String) (tenant : ObjectSet)
    (scan : TenantScan) : Prop where
  keep : ∀ id ∈ tenant.keys, id ∈ scan.keep ↔ id ≠ "" ∧ (parseFlightId id = .error .valueError ∨
    ∃ icao24 ts, parseFlightId id = .ok (icao24, ts) ∧ cutoff ≤ ts)
  latest : ∀ id, id ∈ scan.latestAirborne.map Leg.flightId ↔ LiveLeg airborne tenant.keys id

lemma ScanOf.ofTenant (h : ScanOf cutoff airborne order scan)
    (horder : order.Perm (flightListing tenant.rows).allPks)
    (htenant : ∀ id ∈ tenant.keys, TenantId id) : ScanOfTenant cutoff airborne tenant scan where
  keep id hid := by
    rw [h.keep, horder.mem_iff, mem_allPks]
    exact and_congr_left fun _ => and_iff_left hid
  latest id := by
    have hids : ∀ id ∈ order, TenantId id :=
      fun id hid => htenant id (mem_allPks.mp (horder.mem_iff.mp hid)).2
    rw [h.mem_latestAirborne hids, LiveLeg.congr fun pk _ _ => horder.mem_iff]
    exact liveLeg_allPks

/-- What is evicted is outside the live working set. -/
lemma ScanOfTenant.orphan_of_evictable (h : ScanOfTenant cutoff airborne tenant scan)
    (htenant : ∀ id ∈ tenant.keys, TenantId id)
    (hid : id ∈ scan.evictable (flightListing tenant.rows)) :
    id ∈ tenant.keys ∧ Orphan cutoff airborne tenant.keys id := by
  obtain ⟨hpk, hnot⟩ := List.mem_filter.mp hid
  obtain ⟨hne, hkey : id ∈ tenant.keys⟩ := mem_allPks.mp hpk
  rw [decide_eq_true_eq, List.mem_append, not_or, h.keep id hkey, h.latest] at hnot
  refine ⟨hkey, ?_, hnot.2⟩
  cases hparse : parseFlightId id with
  | ok leg =>
    refine ⟨leg.1, leg.2, rfl, not_le.mp fun hcut => ?_⟩
    exact hnot.1 ⟨hne, .inr ⟨leg.1, leg.2, hparse, hcut⟩⟩
  | error e =>
    cases e with
    | valueError => exact absurd ⟨hne, .inl hparse⟩ hnot.1
    | overflowError => exact absurd hparse (htenant id hkey).ne_overflow

lemma ScanOfTenant.stubOrphan_of_toDelete (h : ScanOfTenant cutoff airborne tenant scan)
    (htenant : ∀ id ∈ tenant.keys, TenantId id)
    (hid : id ∈ scan.toDelete (flightListing tenant.rows)) :
    StubOrphan cutoff airborne tenant id := by
  obtain ⟨hevictable, hcompleted⟩ :=
    List.mem_filter.mp (mem_sortedIds.mp (List.mem_of_mem_take hid))
  obtain ⟨hkey, horphan⟩ := h.orphan_of_evictable htenant hevictable
  obtain ⟨icao24, ts, hparse, -⟩ := horphan.1
  refine ⟨hkey, horphan, ?_⟩
  by_contra hlanded
  exact of_decide_eq_true hcompleted
    (mem_completed_rows.mpr ⟨ne_empty_of_parse hparse, hlanded⟩)

/-- The ids of the targets are those of the latest legs that are not landed. -/
lemma ScanOfTenant.mem_targetLive (h : ScanOfTenant cutoff airborne tenant scan) :
    id ∈ (scan.targetLive (flightListing tenant.rows)).map Leg.flightId ↔
      TargetLive airborne tenant id := by
  have hfilter : (scan.targetLive (flightListing tenant.rows)).map Leg.flightId =
      (scan.latestAirborne.map Leg.flightId).filter
        (· ∉ (flightListing tenant.rows).completed) := by
    rw [List.filter_map]
    rfl
  rw [hfilter, List.mem_filter, h.latest, TargetLive, decide_eq_true_eq, mem_completed_rows]
  refine and_congr_right fun hleg => ?_
  have hne := hleg.ne_empty
  tauto

lemma ScanOfTenant.mem_newlyLive (h : ScanOfTenant cutoff airborne tenant scan) :
    id ∈ ((scan.targetLive (flightListing tenant.rows)).filter
        (·.flightId ∉ (flightListing tenant.rows).live)).map Leg.flightId ↔
      TargetLive airborne tenant id ∧ tenant.prop id "isLive" ≠ some (.flag true) := by
  have hfilter : ((scan.targetLive (flightListing tenant.rows)).filter
      (·.flightId ∉ (flightListing tenant.rows).live)).map Leg.flightId =
      ((scan.targetLive (flightListing tenant.rows)).map Leg.flightId).filter
        (· ∉ (flightListing tenant.rows).live) := by
    rw [List.filter_map]
    rfl
  rw [hfilter, List.mem_filter, h.mem_targetLive, decide_eq_true_eq, mem_live_rows]
  refine and_congr_right fun htarget => ?_
  have hne := htarget.1.ne_empty
  tauto

lemma mem_filterMap_falseStamp {ids : List String} :
    id ∈ (ids.filterMap falseStamp).map FlightLiveStamp.flightId ↔
      id ∈ ids ∧ ∃ leg, parseFlightId id = .ok leg := by
  rw [List.mem_map]
  constructor
  · rintro ⟨s, hs, rfl⟩
    obtain ⟨pk, hpk, hstamp⟩ := List.mem_filterMap.mp hs
    unfold falseStamp at hstamp
    split at hstamp
    next icao24 ts hparse =>
      obtain rfl := Option.some.inj hstamp
      exact ⟨hpk, _, hparse⟩
    next => simp at hstamp
  · rintro ⟨hid, ⟨icao24, ts⟩, hparse⟩
    exact ⟨⟨id, icao24, ts, false⟩,
      List.mem_filterMap.mpr ⟨id, hid, by rw [falseStamp, hparse]⟩, rfl⟩

lemma isLive_of_falseStamp {ids : List String} {s : FlightLiveStamp}
    (h : s ∈ ids.filterMap falseStamp) : s.isLive = false := by
  obtain ⟨pk, -, hstamp⟩ := List.mem_filterMap.mp h
  unfold falseStamp at hstamp
  split at hstamp
  next =>
    obtain rfl := Option.some.inj hstamp
    rfl
  next => simp at hstamp

lemma ScanOfTenant.mem_falseStamps (h : ScanOfTenant cutoff airborne tenant scan) :
    id ∈ ((sortedIds (scan.stale (flightListing tenant.rows))).filterMap falseStamp).map
        FlightLiveStamp.flightId ↔
      (∃ leg, parseFlightId id = .ok leg) ∧ tenant.prop id "isLive" = some (.flag true) ∧
        ¬TargetLive airborne tenant id ∧ id ∉ scan.toDelete (flightListing tenant.rows) := by
  rw [mem_filterMap_falseStamp, mem_sortedIds, and_comm]
  refine and_congr_right ?_
  rintro ⟨leg, hparse⟩
  rw [TenantScan.stale, List.mem_filter, decide_eq_true_eq, h.mem_targetLive, mem_live_rows]
  have hne := ne_empty_of_parse hparse
  tauto

/-- What a plan deletes and stamps, and how it counts. -/
structure PlanOf (isliveEnabled : Bool) (cutoff : Instant) (airborne : List String)
    (tenant : ObjectSet) (plan : FlightReconcilePlan) : Prop where
  deletes : ∀ id ∈ plan.toDelete, StubOrphan cutoff airborne tenant id
  nodup : plan.toDelete.Nodup
  counts : plan.orphans = plan.completedSkipped + plan.toDelete.length + plan.remaining
  capped : plan.toDelete.length ≤ flightReconcileDeleteCap
  trueStamps : ∀ id, id ∈ plan.trueStamps.map FlightLiveStamp.flightId ↔
    isliveEnabled = true ∧ TargetLive airborne tenant id ∧
      tenant.prop id "isLive" ≠ some (.flag true)
  trueLive : ∀ s ∈ plan.trueStamps, s.isLive = true
  falseStamps : ∀ id, id ∈ plan.falseStamps.map FlightLiveStamp.flightId ↔
    isliveEnabled = true ∧ (∃ leg, parseFlightId id = .ok leg) ∧
      tenant.prop id "isLive" = some (.flag true) ∧ ¬TargetLive airborne tenant id ∧
      id ∉ plan.toDelete
  falseLive : ∀ s ∈ plan.falseStamps, s.isLive = false

/-- The run gets as far as its plan. -/
lemma exists_planOf (isliveEnabled : Bool) (now : Instant) (airborne : List String)
    (htenant : ∀ id ∈ tenant.keys, TenantId id)
    (horder : order.Perm (flightListing tenant.rows).allPks) :
    ∃ plan, flightReconcilePlan isliveEnabled now airborne (flightListing tenant.rows) order =
        .ok plan ∧ PlanOf isliveEnabled (now - flightReconcileTtl) airborne tenant plan := by
  have hids : ∀ id ∈ order, parseFlightId id ≠ .error .overflowError :=
    fun id hid => (htenant id (mem_allPks.mp (horder.mem_iff.mp hid)).2).ne_overflow
  obtain ⟨scan, hscan⟩ := exists_scanTenant (now - flightReconcileTtl) airborne ⟨[], []⟩ hids
  have h : ScanOfTenant (now - flightReconcileTtl) airborne tenant scan :=
    (scanTenant_ok scanOf_nil hscan).ofTenant horder htenant
  refine ⟨_, flightReconcilePlan_eq hscan, fun id => h.stubOrphan_of_toDelete htenant,
    nodup_toDelete scan _ (List.nodup_dedup _), length_evictable scan _, List.length_take_le ..,
    fun id => ?_, ?_, fun id => ?_, ?_⟩
  · cases isliveEnabled with
    | false => simp
    | true =>
      rw [and_iff_right rfl, ← h.mem_newlyLive, if_pos rfl, List.map_map]
      rfl
  · intro s hs
    split_ifs at hs
    · obtain ⟨leg, -, rfl⟩ := List.mem_map.mp hs
      rfl
    · simp at hs
  · cases isliveEnabled with
    | false => simp
    | true =>
      rw [and_iff_right rfl, ← h.mem_falseStamps]
      rfl
  · intro s hs
    split_ifs at hs
    · exact isLive_of_falseStamp hs
    · simp at hs

end FleetMonitor
