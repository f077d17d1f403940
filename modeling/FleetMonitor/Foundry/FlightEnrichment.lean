import FleetMonitor.Foundry.FlightLifecycle
import FleetMonitor.Foundry.Ontology
import Mathlib.Data.List.Dedup

/-!
# The flight enrichment

`enriched_sync_flights` lists the tenant's flights, keeps the latest leg of every aircraft, fetches
what the API knows of them and upserts the active ones chunk by chunk, first those whose trail
arrives and then the others. It is given step by step: the tenant may change between any two steps.
-/

namespace FleetMonitor

open Library

/-! ### Flights -/

/-- `_STAGE_TO_STATUS`. -/
def stageToStatus : FlightStage → FlightStatus
  | .departed => .departed
  | .climb    => .enroute
  | .cruise   => .enroute
  | .descent  => .enroute
  | .approach => .approaching
  | .landed   => .landed

/-- `flight_detail_to_flight`. -/
def flightDetailToFlight (flightId : String) (takeoffTs : Instant) (detail : FlightDetail)
    (trail : Option TrailResponse) : Flight :=
  let timeline := detail.statusTimeline
  let currentStage := timeline.getLast?.map (·.stage)
  { flightId
    icao24 := detail.icao24
    takeoffTs
    landedAt := (timeline.find? (·.stage = .landed)).map (·.occurredAt)
    callsign := detail.callsign
    registration := detail.registration
    aircraftType := detail.aircraftType
    operatorIcao := detail.operatorIcao
    customerRegion := detail.customerRegion
    originIcao := detail.originIcao
    destinationIcao := detail.destinationIcao
    etaMinutes := detail.etaMinutes
    status := some ((currentStage.map stageToStatus).getD .unknown)
    currentStage
    lat := some detail.lat
    lon := some detail.lon
    openCaseCount := detail.openCaseIds.length
    openCaseIds := detail.openCaseIds
    statusTimeline := timeline
    trail2h := (trail.map (·.points)).getD [] }

/-- One turn of the loop of `_linestring`. -/
def addCoordinate (coords : List (ℚ × ℚ)) (p : TrailPoint) : List (ℚ × ℚ) :=
  if coords.getLast? = some (p.lon, p.lat) then coords else coords ++ [(p.lon, p.lat)]

/-- `_linestring`. -/
def linestring (points : List TrailPoint) : Option (List (ℚ × ℚ)) :=
  let coords := points.foldl addCoordinate []
  if coords.length < 2 then none else some coords

/-- The coordinates of `flight_params`: all three parameters, or none. -/
def positionParams : Option ℚ → Option ℚ → List (String × PropValue)
  | some lat, some lon =>
    [("lat", .coordinate lat), ("lon", .coordinate lon), ("position", .geopoint lon lat)]
  | _, _ => []

/-- `flight_params`, with the parameter names `_camel` gives. -/
def flightParams (emitIsLive : Bool) (f : Flight) : UpsertRequest where
  locator := f.flightId
  params :=
    [("icao24", .text f.icao24), ("takeoffTs", .instant f.takeoffTs),
     ("openCaseCount", .integer f.openCaseCount), ("openCaseIds", .texts f.openCaseIds),
     ("statusTimeline", .events f.statusTimeline), ("trail2h", .trail f.trail2h)] ++
    putOptional "landedAt" (f.landedAt.map .instant) ++
    putOptional "callsign" (f.callsign.map .text) ++
    putOptional "registration" (f.registration.map .text) ++
    putOptional "aircraftType" (f.aircraftType.map .text) ++
    putOptional "operatorIcao" (f.operatorIcao.map .text) ++
    putOptional "customerRegion" (f.customerRegion.map fun r => .text r.text) ++
    putOptional "originIcao" (f.originIcao.map .text) ++
    putOptional "destinationIcao" (f.destinationIcao.map .text) ++
    putOptional "etaMinutes" (f.etaMinutes.map .integer) ++
    putOptional "status" (f.status.map fun s => .text s.text) ++
    putOptional "currentStage" (f.currentStage.map fun s => .text s.text) ++
    (if emitIsLive then putOptional "isLive" (f.isLive.map .flag) else []) ++
    positionParams f.lat f.lon ++
    putOptional "trailPath" ((linestring f.trail2h).map .linestring)

@[simp] lemma flightParams_locator (emitIsLive : Bool) (f : Flight) :
    (flightParams emitIsLive f).locator = f.flightId := rfl

@[simp] lemma flightDetailToFlight_flightId (flightId : String) (takeoffTs : Instant)
    (detail : FlightDetail) (trail : Option TrailResponse) :
    (flightDetailToFlight flightId takeoffTs detail trail).flightId = flightId := rfl

/-! ### Listing the tenant -/

/-- What `list_flight_pks_with_completion` returns. -/
structure FlightListing where
  allPks : List String
  completed : List String
  live : List String
  deriving DecidableEq, Repr

/-- `list_flight_pks_with_completion`, of the objects its pages had. -/
def flightListing (objs : List OntologyObject) : FlightListing :=
  let objs := objs.filter (·.pk ≠ "")
  { allPks := (objs.map OntologyObject.pk).dedup
    completed := ((objs.filter fun o => o.get "landedAt" ≠ none).map OntologyObject.pk).dedup
    live :=
      ((objs.filter fun o => o.get "isLive" = some (.flag true)).map OntologyObject.pk).dedup }

/-- A flight id with the two halves `parse_flight_id` gives. -/
structure Leg where
  icao24 : String
  takeoffTs : Instant
  flightId : String
  deriving DecidableEq, Repr

/-- One turn of the loop that keeps the latest leg per aircraft; a leg that is replaced keeps its
place. -/
def keepLatestLeg (latest : List Leg) (leg : Leg) : List Leg :=
  match latest.find? (·.icao24 = leg.icao24) with
  | none => latest ++ [leg]
  | some current =>
    if current.takeoffTs < leg.takeoffTs then
      latest.map fun l => if l.icao24 = leg.icao24 then leg else l
    else latest

/-- The latest leg per aircraft; a set is iterated over in some order. -/
def latestLegs : List String → List Leg → Except FlightIdError (List Leg)
  | [], latest => .ok latest
  | pk :: pks, latest =>
    match parseFlightId pk with
    | .ok (icao24, takeoffTs)  => latestLegs pks (keepLatestLeg latest ⟨icao24, takeoffTs, pk⟩)
    | .error .valueError       => latestLegs pks latest
    | .error .overflowError    => .error .overflowError

/-! ### The job -/

/-- What `_fetch_detail` returns. -/
inductive DetailOutcome where
  | ok (detail : FlightDetail)
  | inactive
  | failed
  deriving DecidableEq, Repr

/-- An entry of `active`. -/
structure ActiveFlight where
  leg : Leg
  detail : FlightDetail
  deriving DecidableEq, Repr

/-- The legs whose detail has been fetched. -/
def activeFlights (details : String → DetailOutcome) (latest : List Leg) : List ActiveFlight :=
  latest.filterMap fun leg =>
    match details leg.icao24 with
    | .ok detail => some ⟨leg, detail⟩
    | _          => none

/-- The flight that is upserted for an active leg. -/
def ActiveFlight.flight (a : ActiveFlight) (trail : Option TrailResponse) : Flight :=
  flightDetailToFlight a.leg.flightId a.leg.takeoffTs a.detail trail

/-- `_ENRICHMENT_CHUNK`. -/
def enrichmentChunk : ℕ := 50

/-- Where a run stands. -/
inductive EnrichmentPhase where
  | idle
  | listing (objs : List OntologyObject)
  /-- Reading trails; a buffer that is full has to be flushed first. -/
  | streaming (active : List ActiveFlight) (buffer : List Flight) (seen : List String)
  /-- The flights that are left, without their trails. -/
  | detailOnly (rest : List ActiveFlight) (buffer : List Flight) (due : Bool)
  deriving DecidableEq, Repr

inductive EnrichmentAction where
  | start
  | page (objs : List OntologyObject)
  /-- The listing is over; the API answers for every aircraft. -/
  | fetch (order : List String) (details : String → DetailOutcome)
  | trail (t : TrailResponse)
  /-- The trail stream ends, or fails. -/
  | trailsEnd
  | next
  | flush (outcome : PostOutcome)
  /-- The run is over, or it fails. -/
  | stop

/-- The first phase after the details have been fetched. -/
def fetched (active : List ActiveFlight) : EnrichmentPhase :=
  if active = [] then .detailOnly [] [] false else .streaming active [] []

def upsertFlights (emitIsLive : Bool) (tenant : ObjectSet) (flights : List Flight) : ObjectSet :=
  (flights.map (flightParams emitIsLive)).foldl applyUpsert tenant

variable (emitIsLive : Bool)

/-- The tenant after a flush: one chunk of `_apply_batch`. -/
def flushFlights (tenant : ObjectSet) (buffer : List Flight) (outcome : PostOutcome) : ObjectSet :=
  if outcome.applied then upsertFlights emitIsLive tenant buffer else tenant

/-- The active flights without a trail, once the stream is over. -/
def unseen (active : List ActiveFlight) (seen : List String) : List ActiveFlight :=
  active.filter (·.leg.icao24 ∉ seen)

/-- A flush that fails among the trails is taken for a failure of the stream; the buffer is kept. -/
def afterStreamFlush (active : List ActiveFlight) (buffer : List Flight) (seen : List String) :
    PostOutcome → EnrichmentPhase
  | .posted    => .streaming active [] seen
  | .retried _ => .streaming active buffer seen
  | .failed _  => .detailOnly (unseen active seen) buffer false

def afterRestFlush (rest : List ActiveFlight) (buffer : List Flight) (due : Bool) :
    PostOutcome → EnrichmentPhase
  | .posted    => .detailOnly rest [] false
  | .retried _ => .detailOnly rest buffer due
  | .failed _  => .idle

/-- One step of `enriched_sync_flights`; a page has objects of the tenant. -/
def enrichmentStep (tenant : ObjectSet) :
    EnrichmentPhase → EnrichmentAction → Option (ObjectSet × EnrichmentPhase)
  | .idle, .start => some (tenant, .listing [])
  | .listing objs, .page page =>
    if ∀ o ∈ page, o ∈ tenant.rows then some (tenant, .listing (objs ++ page)) else none
  | .listing objs, .fetch order details =>
    if order.Perm (flightListing objs).allPks then
      match latestLegs order [] with
      | .ok latest => some (tenant, fetched (activeFlights details latest))
      | .error _   => some (tenant, .idle)
    else none
  | .streaming active buffer seen, .trail t =>
    if buffer.length < enrichmentChunk then
      match active.find? (·.leg.icao24 = t.icao24) with
      | none       => some (tenant, .streaming active buffer seen)
      | some entry =>
        some (tenant, .streaming active (buffer ++ [entry.flight (some t)]) (t.icao24 :: seen))
    else none
  | .streaming active buffer seen, .trailsEnd =>
    if buffer.length < enrichmentChunk then
      some (tenant, .detailOnly (unseen active seen) buffer false)
    else none
  | .streaming active buffer seen, .flush outcome =>
    if buffer.length < enrichmentChunk then none
    else
      some (flushFlights emitIsLive tenant buffer outcome,
        afterStreamFlush active buffer seen outcome)
  | .detailOnly (a :: rest) buffer false, .next =>
    let buffer := buffer ++ [a.flight none]
    some (tenant, .detailOnly rest buffer (decide (enrichmentChunk ≤ buffer.length)))
  | .detailOnly rest buffer due, .flush outcome =>
    if (due ∨ rest = []) ∧ buffer ≠ [] then
      some (flushFlights emitIsLive tenant buffer outcome, afterRestFlush rest buffer due outcome)
    else none
  | _, .stop => some (tenant, .idle)
  | _, _     => none

variable {emitIsLive} {tenant tenant' : ObjectSet} {phase phase' : EnrichmentPhase}
  {a : EnrichmentAction}

/-- What a step does to the tenant and to the phase. -/
inductive EnrichmentRule (emitIsLive : Bool) (tenant : ObjectSet) :
    EnrichmentPhase → ObjectSet → EnrichmentPhase → Prop where
  | start : EnrichmentRule emitIsLive tenant .idle tenant (.listing [])
  | page (objs page : List OntologyObject) (h : ∀ o ∈ page, o ∈ tenant.rows) :
      EnrichmentRule emitIsLive tenant (.listing objs) tenant (.listing (objs ++ page))
  | fetch (objs : List OntologyObject) (order : List String) (details : String → DetailOutcome)
      (latest : List Leg) (h : order.Perm (flightListing objs).allPks)
      (hlatest : latestLegs order [] = .ok latest) :
      EnrichmentRule emitIsLive tenant (.listing objs) tenant
        (fetched (activeFlights details latest))
  | trail (active : List ActiveFlight) (buffer : List Flight) (seen : List String)
      (entry : ActiveFlight) (t : TrailResponse) (h : entry ∈ active)
      (hroom : buffer.length < enrichmentChunk) :
      EnrichmentRule emitIsLive tenant (.streaming active buffer seen) tenant
        (.streaming active (buffer ++ [entry.flight (some t)]) (t.icao24 :: seen))
  | trailsEnd (active : List ActiveFlight) (buffer : List Flight) (seen : List String)
      (hroom : buffer.length < enrichmentChunk) :
      EnrichmentRule emitIsLive tenant (.streaming active buffer seen) tenant
        (.detailOnly (unseen active seen) buffer false)
  | streamFlush (active : List ActiveFlight) (buffer : List Flight) (seen : List String)
      (outcome : PostOutcome) :
      EnrichmentRule emitIsLive tenant (.streaming active buffer seen)
        (flushFlights emitIsLive tenant buffer outcome)
        (afterStreamFlush active buffer seen outcome)
  | next (a : ActiveFlight) (rest : List ActiveFlight) (buffer : List Flight) :
      EnrichmentRule emitIsLive tenant (.detailOnly (a :: rest) buffer false) tenant
        (.detailOnly rest (buffer ++ [a.flight none])
          (decide (enrichmentChunk ≤ (buffer ++ [a.flight none]).length)))
  | restFlush (rest : List ActiveFlight) (buffer : List Flight) (due : Bool)
      (outcome : PostOutcome) :
      EnrichmentRule emitIsLive tenant (.detailOnly rest buffer due)
        (flushFlights emitIsLive tenant buffer outcome) (afterRestFlush rest buffer due outcome)
  | same (phase : EnrichmentPhase) : EnrichmentRule emitIsLive tenant phase tenant phase
  | stop (phase : EnrichmentPhase) : EnrichmentRule emitIsLive tenant phase tenant .idle

lemma EnrichmentRule.of_enrichmentStep
    (h : enrichmentStep emitIsLive tenant phase a = some (tenant', phase')) :
    EnrichmentRule emitIsLive tenant phase tenant' phase' := by
  unfold enrichmentStep at h
  split at h
  next =>
    cases h
    exact .start
  next objs page =>
    split_ifs at h with hpage
    cases h
    exact .page objs page hpage
  next objs order details =>
    split_ifs at h with horder
    split at h
    next latest hlatest =>
      cases h
      exact .fetch objs order details latest horder hlatest
    next =>
      cases h
      exact .stop _
  next active buffer seen t =>
    split_ifs at h with hroom
    split at h
    next =>
      cases h
      exact .same _
    next entry hentry =>
      cases h
      exact .trail active buffer seen entry t (List.mem_of_find?_eq_some hentry) hroom
  next active buffer seen =>
    split_ifs at h with hroom
    cases h
    exact .trailsEnd active buffer seen hroom
  next active buffer seen outcome =>
    split_ifs at h
    cases h
    exact .streamFlush active buffer seen outcome
  next a rest buffer =>
    cases h
    exact .next a rest buffer
  next rest buffer due outcome =>
    split_ifs at h
    cases h
    exact .restFlush rest buffer due outcome
  next =>
    cases h
    exact .stop phase
  next => simp at h

/-- What the phase keeps for the next flush fits into one chunk of `_apply_batch`. -/
def EnrichmentPhase.FlushFits : EnrichmentPhase → Prop
  | .streaming _ buffer _    => buffer.length ≤ enrichmentChunk
  | .detailOnly _ buffer due => buffer.length ≤ if due then maxBatch else enrichmentChunk
  | _                        => True

/-- Every flush is one call. -/
lemma enrichmentStep_flushFits (hfits : phase.FlushFits)
    (h : enrichmentStep emitIsLive tenant phase a = some (tenant', phase')) : phase'.FlushFits := by
  have hchunk : enrichmentChunk = 50 := rfl
  have hbatch : maxBatch = 100 := rfl
  cases EnrichmentRule.of_enrichmentStep h with
  | start => trivial
  | page => trivial
  | fetch objs order details latest =>
    rw [fetched]
    split_ifs <;> simp [EnrichmentPhase.FlushFits]
  | trail active buffer seen entry t hentry hroom =>
    simp only [EnrichmentPhase.FlushFits, List.length_append, List.length_singleton]
    omega
  | trailsEnd active buffer seen hroom =>
    simp only [EnrichmentPhase.FlushFits]
    simpa using hroom.le
  | streamFlush active buffer seen outcome =>
    cases outcome with
    | posted => simp [afterStreamFlush, EnrichmentPhase.FlushFits]
    | retried => exact hfits
    | failed => simpa [afterStreamFlush, EnrichmentPhase.FlushFits] using hfits
  | next a rest buffer =>
    simp only [EnrichmentPhase.FlushFits, Bool.false_eq_true, if_false] at hfits ⊢
    simp only [List.length_append, List.length_singleton, decide_eq_true_eq]
    split_ifs <;> omega
  | restFlush rest buffer due outcome =>
    cases outcome with
    | posted => simp [afterRestFlush, EnrichmentPhase.FlushFits]
    | retried => exact hfits
    | failed => trivial
  | same => exact hfits
  | stop => trivial

/-! ### What a run can still write -/

/-- The id is not that of a later leg of the aircraft. -/
def NotLater (icao24 : String) (ts : Instant) (pk : String) : Prop :=
  match parseFlightId pk with
  | .ok (icao24', ts') => icao24' = icao24 → ts' ≤ ts
  | .error _           => True

/-- The id is that of the latest leg of its aircraft among these ids. -/
def LatestAmong (pks : List String) (id : String) : Prop :=
  id ∈ pks ∧
    match parseFlightId id with
    | .ok (icao24, ts) => ∀ pk ∈ pks, NotLater icao24 ts pk
    | .error _         => False

/-- The run may still write the flight. -/
def EnrichmentPhase.MayWrite : EnrichmentPhase → String → Prop
  | .idle, _                       => False
  | .listing objs, id              => LatestAmong (objs.map OntologyObject.pk) id
  | .streaming active buffer _, id =>
    id ∈ active.map (·.leg.flightId) ∨ id ∈ buffer.map Flight.flightId
  | .detailOnly rest buffer _, id  =>
    id ∈ rest.map (·.leg.flightId) ∨ id ∈ buffer.map Flight.flightId

instance (icao24 : String) (ts : Instant) : DecidablePred (NotLater icao24 ts) := fun pk => by
  unfold NotLater; split <;> infer_instance

instance (pks : List String) : DecidablePred (LatestAmong pks) := fun id => by
  unfold LatestAmong; split <;> infer_instance

instance (phase : EnrichmentPhase) : DecidablePred phase.MayWrite := fun id => by
  unfold EnrichmentPhase.MayWrite; split <;> infer_instance

variable {latest : List Leg}

lemma mem_keys_applyUpserts {reqs : List UpsertRequest} {id : String} :
    id ∈ (reqs.foldl applyUpsert tenant).keys ↔
      id ∈ tenant.keys ∨ id ∈ reqs.map UpsertRequest.locator := by
  induction reqs generalizing tenant with
  | nil => simp
  | cons req reqs ih =>
    rw [List.foldl_cons, ih, mem_keys_applyUpsert, List.map_cons, List.mem_cons]
    tauto

lemma mem_keys_upsertFlights {flights : List Flight} {id : String} :
    id ∈ (upsertFlights emitIsLive tenant flights).keys ↔
      id ∈ tenant.keys ∨ id ∈ flights.map Flight.flightId := by
  rw [upsertFlights, mem_keys_applyUpserts, List.map_map]
  rfl

/-- The legs are those of the ids, one per aircraft, and none of the ids has a later one. -/
structure LegsOf (pks : List String) (latest : List Leg) : Prop where
  mem : ∀ leg ∈ latest, leg.flightId ∈ pks ∧
    parseFlightId leg.flightId = .ok (leg.icao24, leg.takeoffTs)
  covers : ∀ pk ∈ pks, ∀ icao24 ts, parseFlightId pk = .ok (icao24, ts) →
    ∃ leg ∈ latest, leg.icao24 = icao24 ∧ ts ≤ leg.takeoffTs
  distinct : (latest.map Leg.icao24).Nodup

variable {pks : List String} {pk : String}

lemma LegsOf.latestAmong (h : LegsOf pks latest) {leg : Leg} (hleg : leg ∈ latest) :
    LatestAmong pks leg.flightId := by
  obtain ⟨hmem, hparse⟩ := h.mem leg hleg
  refine ⟨hmem, ?_⟩
  rw [hparse]
  intro pk hpk
  rw [NotLater]
  split
  next icao24 ts hts =>
    intro hicao
    obtain ⟨leg', hleg', hicao', hle⟩ := h.covers pk hpk _ _ hts
    obtain rfl : leg' = leg :=
      List.inj_on_of_nodup_map h.distinct hleg' hleg (hicao'.trans hicao)
    exact hle
  next => trivial

/-- An id that is not a flight id leaves the legs as they are. -/
lemma LegsOf.skip (h : LegsOf pks latest) (hpk : ∀ l, parseFlightId pk ≠ .ok l) :
    LegsOf (pks ++ [pk]) latest where
  mem leg hleg := ⟨List.mem_append_left _ (h.mem leg hleg).1, (h.mem leg hleg).2⟩
  covers pk' hpk' icao24 ts hparse := by
    rcases List.mem_append.mp hpk' with hpk' | hpk'
    · exact h.covers pk' hpk' icao24 ts hparse
    · obtain rfl := List.mem_singleton.mp hpk'
      exact absurd hparse (hpk _)
  distinct := h.distinct

/-- One more id, when the legs kept are no earlier and one of them is no earlier than its own. -/
lemma LegsOf.concat (h : LegsOf pks latest) {latest' : List Leg} {icao24 : String} {ts : Instant}
    (hpk : parseFlightId pk = .ok (icao24, ts))
    (hmem : ∀ leg ∈ latest', leg ∈ latest ∨ leg = ⟨icao24, ts, pk⟩)
    (hkept : ∀ leg ∈ latest, ∃ leg' ∈ latest', leg'.icao24 = leg.icao24 ∧
      leg.takeoffTs ≤ leg'.takeoffTs)
    (hnew : ∃ leg' ∈ latest', leg'.icao24 = icao24 ∧ ts ≤ leg'.takeoffTs)
    (hdistinct : (latest'.map Leg.icao24).Nodup) : LegsOf (pks ++ [pk]) latest' := by
  refine ⟨fun leg hleg => ?_, fun pk' hpk' a t hparse => ?_, hdistinct⟩
  · rcases hmem leg hleg with hold | rfl
    · exact ⟨List.mem_append_left _ (h.mem leg hold).1, (h.mem leg hold).2⟩
    · exact ⟨by simp, hpk⟩
  · rcases List.mem_append.mp hpk' with hpk' | hpk'
    · obtain ⟨leg, hleg, rfl, hle⟩ := h.covers pk' hpk' a t hparse
      obtain ⟨leg', hleg', hicao, hle'⟩ := hkept leg hleg
      exact ⟨leg', hleg', hicao, hle.trans hle'⟩
    · obtain rfl := List.mem_singleton.mp hpk'
      rw [hpk, Except.ok.injEq, Prod.mk.injEq] at hparse
      obtain ⟨rfl, rfl⟩ := hparse
      exact hnew

/-- A leg takes the place of the one of its aircraft. -/
lemma map_icao24_replace (latest : List Leg) (leg : Leg) :
    (latest.map fun l => if l.icao24 = leg.icao24 then leg else l).map Leg.icao24 =
      latest.map Leg.icao24 := by
  rw [List.map_map]
  refine List.map_congr_left fun l _ => ?_
  simp only [Function.comp_apply]
  split_ifs with hl
  · exact hl.symm
  · rfl

lemma LegsOf.keep (h : LegsOf pks latest) {icao24 : String} {ts : Instant}
    (hpk : parseFlightId pk = .ok (icao24, ts)) :
    LegsOf (pks ++ [pk]) (keepLatestLeg latest ⟨icao24, ts, pk⟩) := by
  rw [keepLatestLeg]
  cases hfind : latest.find? (·.icao24 = icao24) with
  | none =>
    have hnew : ∀ leg ∈ latest, leg.icao24 ≠ icao24 := by simpa using hfind
    refine h.concat hpk (fun leg hleg => by simpa using hleg)
      (fun leg hleg => ⟨leg, List.mem_append_left _ hleg, rfl, le_rfl⟩)
      ⟨⟨icao24, ts, pk⟩, by simp, rfl, le_rfl⟩ ?_
    rw [List.map_append, List.nodup_append]
    refine ⟨h.distinct, by simp, ?_⟩
    simpa using hnew
  | some current =>
    have hcurrent : current ∈ latest := List.mem_of_find?_eq_some hfind
    have hicao : current.icao24 = icao24 := by simpa using List.find?_some hfind
    simp only
    split_ifs with hlt
    · have hin : ⟨icao24, ts, pk⟩ ∈ latest.map fun l =>
          if l.icao24 = icao24 then ⟨icao24, ts, pk⟩ else l :=
        List.mem_map.mpr ⟨current, hcurrent, if_pos hicao⟩
      refine h.concat hpk (fun leg hleg => ?_) (fun leg hleg => ?_) ⟨_, hin, rfl, le_rfl⟩ ?_
      · obtain ⟨l, hl, rfl⟩ := List.mem_map.mp hleg
        split_ifs
        · exact .inr rfl
        · exact .inl hl
      · by_cases heq : leg.icao24 = icao24
        · obtain rfl : leg = current :=
            List.inj_on_of_nodup_map h.distinct hleg hcurrent (heq.trans hicao.symm)
          exact ⟨_, hin, heq.symm, hlt.le⟩
        · exact ⟨leg, List.mem_map.mpr ⟨leg, hleg, if_neg heq⟩, rfl, le_rfl⟩
      · rw [map_icao24_replace latest ⟨icao24, ts, pk⟩]
        exact h.distinct
    · exact h.concat hpk (fun leg hleg => .inl hleg) (fun leg hleg => ⟨leg, hleg, rfl, le_rfl⟩)
        ⟨current, hcurrent, hicao, not_lt.mp hlt⟩ h.distinct

lemma latestLegs_ok {done : List String} {result : List Leg} (h : LegsOf done latest)
    (hok : latestLegs pks latest = .ok result) : LegsOf (done ++ pks) result := by
  induction pks generalizing done latest with
  | nil =>
    obtain rfl := Except.ok.inj hok
    simpa using h
  | cons pk pks ih =>
    rw [← List.singleton_append, ← List.append_assoc]
    rw [latestLegs] at hok
    split at hok
    next icao24 ts hpk => exact ih (h.keep hpk) hok
    next hpk => exact ih (h.skip (by simp [hpk])) hok
    next => simp at hok

lemma legsOf_nil : LegsOf [] [] := ⟨by simp, by simp, by simp⟩

/-- Only latest legs are kept. -/
lemma latestAmong_of_latestLegs {result : List Leg} (hok : latestLegs pks [] = .ok result)
    {leg : Leg} (hleg : leg ∈ result) : LatestAmong pks leg.flightId :=
  (latestLegs_ok legsOf_nil hok).latestAmong hleg

lemma mem_activeFlights {details : String → DetailOutcome} {a : ActiveFlight}
    (h : a ∈ activeFlights details latest) : a.leg ∈ latest := by
  obtain ⟨leg, hleg, heq⟩ := List.mem_filterMap.mp h
  split at heq
  · exact Option.some.inj heq ▸ hleg
  · simp at heq

/-- Fewer ids: what is not listed takes no part. -/
lemma LatestAmong.of_append {more : List String} {id : String}
    (h : LatestAmong (pks ++ more) id) (hid : id ∉ more) : LatestAmong pks id := by
  obtain ⟨hmem, hlatest⟩ := h
  refine ⟨(List.mem_append.mp hmem).resolve_right hid, ?_⟩
  split at hlatest
  next => exact fun pk hpk => hlatest pk (List.mem_append_left _ hpk)
  next => exact hlatest.elim

/-- The listing has every id that is not empty. -/
lemma mem_allPks {objs : List OntologyObject} {id : String} :
    id ∈ (flightListing objs).allPks ↔ id ≠ "" ∧ id ∈ objs.map OntologyObject.pk := by
  simp only [flightListing, List.mem_dedup, List.mem_map, List.mem_filter, decide_eq_true_eq]
  constructor
  · rintro ⟨o, ⟨ho, hne⟩, rfl⟩
    exact ⟨hne, o, ho, rfl⟩
  · rintro ⟨hne, o, ho, rfl⟩
    exact ⟨o, ⟨ho, hne⟩, rfl⟩

lemma latestAmong_of_allPks {objs : List OntologyObject} {order : List String} {id : String}
    (horder : order.Perm (flightListing objs).allPks) (h : LatestAmong order id) :
    LatestAmong (objs.map OntologyObject.pk) id := by
  obtain ⟨hmem, hlatest⟩ := h
  refine ⟨(mem_allPks.mp (horder.mem_iff.mp hmem)).2, ?_⟩
  split at hlatest
  next icao24 ts _ =>
    intro pk hpk
    by_cases hne : pk = ""
    · simp [hne, NotLater, parseFlightId]
    · exact hlatest pk (horder.mem_iff.mpr (mem_allPks.mpr ⟨hne, hpk⟩))
  next => exact hlatest.elim

lemma mem_flushFlights {buffer : List Flight} {outcome : PostOutcome} {id : String}
    (h : id ∈ (flushFlights emitIsLive tenant buffer outcome).keys) :
    id ∈ tenant.keys ∨ id ∈ buffer.map Flight.flightId := by
  rw [flushFlights] at h
  split_ifs at h
  · exact mem_keys_upsertFlights.mp h
  · exact .inl h

lemma mem_unseen {active : List ActiveFlight} {seen : List String} {id : String}
    (h : id ∈ (unseen active seen).map (·.leg.flightId)) : id ∈ active.map (·.leg.flightId) :=
  List.map_subset _ (List.filter_subset_self _) h

/-- A run writes only flights it may write, and may write only those and what it reads. -/
lemma enrichmentStep_mayWrite {id : String}
    (h : enrichmentStep emitIsLive tenant phase a = some (tenant', phase')) :
    (id ∈ tenant'.keys → id ∈ tenant.keys ∨ phase.MayWrite id) ∧
      (phase'.MayWrite id → id ∈ tenant.keys ∨ phase.MayWrite id) := by
  cases EnrichmentRule.of_enrichmentStep h with
  | start => simp [EnrichmentPhase.MayWrite, LatestAmong]
  | page objs page hpage =>
    refine ⟨.inl, fun hmay => ?_⟩
    by_cases hid : id ∈ page.map OntologyObject.pk
    · obtain ⟨o, ho, rfl⟩ := List.mem_map.mp hid
      exact .inl (List.mem_map_of_mem (hpage o ho))
    · rw [EnrichmentPhase.MayWrite, List.map_append] at hmay
      exact .inr (hmay.of_append hid)
  | fetch objs order details latest horder hlatest =>
    refine ⟨.inl, fun hmay => .inr ?_⟩
    have hleg : ∃ leg ∈ latest, leg.flightId = id := by
      rw [fetched] at hmay
      split_ifs at hmay
      · simp [EnrichmentPhase.MayWrite] at hmay
      · simp only [EnrichmentPhase.MayWrite, List.map_nil, List.not_mem_nil, or_false] at hmay
        obtain ⟨a, ha, rfl⟩ := List.mem_map.mp hmay
        exact ⟨a.leg, mem_activeFlights ha, rfl⟩
    obtain ⟨leg, hleg, rfl⟩ := hleg
    exact latestAmong_of_allPks horder (latestAmong_of_latestLegs hlatest hleg)
  | trail active buffer seen entry t hentry =>
    refine ⟨.inl, fun hmay => .inr ?_⟩
    simp only [EnrichmentPhase.MayWrite, List.map_append, List.mem_append] at hmay ⊢
    rcases hmay with hmay | hmay | hmay
    · exact .inl hmay
    · exact .inr hmay
    · simp only [ActiveFlight.flight, List.map_cons, flightDetailToFlight_flightId, List.map_nil,
        List.mem_singleton] at hmay
      exact .inl (List.mem_map.mpr ⟨entry, hentry, hmay.symm⟩)
  | trailsEnd active buffer seen =>
    exact ⟨.inl, fun hmay => .inr (hmay.imp_left mem_unseen)⟩
  | streamFlush active buffer seen outcome =>
    refine ⟨fun hid => ?_, fun hmay => .inr ?_⟩
    · exact (mem_flushFlights hid).imp_right .inr
    · cases outcome with
      | posted => exact .inl (by simpa [afterStreamFlush, EnrichmentPhase.MayWrite] using hmay)
      | retried => exact hmay
      | failed => exact hmay.imp_left mem_unseen
  | next a rest buffer =>
    refine ⟨.inl, fun hmay => .inr ?_⟩
    simp only [EnrichmentPhase.MayWrite, List.map_append, List.mem_append, ActiveFlight.flight,
      List.map_cons, flightDetailToFlight_flightId, List.map_nil, List.mem_cons] at hmay ⊢
    tauto
  | restFlush rest buffer due outcome =>
    refine ⟨fun hid => ?_, fun hmay => .inr ?_⟩
    · exact (mem_flushFlights hid).imp_right .inr
    · cases outcome with
      | posted => exact .inl (by simpa [afterRestFlush, EnrichmentPhase.MayWrite] using hmay)
      | retried => exact hmay
      | failed => exact hmay.elim
  | same => exact ⟨.inl, .inr⟩
  | stop => exact ⟨.inl, fun hmay => hmay.elim⟩

end FleetMonitor
