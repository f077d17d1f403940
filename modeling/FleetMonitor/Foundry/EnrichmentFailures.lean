import FleetMonitor.Foundry.FlightEnrichment
import FleetMonitor.Foundry.SyncErrors
import FleetMonitor.Library.ChunkedWrites
import FleetMonitor.Library.Table

/-!
# Failures of a flight enrichment

One run of `enriched_sync_flights` from its listing to its result, with all that can fail: the fetch
of a detail, the stream of trails and every upsert. Reading the stream and upserting a full buffer
share one `try`.
-/

namespace FleetMonitor

open Library

/-! ### The run -/

/-- An exception of a run: of `parse_flight_id`, of `fetch_flight` or of `upsert_flight_batch`. -/
inductive EnrichmentException where
  | flightId (e : FlightIdError)
  | detail (e : BodyException)
  | upsert (e : HttpError)
  deriving DecidableEq, Repr

/-- `FlightEnrichmentResult`. -/
structure FlightEnrichmentResult where
  tenantFlights : ℕ
  candidates : ℕ
  enriched : ℕ
  skippedInactive : ℕ := 0
  fetchFailed : ℕ := 0
  deriving DecidableEq, Repr

/-- What `stream_flight_trails` yields, one trail an aircraft, and the error that ends it early. -/
structure TrailStream where
  trails : Table TrailResponse.icao24
  raised : Option HttpError

/-- `_fetch_detail`, of what `fetch_flight` returns or raises. -/
def fetchDetail : Except BodyException FlightDetail → Except BodyException DetailOutcome
  | .ok detail                     => .ok (.ok detail)
  | .error (.http (.status 404 _)) => .ok .inactive
  | .error (.http _)               => .ok .failed
  | .error e                       => .error e

/-- `asyncio.gather` over the candidates; of several exceptions that of the first candidate. -/
def gatherDetails (details : String → Except BodyException FlightDetail) (candidates : List Leg) :
    Except BodyException (List (Leg × DetailOutcome)) :=
  candidates.mapM fun leg => (fetchDetail (details leg.icao24)).map (leg, ·)

/-- `active`. -/
def activeOutcomes (outcomes : List (Leg × DetailOutcome)) : List ActiveFlight :=
  outcomes.filterMap fun p =>
    match p.2 with
    | .ok detail => some ⟨p.1, detail⟩
    | _          => none

/-- What the loops change. -/
structure EnrichmentState where
  flights : ChunkedWrites HttpError Flight := {}
  seen : List String := []
  enriched : ℕ := 0

variable (upsert : ℕ → Except HttpError Unit)

/-- `_flush`; the `n`-th call of `upsert_flight_batch` has the `n`-th outcome. -/
def EnrichmentState.flush (s : EnrichmentState) : EnrichmentState × Except HttpError Unit :=
  match s.flights.flush upsert with
  | (flights, .ok ())   =>
    ({ s with flights, enriched := s.enriched + s.flights.buffer.length }, .ok ())
  | (flights, .error e) => ({ s with flights }, .error e)

/-- Append to the buffer, and flush a chunk. -/
def EnrichmentState.add (s : EnrichmentState) (flight : Flight) :
    EnrichmentState × Except HttpError Unit :=
  let s := { s with flights := s.flights.wait flight }
  if enrichmentChunk ≤ s.flights.buffer.length then s.flush upsert else (s, .ok ())

/-- The loop over the stream: what it raises is the error of the stream or of a flush. -/
def streamTrails (active : List ActiveFlight) (raised : Option HttpError) :
    List TrailResponse → EnrichmentState → EnrichmentState × Except HttpError Unit
  | [], s =>
    match raised with
    | none   => (s, .ok ())
    | some e => (s, .error e)
  | trail :: trails, s =>
    match active.find? (·.leg.icao24 = trail.icao24) with
    | none => streamTrails active raised trails s
    | some entry =>
      match { s with seen := trail.icao24 :: s.seen }.add upsert (entry.flight (some trail)) with
      | (s, .ok ())   => streamTrails active raised trails s
      | (s, .error e) => (s, .error e)

/-- The loop over the flights whose trail has not come. -/
def addUnseen : List ActiveFlight → EnrichmentState → EnrichmentState × Except HttpError Unit
  | [], s => (s, .ok ())
  | a :: active, s =>
    if a.leg.icao24 ∈ s.seen then addUnseen active s
    else
      match s.add upsert (a.flight none) with
      | (s, .ok ())   => addUnseen active s
      | (s, .error e) => (s, .error e)

/-- The state after the `try`: whatever is raised inside is caught. -/
def readTrails (active : List ActiveFlight) (stream : TrailStream) : EnrichmentState :=
  if active.isEmpty then {}
  else (streamTrails upsert active stream.raised stream.trails.rows {}).1

/-- The second phase. -/
def enrichActive (active : List ActiveFlight) (stream : TrailStream) :
    EnrichmentState × Except HttpError Unit :=
  match addUnseen upsert active (readTrails upsert active stream) with
  | (s, .ok ())   => s.flush upsert
  | (s, .error e) => (s, .error e)

/-- The calls of `upsert_flight_batch`, and what the run returns or raises. -/
structure EnrichmentRun where
  calls : List (Write HttpError Flight)
  result : Except EnrichmentException FlightEnrichmentResult

/-- `enriched_sync_flights`, once the tenant is listed. -/
def enrichedSyncFlights (flightPks : List String)
    (details : String → Except BodyException FlightDetail) (stream : TrailStream) :
    EnrichmentRun :=
  match latestLegs flightPks [] with
  | .error e => ⟨[], .error (.flightId e)⟩
  | .ok candidates =>
    match gatherDetails details candidates with
    | .error e => ⟨[], .error (.detail e)⟩
    | .ok outcomes =>
      match enrichActive upsert (activeOutcomes outcomes) stream with
      | (s, .error e) => ⟨s.flights.writes, .error (.upsert e)⟩
      | (s, .ok ())   =>
        ⟨s.flights.writes,
          .ok
            { tenantFlights := flightPks.length
              candidates := candidates.length
              enriched := s.enriched
              skippedInactive := outcomes.countP (·.2 = .inactive)
              fetchFailed := outcomes.countP (·.2 = .failed) }⟩

/-! ### What the run is for -/

/-- The candidates whose detail has come. -/
def activeLegs (details : String → Except BodyException FlightDetail) (candidates : List Leg) :
    List ActiveFlight :=
  candidates.filterMap fun leg =>
    match details leg.icao24 with
    | .ok detail => some ⟨leg, detail⟩
    | .error _   => none

/-- When no upsert fails, every active flight is upserted once, with its trail if that has come, and
counted; an upsert that fails ends the run with its error. -/
structure HandlesFailures (flightPks : List String)
    (details : String → Except BodyException FlightDetail) (stream : TrailStream)
    (run : EnrichmentRun) : Prop where
  complete : (∀ call ∈ run.calls, call.outcome = .ok ()) →
    ∃ candidates r, latestLegs flightPks [] = .ok candidates ∧ run.result = .ok r ∧
      (run.calls.flatMap Write.items).Perm ((activeLegs details candidates).map fun a =>
        a.flight (stream.trails.lookup a.leg.icao24)) ∧
      (r.enriched : ℤ) = r.candidates - r.skippedInactive - r.fetchFailed
  propagates : ∀ before call after e, run.calls = before ++ call :: after →
    call.outcome = .error e → after = [] ∧ run.result = .error (.upsert e)

/-- What `fetch_flight` raises is an `httpx.HTTPError`, if it raises. -/
def RaisesHttpOnly : Except BodyException FlightDetail → Prop
  | .ok _            => True
  | .error (.http _) => True
  | .error _         => False

/-- The tenant has a flight of the aircraft, and the API its detail. -/
def hasDetail (flightPks : List String) (details : String → Except BodyException FlightDetail)
    (icao24 : String) : Bool :=
  (flightPks.any fun pk =>
    match parseFlightId pk with
    | .ok (icao24', _) => icao24' = icao24
    | .error _         => false) && (details icao24).isOk

/-! ### The loops write in chunks -/

namespace EnrichmentState

variable {upsert}

/-- The state whose count is that of the flights written. -/
def counting (flights : ChunkedWrites HttpError Flight) (seen : List String) : EnrichmentState :=
  ⟨flights, seen, flights.written.length⟩

variable {w : ChunkedWrites HttpError Flight} {seen : List String} {flight : Flight}

@[simp] lemma counting_flights : (counting w seen).flights = w := rfl

@[simp] lemma counting_seen : (counting w seen).seen = seen := rfl

@[simp] lemma counting_enriched : (counting w seen).enriched = w.written.length := rfl

lemma flush_counting :
    (counting w seen).flush upsert = (counting (w.flush upsert).1 seen, (w.flush upsert).2) := by
  unfold flush
  split
  next w' hflush =>
    rw [counting_flights] at hflush
    have hwritten : w'.written = w.written ++ w.buffer := by
      simpa [hflush] using ChunkedWrites.flush_written_of_ok (congrArg Prod.snd hflush)
    simp [hflush, hwritten, counting]
  next w' e hflush =>
    rw [counting_flights] at hflush
    have hwritten : w'.written = w.written := by
      simpa [hflush] using ChunkedWrites.flush_written_of_error (congrArg Prod.snd hflush)
    simp [hflush, hwritten, counting]

lemma add_counting :
    (counting w seen).add upsert flight =
      (counting (w.add upsert enrichmentChunk flight).1 seen,
        (w.add upsert enrichmentChunk flight).2) := by
  have hwait : { counting w seen with flights := w.wait flight } = counting (w.wait flight) seen :=
    rfl
  by_cases hfull : enrichmentChunk ≤ (w.wait flight).buffer.length
  · rw [ChunkedWrites.add, if_pos hfull, ← flush_counting, ← hwait]
    exact if_pos hfull
  · rw [ChunkedWrites.add, if_neg hfull, ← hwait]
    exact if_neg hfull

/-- The loop over the flights that are left adds those that are not seen. -/
lemma addUnseen_counting {active : List ActiveFlight} :
    addUnseen upsert active (counting w seen) =
      (counting (w.addAll upsert enrichmentChunk ((unseen active seen).map (·.flight none))).1 seen,
        (w.addAll upsert enrichmentChunk ((unseen active seen).map (·.flight none))).2) := by
  induction active generalizing w with
  | nil => rfl
  | cons a active ih =>
    by_cases ha : a.leg.icao24 ∈ seen
    · have hunseen : unseen (a :: active) seen = unseen active seen := by
        simp [unseen, ha]
      rw [addUnseen, counting_seen, if_pos ha, ih, hunseen]
    · have hunseen : unseen (a :: active) seen = a :: unseen active seen := by
        simp [unseen, ha]
      rw [addUnseen, counting_seen, if_neg ha, hunseen, List.map_cons, add_counting]
      rcases ChunkedWrites.ok_or_error (w.add upsert enrichmentChunk (a.flight none)).2 with
        hadd | ⟨e, hadd⟩
      · rw [ChunkedWrites.addAll_cons_ok hadd, hadd]
        exact ih
      · rw [ChunkedWrites.addAll_cons_error hadd, hadd]

end EnrichmentState

open EnrichmentState

variable {upsert} {active : List ActiveFlight} {w : ChunkedWrites HttpError Flight}
  {seen : List String}

/-- The flights whose trail comes, in the order of the trails. -/
def arrived (active : List ActiveFlight) (trails : List TrailResponse) : List Flight :=
  trails.filterMap fun trail =>
    (active.find? (·.leg.icao24 = trail.icao24)).map (·.flight (some trail))

/-- The aircraft is one of those that are active. -/
def IsActive (active : List ActiveFlight) (icao24 : String) : Prop :=
  ∃ a ∈ active, a.leg.icao24 = icao24

section

variable {trail : TrailResponse} {entry : ActiveFlight} {trails : List TrailResponse}

lemma arrived_cons_of_none (h : active.find? (·.leg.icao24 = trail.icao24) = none) :
    arrived active (trail :: trails) = arrived active trails := by
  simp [arrived, h]

lemma arrived_cons_of_some (h : active.find? (·.leg.icao24 = trail.icao24) = some entry) :
    arrived active (trail :: trails) = entry.flight (some trail) :: arrived active trails := by
  simp [arrived, h]

lemma not_isActive_of_none {icao24 : String} (h : active.find? (·.leg.icao24 = icao24) = none) :
    ¬IsActive active icao24 := by
  rintro ⟨a, ha, hicao⟩
  simpa [hicao] using List.find?_eq_none.mp h a ha

lemma isActive_of_some {icao24 : String} (h : active.find? (·.leg.icao24 = icao24) = some entry) :
    IsActive active icao24 :=
  ⟨entry, List.mem_of_find?_eq_some h, by simpa using List.find?_some h⟩

end

/-- The loop over the stream adds the flights whose trail comes; when no flush fails, it has seen
their aircraft. -/
lemma streamTrails_counting (upsert : ℕ → Except HttpError Unit) (active : List ActiveFlight)
    (raised : Option HttpError) (trails : List TrailResponse)
    (w : ChunkedWrites HttpError Flight) (seen : List String) :
    ∃ seen', (streamTrails upsert active raised trails (counting w seen)).1 =
        counting (w.addAll upsert enrichmentChunk (arrived active trails)).1 seen' ∧
      ((w.addAll upsert enrichmentChunk (arrived active trails)).2 = .ok () →
        ∀ icao24, icao24 ∈ seen' ↔ icao24 ∈ seen ∨
          IsActive active icao24 ∧ icao24 ∈ trails.map TrailResponse.icao24) := by
  induction trails generalizing w seen with
  | nil =>
    refine ⟨seen, ?_, fun _ icao24 => by simp⟩
    cases raised <;> rfl
  | cons trail trails ih =>
    cases hfind : active.find? (·.leg.icao24 = trail.icao24) with
    | none =>
      obtain ⟨seen', hstate, hseen⟩ := ih w seen
      rw [arrived_cons_of_none hfind]
      refine ⟨seen', ?_, fun hok icao24 => ?_⟩
      · rw [streamTrails, hfind]
        exact hstate
      · rw [hseen hok, List.map_cons, List.mem_cons]
        constructor
        · tauto
        · rintro (h | ⟨hactive, rfl | h⟩)
          · exact .inl h
          · exact absurd hactive (not_isActive_of_none hfind)
          · exact .inr ⟨hactive, h⟩
    | some entry =>
      have hseen : { counting w seen with seen := trail.icao24 :: (counting w seen).seen } =
          counting w (trail.icao24 :: seen) := rfl
      rw [arrived_cons_of_some hfind, streamTrails, hfind]
      simp only [hseen, add_counting]
      rcases ChunkedWrites.ok_or_error
        (w.add upsert enrichmentChunk (entry.flight (some trail))).2 with hadd | ⟨e, hadd⟩
      · rw [ChunkedWrites.addAll_cons_ok hadd, hadd]
        obtain ⟨seen', hstate, hseen'⟩ := ih
          (w.add upsert enrichmentChunk (entry.flight (some trail))).1 (trail.icao24 :: seen)
        refine ⟨seen', hstate, fun hok icao24 => ?_⟩
        rw [hseen' hok, List.mem_cons, List.map_cons, List.mem_cons]
        constructor
        · rintro ((rfl | h) | ⟨hactive, h⟩)
          · exact .inr ⟨isActive_of_some hfind, .inl rfl⟩
          · exact .inl h
          · exact .inr ⟨hactive, .inr h⟩
        · tauto
      · rw [ChunkedWrites.addAll_cons_error hadd, hadd]
        exact ⟨trail.icao24 :: seen, rfl, fun hok => nomatch hok⟩

/-- What is written and waits after the flights whose trail comes. -/
def trailWrites (upsert : ℕ → Except HttpError Unit) (active : List ActiveFlight)
    (stream : TrailStream) : ChunkedWrites HttpError Flight × Except HttpError Unit :=
  ChunkedWrites.addAll upsert enrichmentChunk {} (arrived active stream.trails.rows)

/-- What the `try` leaves. -/
lemma readTrails_counting (upsert : ℕ → Except HttpError Unit) (active : List ActiveFlight)
    (stream : TrailStream) :
    ∃ seen, readTrails upsert active stream =
        counting (trailWrites upsert active stream).1 seen ∧
      ((trailWrites upsert active stream).2 = .ok () →
        ∀ icao24, icao24 ∈ seen ↔
          IsActive active icao24 ∧ icao24 ∈ stream.trails.rows.map TrailResponse.icao24) := by
  cases active with
  | nil =>
    have harrived : arrived [] stream.trails.rows = [] := by simp [arrived]
    rw [trailWrites, harrived]
    exact ⟨[], rfl, fun _ icao24 => by simp [IsActive]⟩
  | cons a active =>
    obtain ⟨seen, hstate, hseen⟩ := streamTrails_counting upsert (a :: active) stream.raised
      stream.trails.rows {} []
    refine ⟨seen, hstate, fun hok icao24 => ?_⟩
    simpa using hseen hok icao24

lemma enrichActive_counting {stream : TrailStream}
    (h : readTrails upsert active stream = counting w seen) :
    enrichActive upsert active stream =
      (counting (w.drain upsert enrichmentChunk ((unseen active seen).map (·.flight none))).1 seen,
        (w.drain upsert enrichmentChunk ((unseen active seen).map (·.flight none))).2) := by
  rw [enrichActive, h, addUnseen_counting]
  rcases ChunkedWrites.ok_or_error
    (w.addAll upsert enrichmentChunk ((unseen active seen).map (·.flight none))).2 with
    hadd | ⟨e, hadd⟩
  · rw [ChunkedWrites.drain_of_ok hadd, hadd]
    exact flush_counting
  · rw [ChunkedWrites.drain_of_error hadd, hadd]

variable (upsert active) in
/-- The writes of the stream agree with what is raised in it. -/
lemma trailWrites_ends (stream : TrailStream) :
    (trailWrites upsert active stream).1.Ends (trailWrites upsert active stream).2 :=
  ChunkedWrites.addAll_ends (by simp [ChunkedWrites.Clean])

/-- No flush fails among the trails when none of the first calls does. -/
lemma trailWrites_ok_iff {stream : TrailStream} :
    (trailWrites upsert active stream).2 = .ok () ↔
      ∀ n < (arrived active stream.trails.rows).length / enrichmentChunk, upsert n = .ok () := by
  rw [trailWrites, ChunkedWrites.addAll_ok_iff (by decide)]
  simp

/-- The active flights, each with its trail if that has come. -/
lemma arrived_append_unseen_perm {trails : Table TrailResponse.icao24}
    (hactive : (active.map fun a => a.leg.icao24).Nodup)
    (hseen : ∀ icao24, icao24 ∈ seen ↔
      IsActive active icao24 ∧ icao24 ∈ trails.rows.map TrailResponse.icao24) :
    (arrived active trails.rows ++ (unseen active seen).map (·.flight none)).Perm
      (active.map fun a => a.flight (trails.lookup a.leg.icao24)) := by
  let flights : Table fun a : ActiveFlight => a.leg.icao24 := ⟨active, hactive⟩
  have harrived : arrived active trails.rows =
      (trails.join flights).map fun p => p.2.flight (some p.1) := by
    simp only [arrived, Table.join, List.map_filterMap, Option.map_map]
    rfl
  have hjoin : (arrived active trails.rows).Perm
      ((flights.join trails).map fun p => p.1.flight (some p.2)) := by
    rw [harrived]
    refine ((trails.join_perm flights).map _).trans ?_
    rw [List.map_map]
    rfl
  have hunseen : unseen active seen =
      flights.rows.filter fun a => trails.lookup a.leg.icao24 = none := by
    refine List.filter_congr fun a ha => ?_
    have hmem : IsActive active a.leg.icao24 := ⟨a, ha, rfl⟩
    rw [decide_eq_decide, hseen, Table.lookup_eq_none_iff]
    simp [hmem]
  rw [hunseen]
  exact (hjoin.append_right _).trans
    (flights.map_join_append trails fun a trail => a.flight trail)

/-- What the second phase leaves when no flush fails among the trails: its writes agree with what it
raises, and if it raises nothing every active flight is written and counted. -/
structure Enriches (active : List ActiveFlight) (trails : Table TrailResponse.icao24)
    (run : EnrichmentState × Except HttpError Unit) : Prop where
  ends : run.1.flights.Ends run.2
  written : run.2 = .ok () →
    run.1.flights.written.Perm (active.map fun a => a.flight (trails.lookup a.leg.icao24))
  enriched : run.2 = .ok () → run.1.enriched = active.length

lemma enrichActive_enriches {stream : TrailStream}
    (hactive : (active.map fun a => a.leg.icao24).Nodup)
    (h : (trailWrites upsert active stream).2 = .ok ()) :
    Enriches active stream.trails (enrichActive upsert active stream) := by
  obtain ⟨seen, hread, hseen⟩ := readTrails_counting upsert active stream
  have hends := trailWrites_ends upsert active stream
  rw [h] at hends
  have hperm := arrived_append_unseen_perm hactive (hseen h)
  rw [enrichActive_counting hread]
  have hwritten : ((trailWrites upsert active stream).1.drain upsert enrichmentChunk
      ((unseen active seen).map (·.flight none))).2 = .ok () →
      ((trailWrites upsert active stream).1.drain upsert enrichmentChunk
        ((unseen active seen).map (·.flight none))).1.written =
        arrived active stream.trails.rows ++ (unseen active seen).map (·.flight none) := by
    intro hdrain
    have hcontents : (trailWrites upsert active stream).1.written ++
        (trailWrites upsert active stream).1.buffer = arrived active stream.trails.rows :=
      ChunkedWrites.addAll_contents h
    rw [ChunkedWrites.drain_written hdrain, hcontents]
  refine ⟨ChunkedWrites.drain_ends hends, fun hdrain => ?_, fun hdrain => ?_⟩
  · rw [counting_flights, hwritten hdrain]
    exact hperm
  · rw [counting_enriched, hwritten hdrain, hperm.length_eq, List.length_map]

/-- When a flush fails among the trails, its items wait, so another write comes after it. -/
lemma enrichActive_writes_of_error {stream : TrailStream} {e : HttpError}
    (h : (trailWrites upsert active stream).2 = .error e) :
    ∃ before failed more, failed.outcome = .error e ∧
      (enrichActive upsert active stream).1.flights.writes = before ++ failed :: more ∧
      more ≠ [] := by
  obtain ⟨seen, hread, -⟩ := readTrails_counting upsert active stream
  have hends := trailWrites_ends upsert active stream
  rw [h] at hends
  obtain ⟨before, hwrites, -, hbuffer⟩ := hends
  obtain ⟨x, more, hmore⟩ := ChunkedWrites.drain_writes hbuffer
  refine ⟨before, ⟨(trailWrites upsert active stream).1.buffer, .error e⟩, x :: more, rfl, ?_,
    List.cons_ne_nil x more⟩
  rw [enrichActive_counting hread, counting_flights, hmore, hwrites, List.append_assoc]
  rfl

/-! ### The candidates -/

variable {flightPks : List String} {details : String → Except BodyException FlightDetail}
  {stream : TrailStream} {candidates latest : List Leg} {outcomes : List (Leg × DetailOutcome)}

/-- The legs are collapsed unless a timestamp overflows. -/
lemma exists_latestLegs_iff :
    (∃ candidates, latestLegs flightPks latest = .ok candidates) ↔
      ∀ pk ∈ flightPks, parseFlightId pk ≠ .error .overflowError := by
  induction flightPks generalizing latest with
  | nil => exact iff_of_true ⟨latest, rfl⟩ (by simp)
  | cons pk flightPks ih =>
    rw [latestLegs, List.forall_mem_cons]
    split
    next icao24 ts hpk => rw [ih, hpk]; simp
    next hpk => rw [ih, hpk]; simp
    next hpk => simp [hpk]

lemma fetchDetail_ok_iff {fetched : Except BodyException FlightDetail} :
    (∃ outcome, fetchDetail fetched = .ok outcome) ↔ RaisesHttpOnly fetched := by
  unfold fetchDetail
  split
  next => simp [RaisesHttpOnly]
  next => simp [RaisesHttpOnly]
  next => simp [RaisesHttpOnly]
  next e hnot hother =>
    cases e with
    | http e => exact absurd rfl (hother e)
    | settings e => simp [RaisesHttpOnly]
    | validation origin e => simp [RaisesHttpOnly]
    | other kind text => simp [RaisesHttpOnly]

lemma exists_gatherDetails_iff :
    (∃ outcomes, gatherDetails details candidates = .ok outcomes) ↔
      ∀ leg ∈ candidates, RaisesHttpOnly (details leg.icao24) := by
  rw [gatherDetails, exists_mapM_ok_iff]
  refine forall₂_congr fun leg _ => ?_
  rw [← fetchDetail_ok_iff]
  cases fetchDetail (details leg.icao24) with
  | ok outcome => simp [Except.map]
  | error e => simp [Except.map]

/-- The candidates are active, inactive or failed. -/
lemma gatherDetails_spec (h : gatherDetails details candidates = .ok outcomes) :
    activeOutcomes outcomes = activeLegs details candidates ∧
      (activeOutcomes outcomes).length + outcomes.countP (·.2 = .inactive) +
        outcomes.countP (·.2 = .failed) = candidates.length := by
  induction candidates generalizing outcomes with
  | nil =>
    obtain rfl := Except.ok.inj h
    exact ⟨rfl, rfl⟩
  | cons leg candidates ih =>
    obtain ⟨p, more, hp, hmore, rfl⟩ := mapM_cons_eq_ok_iff.mp h
    obtain ⟨hactive, hcount⟩ := ih hmore
    unfold fetchDetail at hp
    split at hp
    next detail hdetail =>
      obtain rfl := Except.ok.inj hp
      have hcons : activeOutcomes ((leg, .ok detail) :: more) =
          ⟨leg, detail⟩ :: activeOutcomes more := rfl
      refine ⟨?_, ?_⟩
      · rw [hcons, hactive, activeLegs, activeLegs, List.filterMap_cons_some (by rw [hdetail])]
      · rw [hcons, List.length_cons, List.length_cons, List.countP_cons_of_neg (by simp),
          List.countP_cons_of_neg (by simp)]
        omega
    next text hdetail =>
      obtain rfl := Except.ok.inj hp
      have hcons : activeOutcomes ((leg, .inactive) :: more) = activeOutcomes more := rfl
      refine ⟨?_, ?_⟩
      · rw [hcons, hactive, activeLegs, activeLegs, List.filterMap_cons_none (by rw [hdetail])]
      · rw [hcons, List.length_cons, List.countP_cons_of_pos (by simp),
          List.countP_cons_of_neg (by simp)]
        omega
    next e _ hdetail =>
      obtain rfl := Except.ok.inj hp
      have hcons : activeOutcomes ((leg, .failed) :: more) = activeOutcomes more := rfl
      refine ⟨?_, ?_⟩
      · rw [hcons, hactive, activeLegs, activeLegs, List.filterMap_cons_none (by rw [hdetail])]
      · rw [hcons, List.length_cons, List.countP_cons_of_neg (by simp),
          List.countP_cons_of_pos (by simp)]
        omega
    next e _ _ hdetail => cases hp

/-- One leg an aircraft is active. -/
lemma activeLegs_nodup (h : (candidates.map Leg.icao24).Nodup) :
    ((activeLegs details candidates).map fun a => a.leg.icao24).Nodup := by
  refine List.Sublist.nodup ?_ h
  induction candidates with
  | nil => rfl
  | cons leg candidates ih =>
    have hsub := ih (List.nodup_cons.mp h).2
    cases hdetail : details leg.icao24 with
    | ok detail =>
      rw [activeLegs, List.filterMap_cons_some (by rw [hdetail])]
      exact hsub.cons_cons _
    | error e =>
      rw [activeLegs, List.filterMap_cons_none (by rw [hdetail])]
      exact hsub.cons _

/-- The aircraft of the candidates are those of the tenant's flights. -/
lemma LegsOf.exists_icao24_iff (h : LegsOf flightPks candidates) {icao24 : String} :
    (∃ leg ∈ candidates, leg.icao24 = icao24) ↔
      ∃ pk ∈ flightPks, ∃ ts, parseFlightId pk = .ok (icao24, ts) := by
  constructor
  · rintro ⟨leg, hleg, rfl⟩
    obtain ⟨hmem, hparse⟩ := h.mem leg hleg
    exact ⟨leg.flightId, hmem, leg.takeoffTs, hparse⟩
  · rintro ⟨pk, hpk, ts, hparse⟩
    obtain ⟨leg, hleg, hicao, -⟩ := h.covers pk hpk icao24 ts hparse
    exact ⟨leg, hleg, hicao⟩

lemma hasDetail_iff {icao24 : String} :
    hasDetail flightPks details icao24 = true ↔
      (∃ pk ∈ flightPks, ∃ ts, parseFlightId pk = .ok (icao24, ts)) ∧
        ∃ detail, details icao24 = .ok detail := by
  rw [hasDetail, Bool.and_eq_true, List.any_eq_true]
  refine and_congr (exists_congr fun pk => and_congr_right fun _ => ?_) ?_
  · cases parseFlightId pk with
    | ok leg => simp [Prod.ext_iff]
    | error e => simp
  · cases details icao24 with
    | ok detail => simp [Except.isOk, Except.toBool]
    | error e => simp [Except.isOk, Except.toBool]

lemma isActive_activeLegs_iff (h : LegsOf flightPks candidates) {icao24 : String} :
    IsActive (activeLegs details candidates) icao24 ↔ hasDetail flightPks details icao24 = true := by
  rw [hasDetail_iff, ← h.exists_icao24_iff]
  constructor
  · rintro ⟨a, ha, rfl⟩
    obtain ⟨leg, hleg, heq⟩ := List.mem_filterMap.mp ha
    split at heq
    next detail hdetail =>
      obtain rfl := Option.some.inj heq
      exact ⟨⟨leg, hleg, rfl⟩, detail, hdetail⟩
    next => cases heq
  · rintro ⟨⟨leg, hleg, rfl⟩, detail, hdetail⟩
    exact ⟨⟨leg, detail⟩, List.mem_filterMap.mpr ⟨leg, hleg, by rw [hdetail]⟩, rfl⟩

/-- The trails that are added are those of aircraft with a detail. -/
lemma length_arrived (h : LegsOf flightPks candidates) (trails : List TrailResponse) :
    (arrived (activeLegs details candidates) trails).length =
      trails.countP fun t => hasDetail flightPks details t.icao24 := by
  rw [arrived, List.length_filterMap_eq_countP]
  refine List.countP_congr fun trail _ => ?_
  rw [← isActive_activeLegs_iff h, Option.isSome_map, List.find?_isSome]
  simp [IsActive]

/-! ### Runs -/

variable (upsert stream) in
/-- The calls of a run, once its candidates are known. -/
lemma enrichedSyncFlights_calls (hcandidates : latestLegs flightPks [] = .ok candidates)
    (houtcomes : gatherDetails details candidates = .ok outcomes) :
    (enrichedSyncFlights upsert flightPks details stream).calls =
      (enrichActive upsert (activeOutcomes outcomes) stream).1.flights.writes := by
  simp only [enrichedSyncFlights, hcandidates, houtcomes]
  split
  next hactive => rw [hactive]
  next hactive => rw [hactive]

lemma enrichedSyncFlights_error (hcandidates : latestLegs flightPks [] = .ok candidates)
    (houtcomes : gatherDetails details candidates = .ok outcomes) {e : HttpError}
    (h : (enrichActive upsert (activeOutcomes outcomes) stream).2 = .error e) :
    (enrichedSyncFlights upsert flightPks details stream).result = .error (.upsert e) := by
  simp only [enrichedSyncFlights, hcandidates, houtcomes]
  split
  next hactive =>
    rw [hactive] at h
    rw [Except.error.inj h]
  next hactive =>
    rw [hactive] at h
    cases h

lemma enrichedSyncFlights_ok (hcandidates : latestLegs flightPks [] = .ok candidates)
    (houtcomes : gatherDetails details candidates = .ok outcomes)
    (h : (enrichActive upsert (activeOutcomes outcomes) stream).2 = .ok ()) :
    (enrichedSyncFlights upsert flightPks details stream).result =
      .ok ⟨flightPks.length, candidates.length,
        (enrichActive upsert (activeOutcomes outcomes) stream).1.enriched,
        outcomes.countP (·.2 = .inactive), outcomes.countP (·.2 = .failed)⟩ := by
  simp only [enrichedSyncFlights, hcandidates, houtcomes]
  split
  next hactive =>
    rw [hactive] at h
    cases h
  next hactive => rw [hactive]

/-- A run in which no upsert fails among the trails. -/
lemma handlesFailures_of_trails_ok (hcandidates : latestLegs flightPks [] = .ok candidates)
    (houtcomes : gatherDetails details candidates = .ok outcomes)
    (h : (trailWrites upsert (activeLegs details candidates) stream).2 = .ok ()) :
    HandlesFailures flightPks details stream
      (enrichedSyncFlights upsert flightPks details stream) := by
  obtain ⟨hactive, hcount⟩ := gatherDetails_spec houtcomes
  have hlegs : LegsOf flightPks candidates := latestLegs_ok legsOf_nil hcandidates
  have hcalls := enrichedSyncFlights_calls upsert stream hcandidates houtcomes
  have hspec := enrichActive_enriches (activeLegs_nodup hlegs.distinct) h
  rw [← hactive] at hspec
  have hends := hspec.ends
  rcases ChunkedWrites.ok_or_error
    (enrichActive upsert (activeOutcomes outcomes) stream).2 with hok | ⟨e, herror⟩
  · rw [hok] at hends
    have hresult := enrichedSyncFlights_ok hcandidates houtcomes hok
    refine ⟨fun _ => ⟨candidates, _, hcandidates, hresult, ?_, ?_⟩, ?_⟩
    · rw [hcalls, ← hends.written_eq, ← hactive]
      exact hspec.written hok
    · have henriched := hspec.enriched hok
      simp only [henriched]
      omega
    · intro before call after e heq hcall
      have hcallOk := hends call (by rw [← hcalls, heq]; simp)
      rw [hcall] at hcallOk
      cases hcallOk
  · rw [herror] at hends
    have hresult := enrichedSyncFlights_error hcandidates houtcomes herror
    refine ⟨fun hall => ?_, ?_⟩
    · obtain ⟨before, hwrites, -, -⟩ := hends
      have hok := hall _ (by rw [hcalls, hwrites]; exact List.mem_append_right _ List.mem_cons_self)
      cases hok
    · intro before call after e' heq hcall
      obtain ⟨rfl, rfl⟩ := hends.eq_last (hcalls.symm.trans heq) hcall
      exact ⟨rfl, hresult⟩

/-- An upsert that fails among the trails is not the last one. -/
lemma not_handlesFailures_of_trails_error
    (hcandidates : latestLegs flightPks [] = .ok candidates)
    (houtcomes : gatherDetails details candidates = .ok outcomes) {e : HttpError}
    (h : (trailWrites upsert (activeLegs details candidates) stream).2 = .error e) :
    ¬HandlesFailures flightPks details stream
      (enrichedSyncFlights upsert flightPks details stream) := by
  intro hhandles
  have hcalls := enrichedSyncFlights_calls upsert stream hcandidates houtcomes
  rw [(gatherDetails_spec houtcomes).1] at hcalls
  obtain ⟨before, failed, more, hfailed, hwrites, hmore⟩ := enrichActive_writes_of_error h
  obtain ⟨hnil, -⟩ := hhandles.propagates before failed more e (hcalls.trans hwrites) hfailed
  exact hmore hnil

/-- A run handles its failures exactly when no takeoff time overflows, no detail raises anything but
an `httpx.HTTPError`, and no upsert made while the trails are read fails. -/
theorem enrichment_handles_failures_iff (upsert : ℕ → Except HttpError Unit)
    (flightPks : List String) (details : String → Except BodyException FlightDetail)
    (stream : TrailStream) :
    HandlesFailures flightPks details stream
        (enrichedSyncFlights upsert flightPks details stream) ↔
      (∀ pk ∈ flightPks, parseFlightId pk ≠ .error .overflowError) ∧
      (∀ pk ∈ flightPks, ∀ icao24 ts, parseFlightId pk = .ok (icao24, ts) →
        RaisesHttpOnly (details icao24)) ∧
      ∀ n < (stream.trails.rows.countP fun t => hasDetail flightPks details t.icao24) /
        enrichmentChunk, upsert n = .ok () := by
  cases hcandidates : latestLegs flightPks [] with
  | error e =>
    have hoverflow := mt exists_latestLegs_iff.mpr (by rw [hcandidates]; simp)
    refine iff_of_false (fun h => ?_) fun h => hoverflow h.1
    obtain ⟨_, _, hok, -⟩ := h.complete (by simp [enrichedSyncFlights, hcandidates])
    cases hcandidates.symm.trans hok
  | ok candidates =>
    have hlegs : LegsOf flightPks candidates := latestLegs_ok legsOf_nil hcandidates
    have hparse := exists_latestLegs_iff.mp ⟨candidates, hcandidates⟩
    have hdetails : (∀ pk ∈ flightPks, ∀ icao24 ts, parseFlightId pk = .ok (icao24, ts) →
        RaisesHttpOnly (details icao24)) ↔ ∀ leg ∈ candidates, RaisesHttpOnly (details leg.icao24) := by
      constructor
      · intro h leg hleg
        obtain ⟨hmem, hpk⟩ := hlegs.mem leg hleg
        exact h _ hmem _ _ hpk
      · intro h pk hpk icao24 ts hts
        obtain ⟨leg, hleg, rfl⟩ := hlegs.exists_icao24_iff.mpr ⟨pk, hpk, ts, hts⟩
        exact h leg hleg
    rw [hdetails, ← exists_gatherDetails_iff, ← length_arrived hlegs, ← trailWrites_ok_iff]
    cases houtcomes : gatherDetails details candidates with
    | error e =>
      refine iff_of_false (fun h => ?_) fun h => nomatch h.2.1
      obtain ⟨_, _, -, hresult, -⟩ :=
        h.complete (by simp [enrichedSyncFlights, hcandidates, houtcomes])
      simp [enrichedSyncFlights, hcandidates, houtcomes] at hresult
    | ok outcomes =>
      constructor
      · intro h
        refine ⟨hparse, ⟨outcomes, rfl⟩, ?_⟩
        rcases ChunkedWrites.ok_or_error
          (trailWrites upsert (activeLegs details candidates) stream).2 with hok | ⟨e, herror⟩
        · exact hok
        · exact absurd h (not_handlesFailures_of_trails_error hcandidates houtcomes herror)
      · rintro ⟨-, -, hok⟩
        exact handlesFailures_of_trails_ok hcandidates houtcomes hok

/-- The trails of fifty aircraft. -/
def fiftyTrails : TrailStream where
  trails := ⟨(List.range 50).map fun n => ⟨toString n, []⟩, by decide +kernel⟩
  raised := none

/-- The flights of fifty aircraft. -/
def fiftyFlights : List String := (List.range 50).map fun n => toString n ++ "-1700000000"

/-- A detail with nothing but the address. -/
def plainDetail (icao24 : String) : FlightDetail :=
  ⟨icao24, none, none, none, none, none, none, none, 0, 0, none, [], []⟩

/-- The first upsert is refused. -/
def refuseFirst : ℕ → Except HttpError Unit
  | 0     => .error (.transport "connection refused")
  | _ + 1 => .ok ()

/-- An upsert that fails with a full buffer of trails is tried again, and the run succeeds. -/
theorem trail_upsert_failure_swallowed :
    ¬∀ (upsert : ℕ → Except HttpError Unit) (flightPks : List String)
      (details : String → Except BodyException FlightDetail) (stream : TrailStream),
      HandlesFailures flightPks details stream
        (enrichedSyncFlights upsert flightPks details stream) := by
  intro h
  have hcalls : (enrichedSyncFlights refuseFirst fiftyFlights (.ok <| plainDetail ·)
      fiftyTrails).calls.map Write.outcome =
        [.error (.transport "connection refused"), .ok ()] := by decide +kernel
  obtain ⟨first, rest, heq, hfirst, hrest⟩ := List.map_eq_cons_iff.mp hcalls
  obtain ⟨hnil, -⟩ := (h refuseFirst fiftyFlights (.ok <| plainDetail ·) fiftyTrails).propagates
    [] first rest _ heq hfirst
  rw [hnil] at hrest
  cases hrest

end FleetMonitor
