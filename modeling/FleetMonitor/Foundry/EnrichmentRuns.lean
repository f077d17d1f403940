import FleetMonitor.Foundry.EnrichmentFailures
import FleetMonitor.Library.Runs

/-!
# A flight enrichment that nothing interrupts

The run of `enriched_sync_flights` as a function of what the API and the upserts answer is one of
the runs of `enrichmentStep`, which takes a step at a time and lets the tenant change between them.
-/

namespace FleetMonitor

open Library

variable (emitIsLive : Bool) (applied : HttpError → Bool)

/-- `enrichmentStep`, on the tenant and the phase together. -/
def enrichmentAct (c : ObjectSet × EnrichmentPhase) (a : EnrichmentAction) :
    Option (ObjectSet × EnrichmentPhase) :=
  enrichmentStep emitIsLive c.1 c.2 a

/-- What the tenant sees of a call; one that has raised may have been applied. -/
def postOutcome : Except HttpError Unit → PostOutcome
  | .ok ()   => .posted
  | .error e => .failed (applied e)

/-- The tenant after some calls of `upsert_flight_batch`. -/
def afterCalls (tenant : ObjectSet) (calls : List (Write HttpError Flight)) : ObjectSet :=
  calls.foldl (fun tenant call =>
    flushFlights emitIsLive tenant call.items (postOutcome applied call.outcome)) tenant

/-- What the API answers for an aircraft; a run that raises has no answer for it. -/
def detailOutcome (details : String → Except BodyException FlightDetail) (icao24 : String) :
    DetailOutcome :=
  match fetchDetail (details icao24) with
  | .ok outcome => outcome
  | .error _    => .failed

variable {emitIsLive applied} {upsert : ℕ → Except HttpError Unit} {tenant : ObjectSet}
  {active : List ActiveFlight} {s : EnrichmentState} {flight : Flight}

@[simp] lemma postOutcome_ok : postOutcome applied (.ok ()) = .posted := rfl

@[simp] lemma postOutcome_error (e : HttpError) :
    postOutcome applied (.error e) = .failed (applied e) := rfl

lemma afterCalls_concat (calls : List (Write HttpError Flight)) (call : Write HttpError Flight) :
    afterCalls emitIsLive applied tenant (calls ++ [call]) =
      flushFlights emitIsLive (afterCalls emitIsLive applied tenant calls) call.items
        (postOutcome applied call.outcome) := by
  simp [afterCalls]

/-- A flight that is added waits; when the buffer is full then, it is flushed. -/
inductive EnrichmentState.Adds (upsert : ℕ → Except HttpError Unit) (s : EnrichmentState)
    (flight : Flight) : EnrichmentState × Except HttpError Unit → Prop where
  | waits (h : (s.flights.buffer ++ [flight]).length < enrichmentChunk) :
      Adds upsert s flight ({ s with flights := s.flights.wait flight }, .ok ())
  | flushed (n : ℕ) (h : ¬(s.flights.buffer ++ [flight]).length < enrichmentChunk) :
      Adds upsert s flight
        (⟨⟨[], s.flights.writes ++ [⟨s.flights.buffer ++ [flight], .ok ()⟩]⟩, s.seen, n⟩, .ok ())
  | refused (e : HttpError) (h : ¬(s.flights.buffer ++ [flight]).length < enrichmentChunk) :
      Adds upsert s flight
        (⟨⟨s.flights.buffer ++ [flight],
            s.flights.writes ++ [⟨s.flights.buffer ++ [flight], .error e⟩]⟩, s.seen, s.enriched⟩,
          .error e)

lemma EnrichmentState.add_adds : Adds upsert s flight (s.add upsert flight) := by
  have hne : (s.flights.wait flight).buffer ≠ [] := by simp
  unfold add
  by_cases hfull : enrichmentChunk ≤ (s.flights.wait flight).buffer.length
  · have hroom : ¬(s.flights.buffer ++ [flight]).length < enrichmentChunk := not_lt.mpr hfull
    rw [if_pos hfull]
    rcases ChunkedWrites.ok_or_error (upsert (s.flights.wait flight).writes.length) with
      hupsert | ⟨e, hupsert⟩
    · rw [flush, ChunkedWrites.flush_of_ok hne hupsert]
      exact .flushed _ hroom
    · rw [flush, ChunkedWrites.flush_of_error hne hupsert]
      exact .refused e hroom
  · rw [if_neg hfull]
    exact .waits (not_le.mp hfull)

/-! ### The loops step by step -/

/-- The loop over the stream, from a buffer with room to the end of the `try`. -/
lemma streamTrails_leadsTo (raised : Option HttpError) (trails : List TrailResponse)
    (hroom : s.flights.buffer.length < enrichmentChunk) :
    LeadsTo (enrichmentAct emitIsLive)
      (afterCalls emitIsLive applied tenant s.flights.writes,
        .streaming active s.flights.buffer s.seen)
      (afterCalls emitIsLive applied tenant
          (streamTrails upsert active raised trails s).1.flights.writes,
        .detailOnly (unseen active (streamTrails upsert active raised trails s).1.seen)
          (streamTrails upsert active raised trails s).1.flights.buffer false) := by
  induction trails generalizing s with
  | nil =>
    have hstate : (streamTrails upsert active raised [] s).1 = s := by
      cases raised <;> rfl
    rw [hstate]
    refine .single (a := .trailsEnd) ?_
    simp [enrichmentAct, enrichmentStep, hroom]
  | cons trail trails ih =>
    cases hfind : active.find? (·.leg.icao24 = trail.icao24) with
    | none =>
      rw [streamTrails, hfind]
      refine .head (a := .trail trail) ?_ (ih hroom)
      simp [enrichmentAct, enrichmentStep, hroom, hfind]
    | some entry =>
      simp only [streamTrails, hfind]
      refine .head (a := .trail trail) (t := (afterCalls emitIsLive applied tenant s.flights.writes,
        .streaming active (s.flights.buffer ++ [entry.flight (some trail)])
          (trail.icao24 :: s.seen))) ?_ ?_
      · simp [enrichmentAct, enrichmentStep, hroom, hfind]
      · have hadds : EnrichmentState.Adds upsert { s with seen := trail.icao24 :: s.seen }
            (entry.flight (some trail)) _ := EnrichmentState.add_adds
        generalize EnrichmentState.add upsert { s with seen := trail.icao24 :: s.seen }
          (entry.flight (some trail)) = added at hadds ⊢
        cases hadds with
        | waits h =>
          exact ih (s := ⟨s.flights.wait (entry.flight (some trail)), trail.icao24 :: s.seen,
            s.enriched⟩) h
        | flushed n h =>
          refine .head (a := .flush .posted) ?_ (ih (Nat.zero_lt_succ 49))
          simp only [enrichmentAct, enrichmentStep, if_neg h, afterCalls_concat]
          rfl
        | refused e h =>
          refine .single (a := .flush (.failed (applied e))) ?_
          simp only [enrichmentAct, enrichmentStep, if_neg h, afterCalls_concat]
          rfl

/-- Where the loop over the rest leaves the run. -/
def afterRest (s : EnrichmentState) : Except HttpError Unit → EnrichmentPhase
  | .ok ()   => .detailOnly [] s.flights.buffer false
  | .error _ => .idle

variable (upsert) in
/-- The loop over the flights whose trail has not come. -/
lemma addUnseen_leadsTo :
    LeadsTo (enrichmentAct emitIsLive)
      (afterCalls emitIsLive applied tenant s.flights.writes,
        .detailOnly (unseen active s.seen) s.flights.buffer false)
      (afterCalls emitIsLive applied tenant (addUnseen upsert active s).1.flights.writes,
        afterRest (addUnseen upsert active s).1 (addUnseen upsert active s).2) := by
  induction active generalizing s with
  | nil => exact .refl _
  | cons a active ih =>
    by_cases ha : a.leg.icao24 ∈ s.seen
    · have hunseen : unseen (a :: active) s.seen = unseen active s.seen := by
        simp [unseen, ha]
      rw [hunseen, addUnseen, if_pos ha]
      exact ih
    · have hunseen : unseen (a :: active) s.seen = a :: unseen active s.seen := by
        simp [unseen, ha]
      have hadds : EnrichmentState.Adds upsert s (a.flight none) _ := EnrichmentState.add_adds
      simp only [hunseen, addUnseen, if_neg ha]
      refine .head (a := .next) (t := (afterCalls emitIsLive applied tenant s.flights.writes,
        .detailOnly (unseen active s.seen) (s.flights.buffer ++ [a.flight none])
          (decide (enrichmentChunk ≤ (s.flights.buffer ++ [a.flight none]).length)))) rfl ?_
      generalize s.add upsert (a.flight none) = added at hadds ⊢
      cases hadds with
      | waits h =>
        rw [decide_eq_false (not_le.mpr h)]
        exact ih (s := ⟨s.flights.wait (a.flight none), s.seen, s.enriched⟩)
      | flushed n h =>
        rw [decide_eq_true (not_lt.mp h)]
        refine .head (a := .flush .posted) ?_ (ih (s := ⟨⟨[], _⟩, s.seen, n⟩))
        simp [enrichmentAct, enrichmentStep, afterCalls_concat, afterRestFlush]
      | refused e h =>
        rw [decide_eq_true (not_lt.mp h)]
        refine .single (a := .flush (.failed (applied e))) ?_
        simp [enrichmentAct, enrichmentStep, afterCalls_concat, afterRestFlush,
          afterRest]

/-- The flush of what is left, and the end of the run. -/
lemma flush_leadsTo :
    LeadsTo (enrichmentAct emitIsLive)
      (afterCalls emitIsLive applied tenant s.flights.writes,
        .detailOnly [] s.flights.buffer false)
      (afterCalls emitIsLive applied tenant (s.flush upsert).1.flights.writes, .idle) := by
  by_cases hnil : s.flights.buffer = []
  · rw [EnrichmentState.flush, ChunkedWrites.flush_of_nil hnil]
    exact .single (a := .stop) rfl
  · rcases ChunkedWrites.ok_or_error (upsert s.flights.writes.length) with hupsert | ⟨e, hupsert⟩
    · rw [EnrichmentState.flush, ChunkedWrites.flush_of_ok hnil hupsert]
      refine .head (a := .flush .posted) (t := (afterCalls emitIsLive applied tenant
        (s.flights.writes ++ [⟨s.flights.buffer, .ok ()⟩]), .detailOnly [] [] false)) ?_
        (.single (a := .stop) rfl)
      simp [enrichmentAct, enrichmentStep, hnil, afterCalls_concat, afterRestFlush]
    · rw [EnrichmentState.flush, ChunkedWrites.flush_of_error hnil hupsert]
      refine .single (a := .flush (.failed (applied e))) ?_
      simp [enrichmentAct, enrichmentStep, hnil, afterCalls_concat, afterRestFlush]

/-! ### The run step by step -/

variable (emitIsLive applied upsert active) in
/-- The second phase, once the details have been fetched. -/
lemma enrichActive_leadsTo (stream : TrailStream) :
    LeadsTo (enrichmentAct emitIsLive) (tenant, fetched active)
      (afterCalls emitIsLive applied tenant
        (enrichActive upsert active stream).1.flights.writes, .idle) := by
  have hread : LeadsTo (enrichmentAct emitIsLive) (tenant, fetched active)
      (afterCalls emitIsLive applied tenant (readTrails upsert active stream).flights.writes,
        .detailOnly (unseen active (readTrails upsert active stream).seen)
          (readTrails upsert active stream).flights.buffer false) := by
    cases active with
    | nil => exact .refl _
    | cons a active =>
      exact streamTrails_leadsTo (s := {}) stream.raised stream.trails.rows (Nat.zero_lt_succ 49)
  refine hread.trans ((addUnseen_leadsTo upsert).trans ?_)
  unfold enrichActive
  split
  next s hrest =>
    rw [hrest]
    exact flush_leadsTo
  next s e hrest =>
    rw [hrest]
    exact .refl _

lemma fetchDetail_eq_ok_ok_iff {fetched : Except BodyException FlightDetail}
    {detail : FlightDetail} : fetchDetail fetched = .ok (.ok detail) ↔ fetched = .ok detail := by
  unfold fetchDetail
  split
  next => simp
  next => simp
  next => simp
  next => simp

variable {details : String → Except BodyException FlightDetail}

lemma detailOutcome_eq_ok_iff {icao24 : String} {detail : FlightDetail} :
    detailOutcome details icao24 = .ok detail ↔ details icao24 = .ok detail := by
  rw [← fetchDetail_eq_ok_ok_iff, detailOutcome]
  split
  next outcome hfetch => simp [hfetch]
  next e hfetch => simp [hfetch]

lemma activeFlights_detailOutcome {candidates : List Leg} :
    activeFlights (detailOutcome details) candidates = activeLegs details candidates := by
  refine List.filterMap_congr fun leg _ => ?_
  cases hdetail : details leg.icao24 with
  | ok detail => rw [detailOutcome_eq_ok_iff.mpr hdetail]
  | error e =>
    split
    next detail hok =>
      rw [detailOutcome_eq_ok_iff, hdetail] at hok
      cases hok
    next => rfl

/-- A run makes the calls it makes step by step, when nothing else happens to the tenant between its
listing and its end. -/
theorem enrichedSyncFlights_leadsTo (emitIsLive : Bool) (applied : HttpError → Bool)
    (upsert : ℕ → Except HttpError Unit) (tenant : ObjectSet) (objs : List OntologyObject)
    (order : List String) (details : String → Except BodyException FlightDetail)
    (stream : TrailStream) (horder : order.Perm (flightListing objs).allPks) :
    LeadsTo (enrichmentAct emitIsLive) (tenant, .listing objs)
      (afterCalls emitIsLive applied tenant
        (enrichedSyncFlights upsert order details stream).calls, .idle) := by
  cases hcandidates : latestLegs order [] with
  | error e =>
    simp only [enrichedSyncFlights, hcandidates]
    exact .single (a := .stop) rfl
  | ok candidates =>
    cases houtcomes : gatherDetails details candidates with
    | error e =>
      simp only [enrichedSyncFlights, hcandidates, houtcomes]
      exact .single (a := .stop) rfl
    | ok outcomes =>
      rw [enrichedSyncFlights_calls upsert stream hcandidates houtcomes,
        (gatherDetails_spec houtcomes).1, ← activeFlights_detailOutcome]
      refine .head (a := .fetch order (detailOutcome details)) ?_
        (enrichActive_leadsTo emitIsLive applied upsert _ stream)
      simp [enrichmentAct, enrichmentStep, horder, hcandidates]

end FleetMonitor
