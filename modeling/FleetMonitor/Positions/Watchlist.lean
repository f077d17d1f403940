import FleetMonitor.Library.Runs
import FleetMonitor.Positions.LiveQuery

/-!
# The watchlist

`WatchlistResource` reads the watched airports once, under a lock, into two caches: the airports and
the array of their coordinates. `infer_regions` picks an index by the coordinates and looks the
regions up by it in the airports. The steps of any number of calls are interleaved here as they
would be on threads.
-/

namespace FleetMonitor.Watchlist

open Library

/-- `WatchedAirport`: a row of `ref.airports WHERE is_watched = TRUE`. -/
structure WatchedAirport where
  icao : String
  lat : ℚ
  lon : ℚ
  customerRegions : List CustomerRegion
  deriving DecidableEq, Repr

/-- The coordinates of an airport. -/
def WatchedAirport.coords (a : WatchedAirport) : ℚ × ℚ := (a.lat, a.lon)

/-- `_haversine_meters_to_airports` for one position and one airport. -/
abbrev Distance := ℚ × ℚ → ℚ × ℚ → ℚ

/-- `REGION_INFERENCE_RADIUS_METERS`. -/
def regionInferenceRadiusMeters : ℚ := 50 * 1852

/-! ### A position -/

/-- `np.argmin`: the first index of a least distance. -/
def argmin (distances : List ℚ) : ℕ := distances.findIdx fun d => distances.all (d ≤ ·)

/-- The regions for a position, `none` where a coordinate is not finite; it fails where there is no
coordinate to take the least distance of, or the index is not one of an airport. -/
def regionsAt (dist : Distance) (airports : List WatchedAirport) (coords : List (ℚ × ℚ)) :
    Option (ℚ × ℚ) → Option (Option (List CustomerRegion))
  | none          => some none
  | some position =>
    let distances := coords.map (dist position)
    let nearest := argmin distances
    distances[nearest]?.bind fun d =>
      if d ≤ regionInferenceRadiusMeters then airports[nearest]?.map fun a => some a.customerRegions
      else some none

/-- The regions for all positions of a call. -/
def regionsOf (dist : Distance) (airports : List WatchedAirport) (coords : List (ℚ × ℚ))
    (positions : List (Option (ℚ × ℚ))) : Option (List (Option (List CustomerRegion))) :=
  positions.mapM (regionsAt dist airports coords)

/-! ### Calls -/

/-- How a call ends. -/
inductive Outcome where
  | regions (results : List (Option (List CustomerRegion)))
  /-- `RuntimeError`: no airport is watched. -/
  | noWatchedAirports
  /-- The query raises. -/
  | queryFailed
  /-- `assert self._coords_cache is not None`. -/
  | assertionError
  | indexError
  deriving DecidableEq, Repr

/-- Where a call is; it carries the positions it was called with. -/
inductive Phase where
  /-- It has not been called, or has ended. -/
  | idle
  /-- It comes to the check without the lock. -/
  | checking (positions : List (Option (ℚ × ℚ)))
  /-- It waits for the lock. -/
  | locking (positions : List (Option (ℚ × ℚ)))
  /-- It comes to the check under the lock. -/
  | rechecking (positions : List (Option (ℚ × ℚ)))
  /-- It has to read the airports. -/
  | loading (positions : List (Option (ℚ × ℚ)))
  /-- It has read them and has to assign `_airports_cache`. -/
  | loaded (positions : List (Option (ℚ × ℚ))) (rows : List WatchedAirport)
  /-- It has to assign `_coords_cache`. -/
  | assigning (positions : List (Option (ℚ × ℚ))) (rows : List WatchedAirport)
  /-- It has to leave the lock. -/
  | unlocking (positions : List (Option (ℚ × ℚ)))
  /-- It has to copy `_airports_cache`. -/
  | copying (positions : List (Option (ℚ × ℚ)))
  /-- It has the airports and comes to the second assertion. -/
  | inferring (positions : List (Option (ℚ × ℚ))) (airports : List WatchedAirport)
  deriving DecidableEq

/-- The resource, where each call is, and for the specification what was read and how calls ended.
-/
structure State where
  airportsCache : Option (List WatchedAirport)
  coordsCache : Option (List (ℚ × ℚ))
  lock : Option ℕ
  phases : ℕ → Phase
  reads : List (List WatchedAirport)
  ended : List (List (Option (ℚ × ℚ)) × Outcome)

/-- `call`: a thread calls `infer_regions`; `step`: it goes on; `answer`: the database answers its
query, `none` when the query raises. -/
inductive Action where
  | call (t : ℕ) (positions : List (Option (ℚ × ℚ)))
  | step (t : ℕ)
  | answer (t : ℕ) (rows : Option (List WatchedAirport))

def State.setPhase (s : State) (t : ℕ) (phase : Phase) : State :=
  { s with phases := Function.update s.phases t phase }

/-- The call ends; when it holds the lock it leaves it. -/
def State.finish (s : State) (t : ℕ) (positions : List (Option (ℚ × ℚ))) (outcome : Outcome) :
    State :=
  { s.setPhase t .idle with
    lock := if s.lock = some t then none else s.lock
    ended := s.ended ++ [(positions, outcome)] }

variable (dist : Distance)

/-- A thread goes on. -/
def advance (s : State) (t : ℕ) : Option State :=
  match s.phases t with
  | .idle => none
  | .checking positions =>
    some (s.setPhase t (if s.airportsCache = none then .locking positions else .copying positions))
  | .locking positions =>
    if s.lock = none then some { s.setPhase t (.rechecking positions) with lock := some t } else none
  | .rechecking positions =>
    some (s.setPhase t (if s.airportsCache = none then .loading positions else .unlocking positions))
  | .loading _ => none
  | .loaded positions rows =>
    some { s.setPhase t (.assigning positions rows) with airportsCache := some rows }
  | .assigning positions rows =>
    some { s.setPhase t (.unlocking positions) with
      coordsCache := some (rows.map WatchedAirport.coords) }
  | .unlocking positions => some { s.setPhase t (.copying positions) with lock := none }
  | .copying positions =>
    match s.airportsCache with
    | none          => some (s.finish t positions .assertionError)
    | some airports => some (s.setPhase t (.inferring positions airports))
  | .inferring positions airports =>
    match s.coordsCache with
    | none        => some (s.finish t positions .assertionError)
    | some coords =>
      match regionsOf dist airports coords positions with
      | none         => some (s.finish t positions .indexError)
      | some results => some (s.finish t positions (.regions results))

def act (s : State) : Action → Option State
  | .call t positions =>
    match s.phases t with
    | .idle => some (s.setPhase t (.checking positions))
    | _     => none
  | .step t => advance dist s t
  | .answer t rows =>
    match s.phases t, rows with
    | .loading positions, none      => some (s.finish t positions .queryFailed)
    | .loading positions, some []   => some (s.finish t positions .noWatchedAirports)
    | .loading positions, some (a :: rows) =>
      some { s.setPhase t (.loaded positions (a :: rows)) with reads := s.reads ++ [a :: rows] }
    | _, _ => none

/-- A resource that has just been made. -/
structure Fresh (s : State) : Prop where
  airportsCache : s.airportsCache = none
  coordsCache : s.coordsCache = none
  lock : s.lock = none
  phases : ∀ t, s.phases t = .idle
  reads : s.reads = []
  ended : s.ended = []

/-! ### What a call has found -/

/-- A position far from all airports has no regions, another one those of an airport nearest to it.
-/
def Inferred (dist : Distance) (rows : List WatchedAirport) :
    Option (ℚ × ℚ) → Option (List CustomerRegion) → Prop
  | none, result => result = none
  | some position, none => ∀ a ∈ rows, regionInferenceRadiusMeters < dist position a.coords
  | some position, some regions => ∃ a ∈ rows, regions = a.customerRegions ∧
      dist position a.coords ≤ regionInferenceRadiusMeters ∧
      ∀ b ∈ rows, dist position a.coords ≤ dist position b.coords

/-- The index found is that of a least distance. -/
lemma argmin_spec {distances : List ℚ} (h : distances ≠ []) :
    ∃ d, distances[argmin distances]? = some d ∧ d ∈ distances ∧ ∀ e ∈ distances, d ≤ e := by
  obtain ⟨least, hleast, hle⟩ : ∃ d ∈ distances, ∀ e ∈ distances, d ≤ e := by
    obtain ⟨d, hd⟩ := List.exists_mem_of_ne_nil distances h
    exact ⟨distances.min h, List.min_mem h, fun e he => List.min_le_of_mem he⟩
  have hlt : argmin distances < distances.length :=
    List.findIdx_lt_length_of_exists ⟨least, hleast, by simpa using hle⟩
  refine ⟨distances[argmin distances], List.getElem?_eq_getElem hlt, List.getElem_mem hlt, ?_⟩
  have hfound : distances.all (distances[argmin distances] ≤ ·) = true := List.findIdx_getElem (w := hlt)
  simpa using hfound

/-- With the coordinates of the airports themselves the index is that of a nearest airport. -/
lemma exists_regionsAt {rows : List WatchedAirport} (hrows : rows ≠ [])
    (position : Option (ℚ × ℚ)) :
    ∃ result, regionsAt dist rows (rows.map WatchedAirport.coords) position = some result ∧
      Inferred dist rows position result := by
  cases position with
  | none => exact ⟨none, rfl, rfl⟩
  | some position =>
    have hindex : (rows.map WatchedAirport.coords).map (dist position) =
        rows.map fun a => dist position a.coords := List.map_map
    rw [regionsAt, hindex]
    have hne : (rows.map fun a => dist position a.coords) ≠ [] := by simpa using hrows
    obtain ⟨d, hd, -, hle⟩ := argmin_spec hne
    have hall : ∀ a ∈ rows, d ≤ dist position a.coords := fun a ha => hle _ (List.mem_map_of_mem ha)
    simp only [hd, Option.bind_some]
    by_cases hnear : d ≤ regionInferenceRadiusMeters
    · rw [if_pos hnear]
      rw [List.getElem?_map, Option.map_eq_some_iff] at hd
      obtain ⟨a, ha, rfl⟩ := hd
      rw [ha]
      exact ⟨some a.customerRegions, rfl, a, List.mem_of_getElem? ha, rfl, hnear, hall⟩
    · rw [if_neg hnear]
      exact ⟨none, rfl, fun a ha => lt_of_lt_of_le (not_le.mp hnear) (hall a ha)⟩

/-- The same for all positions of a call. -/
lemma exists_regionsOf {rows : List WatchedAirport} (hrows : rows ≠ [])
    (positions : List (Option (ℚ × ℚ))) :
    ∃ results, regionsOf dist rows (rows.map WatchedAirport.coords) positions = some results ∧
      List.Forall₂ (Inferred dist rows) positions results := by
  induction positions with
  | nil => exact ⟨[], rfl, .nil⟩
  | cons position positions ih =>
    obtain ⟨result, hresult, hinferred⟩ := exists_regionsAt dist hrows position
    obtain ⟨results, hresults, hall⟩ := ih
    refine ⟨result :: results, ?_, .cons hinferred hall⟩
    rw [regionsOf] at hresults ⊢
    simp [hresult, hresults]

/-! ### The invariant -/

/-- A call in this phase has the lock. -/
def Phase.holding : Phase → Bool
  | .idle | .checking _ | .locking _ | .copying _ | .inferring _ _ => false
  | .rechecking _ | .loading _ | .loaded _ _ | .assigning _ _ | .unlocking _ => true

/-- What a call in this phase may rely on. -/
def Knows (s : State) : Phase → Prop
  | .idle | .checking _ | .locking _ | .rechecking _ => True
  | .loading _ => s.airportsCache = none ∧ s.reads = []
  | .loaded _ rows => s.airportsCache = none ∧ s.reads = [rows] ∧ rows ≠ []
  | .assigning _ rows | .inferring _ rows => s.airportsCache = some rows
  | .unlocking _ | .copying _ => s.airportsCache ≠ none

/-- How a call may have ended. -/
def EndedWell (reads : List (List WatchedAirport)) : List (Option (ℚ × ℚ)) × Outcome → Prop
  | (positions, .regions results) =>
    ∃ rows, reads = [rows] ∧ List.Forall₂ (Inferred dist rows) positions results
  | (_, .indexError) => False
  | _ => True

structure Inv (s : State) : Prop where
  holds : ∀ t, s.lock = some t ↔ (s.phases t).holding
  knows : ∀ t, Knows s (s.phases t)
  cached : ∀ rows, s.airportsCache = some rows → s.reads = [rows] ∧ rows ≠ []
  coords : ∀ c, s.coordsCache = some c →
    ∃ rows, s.airportsCache = some rows ∧ c = rows.map WatchedAirport.coords
  /-- An answer that is not in the cache is with the call that has to assign it. -/
  unread : s.airportsCache = none → s.reads = [] ∨ ∃ t ps rows, s.phases t = .loaded ps rows
  uncoords : s.airportsCache ≠ none → s.coordsCache = none →
    ∃ t ps rows, s.phases t = .assigning ps rows
  ended : ∀ e ∈ s.ended, EndedWell dist s.reads e

variable {dist : Distance} {s s' : State} {t : ℕ} {phase : Phase}
  {positions : List (Option (ℚ × ℚ))}
  {rows : List WatchedAirport}

lemma Knows.congr (hcache : s'.airportsCache = s.airportsCache) (hreads : s'.reads = s.reads)
    (h : Knows s phase) : Knows s' phase := by
  unfold Knows at h ⊢
  rwa [hcache, hreads]

/-- While the cache is empty a call without the lock relies on nothing. -/
lemma Knows.of_empty (hcache : s.airportsCache = none) (hphase : phase.holding = false)
    (h : Knows s phase) : Knows s' phase := by
  cases phase with
  | copying => exact absurd hcache h
  | inferring => simp [Knows, hcache] at h
  | idle | checking | locking => trivial
  | rechecking | loading | loaded | assigning | unlocking => simp [Phase.holding] at hphase

/-- Only one call has the lock. -/
lemma Inv.eq_of_holding (h : Inv dist s) (hlock : s.lock = some t) {u : ℕ}
    (hu : (s.phases u).holding) : u = t :=
  Option.some.inj (((h.holds u).mpr hu).symm.trans hlock)

/-- What a step keeps that leaves the caches alone: the call goes to another phase, with the lock or
without it, and may end. -/
lemma Inv.move (h : Inv dist s) (hphases : s'.phases = Function.update s.phases t phase)
    (hcache : s'.airportsCache = s.airportsCache) (hcoords : s'.coordsCache = s.coordsCache)
    (hreads : s'.reads = s.reads) (hothers : ∀ u, u ≠ t → (s'.lock = some u ↔ s.lock = some u))
    (hlock : s'.lock = some t ↔ phase.holding) (hknows : Knows s phase)
    (hloaded : ∀ ps rows, s.phases t ≠ .loaded ps rows)
    (hassigning : ∀ ps rows, s.phases t ≠ .assigning ps rows)
    (hended : ∀ e ∈ s'.ended, EndedWell dist s.reads e) : Inv dist s' where
  holds u := by
    rcases eq_or_ne u t with rfl | hu
    · rw [hphases, Function.update_self, hlock]
    · rw [hphases, Function.update_of_ne hu, hothers u hu, h.holds u]
  knows u := by
    rcases eq_or_ne u t with rfl | hu
    · rw [hphases, Function.update_self]
      exact hknows.congr hcache hreads
    · rw [hphases, Function.update_of_ne hu]
      exact (h.knows u).congr hcache hreads
  cached := by
    rw [hcache, hreads]
    exact h.cached
  coords := by
    rw [hcache, hcoords]
    exact h.coords
  unread hnone := by
    rw [hcache] at hnone
    rw [hreads]
    refine (h.unread hnone).imp_right ?_
    rintro ⟨u, ps, rows, hu⟩
    have hne : u ≠ t := fun hut => hloaded ps rows (hut ▸ hu)
    exact ⟨u, ps, rows, by rw [hphases, Function.update_of_ne hne, hu]⟩
  uncoords hsome hnone := by
    rw [hcache] at hsome
    rw [hcoords] at hnone
    obtain ⟨u, ps, rows, hu⟩ := h.uncoords hsome hnone
    have hne : u ≠ t := fun hut => hassigning ps rows (hut ▸ hu)
    exact ⟨u, ps, rows, by rw [hphases, Function.update_of_ne hne, hu]⟩
  ended := by
    rw [hreads]
    exact hended

/-- A call goes from one phase to another and changes nothing else. -/
lemma Inv.setPhase (h : Inv dist s) (hholding : phase.holding = (s.phases t).holding)
    (hknows : Knows s phase) (hloaded : ∀ ps rows, s.phases t ≠ .loaded ps rows)
    (hassigning : ∀ ps rows, s.phases t ≠ .assigning ps rows) : Inv dist (s.setPhase t phase) :=
  h.move rfl rfl rfl rfl (fun _ _ => Iff.rfl) (hholding ▸ h.holds t) hknows hloaded hassigning h.ended

/-- A call ends well. -/
lemma Inv.finish (h : Inv dist s) {outcome : Outcome}
    (hloaded : ∀ ps rows, s.phases t ≠ .loaded ps rows)
    (hassigning : ∀ ps rows, s.phases t ≠ .assigning ps rows)
    (hended : EndedWell dist s.reads (positions, outcome)) :
    Inv dist (s.finish t positions outcome) := by
  have hphases : (s.finish t positions outcome).phases = Function.update s.phases t .idle := rfl
  refine h.move hphases rfl rfl rfl ?_ ?_ trivial hloaded hassigning ?_
  · intro u hu
    rw [State.finish]
    split
    next hlock =>
      rw [hlock]
      simpa using hu.symm
    next => exact Iff.rfl
  · simp [State.finish, Phase.holding]
  · intro e he
    rcases List.mem_append.mp he with he | he
    · exact h.ended e he
    · obtain rfl := List.mem_singleton.mp he
      exact hended

/-- The airports are assigned. -/
lemma Inv.assignAirports (h : Inv dist s) (hphase : s.phases t = .loaded positions rows) :
    Inv dist { s.setPhase t (.assigning positions rows) with airportsCache := some rows } := by
  have hholding : s.lock = some t := (h.holds t).mpr (by rw [hphase]; rfl)
  obtain ⟨hnone, hreads, hrows⟩ : Knows s (.loaded positions rows) := hphase ▸ h.knows t
  refine ⟨fun u => ?_, fun u => ?_, ?_, ?_, ?_, ?_, h.ended⟩
  · rcases eq_or_ne u t with rfl | hu
    · simpa [State.setPhase, Phase.holding] using hholding
    · simpa [State.setPhase, hu] using h.holds u
  · rcases eq_or_ne u t with rfl | hu
    · simp [State.setPhase, Knows]
    · have hfree : (s.phases u).holding = false := by
        simpa using fun hhold => hu (h.eq_of_holding hholding hhold)
      simpa only [State.setPhase, Function.update_of_ne hu] using (h.knows u).of_empty hnone hfree
  · rintro _ ⟨⟩
    exact ⟨hreads, hrows⟩
  · intro c hc
    obtain ⟨_, hsome, -⟩ := h.coords c hc
    rw [hnone] at hsome
    cases hsome
  · simp
  · exact fun _ _ => ⟨t, positions, rows, by simp [State.setPhase]⟩

/-- The coordinates are assigned. -/
lemma Inv.assignCoords (h : Inv dist s) (hphase : s.phases t = .assigning positions rows) :
    Inv dist { s.setPhase t (.unlocking positions) with
      coordsCache := some (rows.map WatchedAirport.coords) } := by
  have hholding : s.lock = some t := (h.holds t).mpr (by rw [hphase]; rfl)
  have hsome : Knows s (.assigning positions rows) := hphase ▸ h.knows t
  change s.airportsCache = some rows at hsome
  refine ⟨fun u => ?_, fun u => ?_, h.cached, ?_, ?_, ?_, h.ended⟩
  · rcases eq_or_ne u t with rfl | hu
    · simpa [State.setPhase, Phase.holding] using hholding
    · simpa [State.setPhase, hu] using h.holds u
  · rcases eq_or_ne u t with rfl | hu
    · simp [State.setPhase, Knows, hsome]
    · change Knows _ (Function.update s.phases t _ u)
      rw [Function.update_of_ne hu]
      exact (h.knows u).congr rfl rfl
  · rintro _ ⟨⟩
    exact ⟨rows, hsome, rfl⟩
  · intro hnone
    simp [State.setPhase, hsome] at hnone
  · simp

/-- The airports have been read. -/
lemma Inv.answer (h : Inv dist s) (hphase : s.phases t = .loading positions) (hrows : rows ≠ []) :
    Inv dist { s.setPhase t (.loaded positions rows) with reads := s.reads ++ [rows] } := by
  have hholding : s.lock = some t := (h.holds t).mpr (by rw [hphase]; rfl)
  obtain ⟨hnone, hreads⟩ : Knows s (.loading positions) := hphase ▸ h.knows t
  refine ⟨fun u => ?_, fun u => ?_, ?_, h.coords, ?_, ?_, fun e he => ?_⟩
  · rcases eq_or_ne u t with rfl | hu
    · simpa [State.setPhase, Phase.holding] using hholding
    · simpa [State.setPhase, hu] using h.holds u
  · rcases eq_or_ne u t with rfl | hu
    · simp [State.setPhase, Knows, hnone, hreads, hrows]
    · have hfree : (s.phases u).holding = false := by
        simpa using fun hhold => hu (h.eq_of_holding hholding hhold)
      simpa only [State.setPhase, Function.update_of_ne hu] using (h.knows u).of_empty hnone hfree
  · intro rows' hsome
    simp [State.setPhase, hnone] at hsome
  · exact fun _ => Or.inr ⟨t, positions, rows, by simp [State.setPhase]⟩
  · exact fun hsome => absurd hnone hsome
  · have hended := h.ended e he
    obtain ⟨ps, outcome⟩ := e
    cases outcome with
    | regions results =>
      obtain ⟨_, hread, -⟩ := hended
      rw [hreads] at hread
      cases hread
    | noWatchedAirports | queryFailed | assertionError => trivial
    | indexError => exact hended

/-- A call that goes on keeps the invariant. -/
lemma Inv.advance (h : Inv dist s) (hstep : advance dist s t = some s') : Inv dist s' := by
  rw [Watchlist.advance] at hstep
  have hknows := h.knows t
  cases hphase : s.phases t with
  | idle => simp [hphase] at hstep
  | loading => simp [hphase] at hstep
  | checking ps =>
    simp only [hphase, Option.some.injEq] at hstep
    subst hstep
    split
    next => exact h.setPhase (by rw [hphase]; rfl) trivial (by simp [hphase]) (by simp [hphase])
    next hsome =>
      exact h.setPhase (by rw [hphase]; rfl) hsome (by simp [hphase]) (by simp [hphase])
  | locking ps =>
    simp only [hphase, Option.ite_none_right_eq_some, Option.some.injEq] at hstep
    obtain ⟨hlock, rfl⟩ := hstep
    refine h.move rfl rfl rfl rfl ?_ ?_ trivial (by simp [hphase]) (by simp [hphase]) h.ended
    · intro u hu
      rw [hlock]
      simpa using hu.symm
    · simp [Phase.holding]
  | rechecking ps =>
    simp only [hphase, Option.some.injEq] at hstep
    subst hstep
    split
    next hnone =>
      have hreads : s.reads = [] := by
        refine (h.unread hnone).resolve_right ?_
        rintro ⟨u, qs, rows, hu⟩
        have hut : u = t := h.eq_of_holding ((h.holds t).mpr (by rw [hphase]; rfl)) (by rw [hu]; rfl)
        rw [hut, hphase] at hu
        cases hu
      exact h.setPhase (by rw [hphase]; rfl) ⟨hnone, hreads⟩ (by simp [hphase]) (by simp [hphase])
    next hsome =>
      exact h.setPhase (by rw [hphase]; rfl) hsome (by simp [hphase]) (by simp [hphase])
  | loaded ps rows =>
    simp only [hphase, Option.some.injEq] at hstep
    exact hstep ▸ h.assignAirports hphase
  | assigning ps rows =>
    simp only [hphase, Option.some.injEq] at hstep
    exact hstep ▸ h.assignCoords hphase
  | unlocking ps =>
    simp only [hphase, Option.some.injEq] at hstep
    subst hstep
    rw [hphase] at hknows
    have hlock : s.lock = some t := (h.holds t).mpr (by rw [hphase]; rfl)
    refine h.move rfl rfl rfl rfl ?_ ?_ hknows (by simp [hphase]) (by simp [hphase]) h.ended
    · intro u hu
      rw [hlock]
      simpa using hu.symm
    · simp [Phase.holding]
  | copying ps =>
    rw [hphase] at hknows
    simp only [hphase] at hstep
    cases hcache : s.airportsCache with
    | none => exact absurd hcache hknows
    | some airports =>
      simp only [hcache, Option.some.injEq] at hstep
      subst hstep
      exact h.setPhase (by rw [hphase]; rfl) hcache (by simp [hphase]) (by simp [hphase])
  | inferring ps airports =>
    rw [hphase] at hknows
    have hcache : s.airportsCache = some airports := hknows
    simp only [hphase] at hstep
    cases hcoords : s.coordsCache with
    | none =>
      simp only [hcoords, Option.some.injEq] at hstep
      exact hstep ▸ h.finish (by simp [hphase]) (by simp [hphase]) trivial
    | some coords =>
      -- the coordinates are those of the airports that were copied, so every index is one of an airport
      obtain ⟨rows, hrows, rfl⟩ := h.coords coords hcoords
      obtain rfl : airports = rows := Option.some.inj (hcache.symm.trans hrows)
      obtain ⟨hreads, hne⟩ := h.cached airports hcache
      obtain ⟨results, hresults, hinferred⟩ := exists_regionsOf dist hne ps
      simp only [hcoords, hresults, Option.some.injEq] at hstep
      exact hstep ▸ h.finish (by simp [hphase]) (by simp [hphase]) ⟨airports, hreads, hinferred⟩

lemma Inv.act {action : Action} (h : Inv dist s) (hstep : act dist s action = some s') :
    Inv dist s' := by
  cases action with
  | call t ps =>
    rw [Watchlist.act] at hstep
    cases hphase : s.phases t <;> simp only [hphase, Option.some.injEq, reduceCtorEq] at hstep
    subst hstep
    exact h.setPhase (by rw [hphase]; rfl) trivial (by simp [hphase]) (by simp [hphase])
  | step t => exact h.advance hstep
  | answer t rows =>
    simp only [Watchlist.act] at hstep
    split at hstep
    next hphase =>
      exact Option.some.inj hstep ▸ h.finish (by simp [hphase]) (by simp [hphase]) trivial
    next hphase =>
      exact Option.some.inj hstep ▸ h.finish (by simp [hphase]) (by simp [hphase]) trivial
    next hphase => exact Option.some.inj hstep ▸ h.answer hphase (by simp)
    next => cases hstep

lemma Fresh.inv (h : Fresh s) : Inv dist s where
  holds t := by simp [h.lock, h.phases, Phase.holding]
  knows t := by simp [h.phases, Knows]
  cached rows hrows := by simp [h.airportsCache] at hrows
  coords c hc := by simp [h.coordsCache] at hc
  unread _ := Or.inl h.reads
  uncoords hsome := absurd h.airportsCache hsome
  ended e he := by simp [h.ended] at he

/-- In every reached state the airports have been read at most once, whatever the interleaving, and
a call that returned has for every position the regions of a nearest airport among them. -/
theorem regions_of_one_read (h : Reached (act dist) unguarded Fresh s) :
    s.reads.length ≤ 1 ∧ ∀ positions outcome, (positions, outcome) ∈ s.ended →
      outcome ≠ .indexError ∧ ∀ results, outcome = .regions results →
        ∃ rows, s.reads = [rows] ∧ List.Forall₂ (Inferred dist rows) positions results := by
  have hinv : Inv dist s := h.invariant (fun _ => Fresh.inv) fun _ _ _ hs _ => hs.act
  constructor
  · cases hcache : s.airportsCache with
    | some rows => simp [(hinv.cached rows hcache).1]
    | none =>
      rcases hinv.unread hcache with hreads | ⟨t, ps, rows, ht⟩
      · simp [hreads]
      · have hknows : Knows s (.loaded ps rows) := ht ▸ hinv.knows t
        simp [hknows.2.1]
  · intro positions outcome he
    have hended := hinv.ended _ he
    constructor
    · rintro rfl
      exact hended
    · rintro results rfl
      exact hended

/-- A step that fails on an assertion comes to the second one while `_coords_cache` is not assigned.
-/
lemma exists_inferring_of_assertionError (hinv : Inv dist s)
    (hstep : act dist s (.step t) = some s')
    (hended : s'.ended = s.ended ++ [(positions, .assertionError)]) :
    s.coordsCache = none ∧ ∃ airports, s.phases t = .inferring positions airports := by
  have hknows := hinv.knows t
  rw [act, advance] at hstep
  cases hphase : s.phases t with
  | idle | loading => simp [hphase] at hstep
  | checking | rechecking | loaded | assigning | unlocking =>
    simp only [hphase, Option.some.injEq] at hstep
    subst hstep
    simp [State.setPhase] at hended
  | locking ps =>
    simp only [hphase, Option.ite_none_right_eq_some, Option.some.injEq] at hstep
    obtain ⟨-, rfl⟩ := hstep
    simp [State.setPhase] at hended
  | copying ps =>
    rw [hphase] at hknows
    cases hcache : s.airportsCache with
    | none => exact absurd hcache hknows
    | some airports =>
      simp only [hphase, hcache, Option.some.injEq] at hstep
      subst hstep
      simp [State.setPhase] at hended
  | inferring ps airports =>
    cases hcoords : s.coordsCache with
    | none =>
      simp only [hphase, hcoords, Option.some.injEq] at hstep
      subst hstep
      simp only [State.finish, List.append_cancel_left_eq, List.cons.injEq, Prod.mk.injEq] at hended
      exact ⟨rfl, airports, by rw [hended.1.1]⟩
    | some coords =>
      simp only [hphase, hcoords] at hstep
      split at hstep <;> simp only [Option.some.injEq] at hstep <;> subst hstep <;>
        simp [State.finish] at hended

/-- An assertion fails only while another call is between the two assignments. -/
theorem assertionError_of_assigning (h : Reached (act dist) unguarded Fresh s)
    (hstep : act dist s (.step t) = some s')
    (hended : s'.ended = s.ended ++ [(positions, .assertionError)]) :
    ∃ u ps rows, u ≠ t ∧ s.phases u = .assigning ps rows := by
  have hinv : Inv dist s := h.invariant (fun _ => Fresh.inv) fun _ _ _ hs _ => hs.act
  obtain ⟨hcoords, airports, ht⟩ := exists_inferring_of_assertionError hinv hstep hended
  have hknows : Knows s (.inferring positions airports) := ht ▸ hinv.knows t
  have hsome : s.airportsCache ≠ none := by
    change s.airportsCache = some airports at hknows
    simp [hknows]
  obtain ⟨u, ps, rows, hu⟩ := hinv.uncoords hsome hcoords
  refine ⟨u, ps, rows, ?_, hu⟩
  rintro rfl
  rw [ht] at hu
  cases hu

/-! ### A run -/

/-- A distance that is good enough to try the model with. -/
def flatDistance : Distance := fun p q => (|p.1 - q.1| + |p.2 - q.2|) * 60 * 1852

def startState : State where
  airportsCache := none
  coordsCache := none
  lock := none
  phases _ := .idle
  reads := []
  ended := []

lemma fresh_startState : Fresh startState := ⟨rfl, rfl, rfl, fun _ => rfl, rfl, rfl⟩

def watched : List WatchedAirport :=
  [⟨"KATL", 33.64, -84.43, [.east]⟩, ⟨"KSFO", 37.62, -122.38, [.west]⟩]

/-- The first call reads the airports and assigns them; the second one finds them assigned, goes
past the lock and fails; then the first one assigns the coordinates and returns. -/
def racingRun : List Action :=
  [.call 1 [some (33.7, -84.4), none], .step 1, .step 1, .step 1, .answer 1 (some watched), .step 1,
   .call 2 [some (0, 0)], .step 2, .step 2, .step 2,
   .step 1, .step 1, .step 1, .step 1]

/-- How the calls of the run ended. -/
def racingOutcomes : List (List (Option (ℚ × ℚ)) × Outcome) :=
  [([some (0, 0)], .assertionError), ([some (33.7, -84.4), none], .regions [some [.east], none])]

lemma racingRun_ended :
    ∃ s, Reached (act flatDistance) unguarded Fresh s ∧ s.reads = [watched] ∧ s.ended = racingOutcomes := by
  have hrun : (runActions (act flatDistance) startState racingRun).any (fun s =>
      s.reads = [watched] ∧ s.ended = racingOutcomes) = true := by decide +kernel
  obtain ⟨s, hs, hends⟩ := Option.any_eq_true _ _ |>.mp hrun
  obtain ⟨hreads, hended⟩ := of_decide_eq_true hends
  exact ⟨s, (Reached.start fresh_startState).run (guardsHold_unguarded _ _) hs, hreads, hended⟩

/-- The second call failed, and the first one returned from the one read. -/
theorem racingRun_one_read :
    ∃ s, Reached (act flatDistance) unguarded Fresh s ∧ s.reads.length ≤ 1 ∧
    ∃ rows, s.reads = [rows] ∧ List.Forall₂ (Inferred flatDistance rows)
      [some (33.7, -84.4), none] [some [.east], none] := by
  obtain ⟨s, hs, -, hended⟩ := racingRun_ended
  have hread := regions_of_one_read hs
  exact ⟨s, hs, hread.1, (hread.2 _ _ (hended ▸ by simp [racingOutcomes])).2 _ rfl⟩

end FleetMonitor.Watchlist
