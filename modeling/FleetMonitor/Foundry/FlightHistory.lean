import FleetMonitor.Foundry.FlightIds
import FleetMonitor.Library.Runs
import FleetMonitor.Library.Table
import Mathlib.Tactic.Linarith

/-!
# The edges over many ticks

A tick sees at most one row of an aircraft, so what the detector does in a tick is said aircraft by
aircraft. The two maps are then tied to the whole history of rows and edges: the open flight of an
aircraft is its last takeoff, which has not been landed.
-/

namespace FleetMonitor

open Library

/-! ### One tick, aircraft by aircraft -/

/-- The row of an aircraft. -/
def rowOf (rows : List Position) (icao24 : String) : Option Position :=
  rows.find? (·.icao24 = icao24)

variable {d : FlightLifecycleDetector} {rows : List Position} {p : Position} {icao24 : String}

lemma rowOf_eq_some_iff (hnodup : (rows.map Position.icao24).Nodup) :
    rowOf rows icao24 = some p ↔ p ∈ rows ∧ p.icao24 = icao24 :=
  Table.lookup_eq_some_iff (t := ⟨rows, hnodup⟩)

lemma rowOf_eq_none_iff : rowOf rows icao24 = none ↔ icao24 ∉ rows.map Position.icao24 := by
  simp [rowOf, List.find?_eq_none]

/-- Of distinct aircraft one row at most is of the given one. -/
lemma filter_icao24 (hnodup : (rows.map Position.icao24).Nodup) :
    rows.filter (·.icao24 = icao24) = (rowOf rows icao24).toList :=
  Table.filter_key_eq hnodup icao24

@[simp] lemma FlightLifecycleDetector.afterRow_onGround_self :
    (d.afterRow p).onGround p.icao24 = some p.onGround := by
  simp [afterRow]

@[simp] lemma FlightLifecycleDetector.afterRow_openFlight_of_ne (h : icao24 ≠ p.icao24) :
    (d.afterRow p).openFlight icao24 = d.openFlight icao24 := by
  rw [afterRow]
  split_ifs <;> simp [h]

/-- The open flight after a row: the one that takes off, none after a landing, or the same. -/
lemma FlightLifecycleDetector.afterRow_openFlight_self :
    (d.afterRow p).openFlight p.icao24 =
      if d.onGround p.icao24 = some true ∧ p.onGround = false then
        some (synthesizeFlightId p.icao24 p.lastSeenAt)
      else if d.onGround p.icao24 = some false ∧ p.onGround = true then none
      else d.openFlight p.icao24 := by
  rw [afterRow]
  split_ifs <;> simp

lemma takeoffOf_afterRow {q : Position} (h : q.icao24 ≠ p.icao24) :
    takeoffOf (d.afterRow p) q = takeoffOf d q := by
  rw [takeoffOf, takeoffOf, FlightLifecycleDetector.afterRow_onGround_of_ne d h]

lemma landingOf_afterRow {q : Position} (h : q.icao24 ≠ p.icao24) :
    landingOf (d.afterRow p) q = landingOf d q := by
  rw [landingOf, landingOf, FlightLifecycleDetector.afterRow_onGround_of_ne d h,
    FlightLifecycleDetector.afterRow_openFlight_of_ne h]

/-- The edges of a tick are those of its rows. -/
lemma FlightLifecycleDetector.observe_edges (hnodup : (rows.map Position.icao24).Nodup) :
    (d.observe rows).1 = ⟨rows.filterMap (takeoffOf d), rows.filterMap (landingOf d)⟩ := by
  induction rows generalizing d with
  | nil => rfl
  | cons p rows ih =>
    obtain ⟨hnotin, hnodup⟩ := List.nodup_cons.mp hnodup
    have hne : ∀ q ∈ rows, q.icao24 ≠ p.icao24 :=
      fun q hq he => hnotin (he ▸ List.mem_map_of_mem hq)
    have htakeoffs : rows.filterMap (takeoffOf (d.afterRow p)) = rows.filterMap (takeoffOf d) :=
      List.filterMap_congr fun q hq => takeoffOf_afterRow (hne q hq)
    have hlandings : rows.filterMap (landingOf (d.afterRow p)) = rows.filterMap (landingOf d) :=
      List.filterMap_congr fun q hq => landingOf_afterRow (hne q hq)
    simp only [observe, ih hnodup, htakeoffs, hlandings, List.filterMap_cons]
    cases takeoffOf d p <;> cases landingOf d p <;> rfl

/-- The maps after a tick: the row of an aircraft, if it has one, decides. -/
lemma FlightLifecycleDetector.observe_maps (icao24 : String)
    (hnodup : (rows.map Position.icao24).Nodup) :
    (d.observe rows).2.onGround icao24 =
        ((rowOf rows icao24).map Position.onGround).or (d.onGround icao24) ∧
      (d.observe rows).2.openFlight icao24 =
        match rowOf rows icao24 with
        | none   => d.openFlight icao24
        | some p => (d.afterRow p).openFlight icao24 := by
  induction rows generalizing d with
  | nil => exact ⟨rfl, rfl⟩
  | cons p rows ih =>
    obtain ⟨hnotin, hnodup⟩ := List.nodup_cons.mp hnodup
    have hobserve : (d.observe (p :: rows)).2 = ((d.afterRow p).observe rows).2 := rfl
    obtain ⟨hground, hopen⟩ := ih (d := d.afterRow p) hnodup
    rw [hobserve, hground, hopen]
    by_cases hp : p.icao24 = icao24
    · subst hp
      rw [rowOf_eq_none_iff.mpr hnotin]
      simp [rowOf]
    · have hrow : rowOf (p :: rows) icao24 = rowOf rows icao24 := by simp [rowOf, hp]
      rw [hrow, afterRow_onGround_of_ne d (Ne.symm hp)]
      refine ⟨rfl, ?_⟩
      cases hq : rowOf rows icao24 with
      | none => exact afterRow_openFlight_of_ne (Ne.symm hp)
      | some q =>
        obtain ⟨-, rfl⟩ := (rowOf_eq_some_iff hnodup).mp hq
        simp only [afterRow_openFlight_self, afterRow_onGround_of_ne d (Ne.symm hp),
          afterRow_openFlight_of_ne (Ne.symm hp)]

/-! ### Histories -/

/-- The detector after its last tick, and what it has seen tick by tick: rows and edges. -/
structure History where
  detector : FlightLifecycleDetector
  ticks : List (List Position × DetectedEdges)

def emptyHistory : History := ⟨newDetector none none, []⟩

/-- The aircraft of the last tick. -/
def lastBatch (ticks : List (List Position × DetectedEdges)) : List String :=
  (ticks.getLast?.map fun tick => tick.1.map Position.icao24).getD []

/-- The detector of the next tick: seeded with the maps that have been persisted. -/
def History.seed (s : History) : FlightLifecycleDetector :=
  newDetector (some (s.detector.stateFor (lastBatch s.ticks)))
    (some (s.detector.openFlightStateFor (lastBatch s.ticks)))

def observeTick (s : History) (rows : List Position) : Option History :=
  let (edges, detector) := s.seed.observe rows
  some { detector, ticks := s.ticks ++ [(rows, edges)] }

/-- The takeoffs of some ticks. -/
def takeoffsIn (ticks : List (List Position × DetectedEdges)) : List Takeoff :=
  ticks.flatMap (·.2.takeoffs)

def landingsIn (ticks : List (List Position × DetectedEdges)) : List Landing :=
  ticks.flatMap (·.2.landings)

/-- The last row of an aircraft. -/
def lastRow (ticks : List (List Position × DetectedEdges)) (icao24 : String) : Option Position :=
  ((ticks.flatMap Prod.fst).filter (·.icao24 = icao24)).getLast?

/-- The most recent takeoff of an aircraft. -/
def lastTakeoff (ticks : List (List Position × DetectedEdges)) (icao24 : String) :
    Option Takeoff :=
  ((takeoffsIn ticks).filter (·.icao24 = icao24)).getLast?

/-- Of every tick, with the ticks before it. -/
def EveryTick (P : List (List Position × DetectedEdges) → List Position → DetectedEdges → Prop)
    (ticks : List (List Position × DetectedEdges)) : Prop :=
  ∀ before rows edges after, ticks = before ++ (rows, edges) :: after → P before rows edges

/-- A landing is of the most recent takeoff of its aircraft, and later. -/
def LandsLastTakeoff (before : List (List Position × DetectedEdges)) (_ : List Position)
    (edges : DetectedEdges) : Prop :=
  ∀ l ∈ edges.landings, ∃ t ∈ lastTakeoff before l.icao24,
    l.flightId = t.flightId ∧ t.takeoffTs < l.landedAt

/-- An aircraft that the tick before has not seen has no edge. -/
def NoEdgeAfterAbsence (before : List (List Position × DetectedEdges)) (_ : List Position)
    (edges : DetectedEdges) : Prop :=
  ∀ icao24 ∉ lastBatch before, icao24 ∉ edges.takeoffs.map Takeoff.icao24 ∧
    icao24 ∉ edges.landings.map Landing.icao24

/-- What a tick may see: one row of each aircraft, under its hexadecimal address; its time never
decreases, and its flag changes only with a time at least a second later. -/
structure WellFormed (s : History) (rows : List Position) : Prop where
  nodup : (rows.map Position.icao24).Nodup
  address : ∀ p ∈ rows, '-' ∉ p.icao24.toList
  later : ∀ p ∈ rows, ∀ q ∈ lastRow s.ticks p.icao24, q.lastSeenAt ≤ p.lastSeenAt ∧
    (q.onGround ≠ p.onGround → q.lastSeenAt + 1000000 ≤ p.lastSeenAt)

variable {s : History} {ticks : List (List Position × DetectedEdges)} {edges : DetectedEdges}
  {flightId : String}

lemma lastRow_concat (hnodup : (rows.map Position.icao24).Nodup) :
    lastRow (ticks ++ [(rows, edges)]) icao24 = (rowOf rows icao24).or (lastRow ticks icao24) := by
  simp only [lastRow, List.flatMap_append, List.flatMap_cons, List.flatMap_nil, List.append_nil,
    List.filter_append, filter_icao24 hnodup, List.getLast?_append]
  cases rowOf rows icao24 <;> rfl

/-- What the detector does not know of the last tick it does not keep. -/
lemma seed_onGround : s.seed.onGround icao24 =
    if icao24 ∈ lastBatch s.ticks then s.detector.onGround icao24 else none := rfl

lemma seed_openFlight : s.seed.openFlight icao24 =
    if icao24 ∈ lastBatch s.ticks then s.detector.openFlight icao24 else none := rfl

lemma onGround_of_seed {b : Bool} (h : s.seed.onGround icao24 = some b) :
    s.detector.onGround icao24 = some b := by
  rw [seed_onGround] at h
  split_ifs at h
  exact h

lemma openFlight_of_seed (h : s.seed.openFlight icao24 = some flightId) :
    s.detector.openFlight icao24 = some flightId := by
  rw [seed_openFlight] at h
  split_ifs at h
  exact h

lemma takeoffOf_eq_some_iff {t : Takeoff} : takeoffOf d p = some t ↔
    d.onGround p.icao24 = some true ∧ p.onGround = false ∧
      t = ⟨p.icao24, p.lastSeenAt, synthesizeFlightId p.icao24 p.lastSeenAt⟩ := by
  rw [takeoffOf]
  split_ifs with h
  · simp [h, eq_comm]
  · simp only [false_iff]
    tauto

lemma landingOf_eq_some_iff {l : Landing} : landingOf d p = some l ↔
    d.onGround p.icao24 = some false ∧ p.onGround = true ∧
      d.openFlight p.icao24 = some l.flightId ∧ l = ⟨p.icao24, l.flightId, p.lastSeenAt⟩ := by
  obtain ⟨icao24, flightId, landedAt⟩ := l
  rw [landingOf]
  split_ifs with h
  · cases d.openFlight p.icao24 <;> simp [h, eq_comm]
    tauto
  · simp only [false_iff]
    tauto

lemma EveryTick.concat
    {P : List (List Position × DetectedEdges) → List Position → DetectedEdges → Prop}
    (h : EveryTick P ticks) (hlast : P ticks rows edges) :
    EveryTick P (ticks ++ [(rows, edges)]) := by
  intro before rows' edges' after heq
  rcases List.eq_nil_or_concat after with rfl | ⟨after, last, rfl⟩
  · obtain ⟨rfl, hsame⟩ := List.append_inj' heq rfl
    obtain ⟨rfl, rfl⟩ := Prod.mk.inj (List.singleton_inj.mp hsame)
    exact hlast
  · rw [List.concat_eq_append, ← List.cons_append, ← List.append_assoc] at heq
    exact h before rows' edges' after (List.append_inj' heq rfl).1

lemma filter_takeoffs (hnodup : (rows.map Position.icao24).Nodup) :
    (rows.filterMap (takeoffOf d)).filter (·.icao24 = icao24) =
      ((rowOf rows icao24).bind (takeoffOf d)).toList := by
  have hown : ∀ p, (takeoffOf d p).filter (fun t => decide (t.icao24 = icao24)) =
      if decide (p.icao24 = icao24) then takeoffOf d p else none := by
    intro p
    cases ht : takeoffOf d p with
    | none => simp
    | some t =>
      obtain ⟨-, -, rfl⟩ := takeoffOf_eq_some_iff.mp ht
      by_cases hp : p.icao24 = icao24 <;> simp [hp]
  rw [List.filter_filterMap]
  simp only [hown]
  rw [← List.filterMap_filter, filter_icao24 hnodup]
  cases rowOf rows icao24 with
  | none => rfl
  | some p => cases ht : takeoffOf d p <;> simp [ht]

lemma lastTakeoff_concat (hnodup : (rows.map Position.icao24).Nodup) (landings : List Landing) :
    lastTakeoff (ticks ++ [(rows, ⟨rows.filterMap (takeoffOf d), landings⟩)]) icao24 =
      ((rowOf rows icao24).bind (takeoffOf d)).or (lastTakeoff ticks icao24) := by
  simp only [lastTakeoff, takeoffsIn, List.flatMap_append, List.flatMap_cons, List.flatMap_nil,
    List.append_nil, List.filter_append, filter_takeoffs hnodup, List.getLast?_append]
  cases (rowOf rows icao24).bind (takeoffOf d) <;> rfl

lemma mem_takeoffsIn_of_lastTakeoff {t : Takeoff} (h : t ∈ lastTakeoff ticks icao24) :
    t ∈ takeoffsIn ticks ∧ t.icao24 = icao24 := by
  have hmem := List.mem_of_getLast? h
  simpa using List.mem_filter.mp hmem

/-! ### The invariant -/

/-- How the maps and the edges hang together. -/
structure HistoryInv (s : History) : Prop where
  airborne : ∀ icao24 flightId, s.detector.openFlight icao24 = some flightId →
    s.detector.onGround icao24 = some false
  sighted : ∀ icao24 b, s.detector.onGround icao24 = some b →
    ∃ q ∈ lastRow s.ticks icao24, q.onGround = b
  minted : ∀ t ∈ takeoffsIn s.ticks,
    t.flightId = synthesizeFlightId t.icao24 t.takeoffTs ∧ '-' ∉ t.icao24.toList
  before : ∀ t ∈ takeoffsIn s.ticks, ∃ q ∈ lastRow s.ticks t.icao24, t.takeoffTs ≤ q.lastSeenAt ∧
    (q.onGround = true → t.takeoffTs + 1000000 ≤ q.lastSeenAt)
  distinct : ((takeoffsIn s.ticks).map Takeoff.flightId).Nodup
  recent : ∀ icao24 flightId, s.detector.openFlight icao24 = some flightId →
    ∃ t ∈ lastTakeoff s.ticks icao24, t.flightId = flightId
  landed : ∀ l ∈ landingsIn s.ticks, ∃ t ∈ takeoffsIn s.ticks, t.flightId = l.flightId
  unlanded : ∀ icao24 flightId, s.detector.openFlight icao24 = some flightId →
    flightId ∉ (landingsIn s.ticks).map Landing.flightId
  landedOnce : ((landingsIn s.ticks).map Landing.flightId).Nodup

lemma historyInv_empty : HistoryInv emptyHistory := by
  constructor <;> simp [emptyHistory, newDetector, takeoffsIn, landingsIn]

/-- The history after a tick. -/
def History.next (s : History) (rows : List Position) : History where
  detector := (s.seed.observe rows).2
  ticks := s.ticks ++
    [(rows, ⟨rows.filterMap (takeoffOf s.seed), rows.filterMap (landingOf s.seed)⟩)]

lemma observeTick_eq (hw : WellFormed s rows) : observeTick s rows = some (s.next rows) := by
  simp only [observeTick, FlightLifecycleDetector.observe_edges hw.nodup, History.next]

lemma seed_airborne (h : HistoryInv s) (hopen : s.seed.openFlight icao24 = some flightId) :
    s.seed.onGround icao24 = some false := by
  rw [seed_openFlight] at hopen
  split_ifs at hopen with hbatch
  rw [seed_onGround, if_pos hbatch]
  exact h.airborne icao24 flightId hopen

/-- A takeoff of the tick comes two seconds after the earlier ones of its aircraft. -/
lemma takeoff_apart (h : HistoryInv s) (hw : WellFormed s rows) {t t' : Takeoff}
    (ht : t ∈ takeoffsIn s.ticks) (hp : p ∈ rows)
    (ht' : takeoffOf s.seed p = some t') (hicao24 : t.icao24 = t'.icao24) :
    t.takeoffTs + 2000000 ≤ t'.takeoffTs := by
  obtain ⟨hground, hair, rfl⟩ := takeoffOf_eq_some_iff.mp ht'
  obtain ⟨q, hq, hqground⟩ := h.sighted _ _ (onGround_of_seed hground)
  obtain ⟨q', hq', -, hsecond⟩ := h.before t ht
  obtain rfl : q' = q := Option.mem_unique hq' (hicao24 ▸ hq)
  have hchange := (hw.later p hp q' hq).2 (by simp [hqground, hair])
  have hts : t.takeoffTs + 1000000 ≤ q'.lastSeenAt := hsecond hqground
  simp only at hchange ⊢
  linarith

/-- A flight id that is minted in the tick is new. -/
lemma minted_new (h : HistoryInv s) (hw : WellFormed s rows) {t t' : Takeoff}
    (ht : t ∈ takeoffsIn s.ticks) (hp : p ∈ rows)
    (ht' : takeoffOf s.seed p = some t') : t.flightId ≠ t'.flightId := by
  intro heq
  have hicao24 : t'.icao24 = p.icao24 := by
    obtain ⟨-, -, rfl⟩ := takeoffOf_eq_some_iff.mp ht'
    rfl
  have hid : t'.flightId = synthesizeFlightId t'.icao24 t'.takeoffTs := by
    obtain ⟨-, -, rfl⟩ := takeoffOf_eq_some_iff.mp ht'
    rfl
  obtain ⟨hmint, haddress⟩ := h.minted t ht
  rw [hmint, hid] at heq
  obtain ⟨hsame, hseconds⟩ := synthesizeFlightId_inj haddress (hicao24 ▸ hw.address p hp) heq
  exact (timestampSeconds_lt (takeoff_apart h hw ht hp ht' hsame)).ne hseconds

/-- A landing of the tick is of the open flight of its aircraft. -/
lemma landing_open (h : HistoryInv s) {l : Landing} (hl : landingOf s.seed p = some l) :
    l.icao24 = p.icao24 ∧ s.detector.openFlight l.icao24 = some l.flightId ∧
      ∃ t ∈ lastTakeoff s.ticks l.icao24, t.flightId = l.flightId := by
  obtain ⟨-, -, hopen, heq⟩ := landingOf_eq_some_iff.mp hl
  have hicao24 : l.icao24 = p.icao24 := by rw [heq]
  have hdetector : s.detector.openFlight l.icao24 = some l.flightId :=
    openFlight_of_seed (hicao24 ▸ hopen)
  exact ⟨hicao24, hdetector, h.recent _ _ hdetector⟩

/-- The open flights of two aircraft are different flights. -/
lemma lastTakeoff_ne (h : HistoryInv s) {t t' : Takeoff} {icao24' : String}
    (ht : t ∈ lastTakeoff s.ticks icao24)
    (ht' : t' ∈ lastTakeoff s.ticks icao24') (hne : icao24 ≠ icao24') :
    t.flightId ≠ t'.flightId := by
  intro heq
  obtain ⟨hmem, hicao24⟩ := mem_takeoffsIn_of_lastTakeoff ht
  obtain ⟨hmem', hicao24'⟩ := mem_takeoffsIn_of_lastTakeoff ht'
  obtain rfl : t = t' := List.inj_on_of_nodup_map h.distinct hmem hmem' heq
  exact hne (hicao24.symm.trans hicao24')

lemma HistoryInv.airborne_next (h : HistoryInv s) (hw : WellFormed s rows) : ∀ icao24 flightId,
    (s.next rows).detector.openFlight icao24 = some flightId →
      (s.next rows).detector.onGround icao24 = some false := by
  intro icao24 flightId hopen
  obtain ⟨hground, hmap⟩ := FlightLifecycleDetector.observe_maps (d := s.seed) icao24 hw.nodup
  rw [History.next, hground]
  rw [History.next, hmap] at hopen
  cases hrow : rowOf rows icao24 with
  | none =>
    rw [hrow] at hopen
    exact seed_airborne h hopen
  | some p =>
    obtain ⟨-, rfl⟩ := (rowOf_eq_some_iff hw.nodup).mp hrow
    rw [hrow] at hopen
    simp only [FlightLifecycleDetector.afterRow_openFlight_self] at hopen
    simp only [Option.map_some, Option.some_or, Option.some.injEq]
    split_ifs at hopen with htakeoff hlanding
    · exact htakeoff.2
    · have hair := seed_airborne h hopen
      simpa [hair] using hlanding

lemma HistoryInv.sighted_next (h : HistoryInv s) (hw : WellFormed s rows) : ∀ icao24 b,
    (s.next rows).detector.onGround icao24 = some b →
      ∃ q ∈ lastRow (s.next rows).ticks icao24, q.onGround = b := by
  intro icao24 b hground
  rw [History.next, (FlightLifecycleDetector.observe_maps (d := s.seed) _ hw.nodup).1] at hground
  rw [History.next, lastRow_concat hw.nodup]
  cases hrow : rowOf rows icao24 with
  | none =>
    rw [hrow] at hground
    exact h.sighted icao24 b (onGround_of_seed hground)
  | some p =>
    rw [hrow] at hground
    exact ⟨p, rfl, Option.some.inj hground⟩

lemma takeoffsIn_next : takeoffsIn (s.next rows).ticks =
    takeoffsIn s.ticks ++ rows.filterMap (takeoffOf s.seed) := by
  simp [takeoffsIn, History.next]

lemma landingsIn_next : landingsIn (s.next rows).ticks =
    landingsIn s.ticks ++ rows.filterMap (landingOf s.seed) := by
  simp [landingsIn, History.next]

lemma HistoryInv.minted_next (h : HistoryInv s) (hw : WellFormed s rows) :
    ∀ t ∈ takeoffsIn (s.next rows).ticks,
      t.flightId = synthesizeFlightId t.icao24 t.takeoffTs ∧ '-' ∉ t.icao24.toList := by
  intro t ht
  rw [takeoffsIn_next, List.mem_append] at ht
  rcases ht with ht | ht
  · exact h.minted t ht
  · obtain ⟨p, hp, htakeoff⟩ := List.mem_filterMap.mp ht
    obtain ⟨-, -, rfl⟩ := takeoffOf_eq_some_iff.mp htakeoff
    exact ⟨rfl, hw.address p hp⟩

lemma HistoryInv.before_next (h : HistoryInv s) (hw : WellFormed s rows) :
    ∀ t ∈ takeoffsIn (s.next rows).ticks, ∃ q ∈ lastRow (s.next rows).ticks t.icao24,
      t.takeoffTs ≤ q.lastSeenAt ∧
        (q.onGround = true → t.takeoffTs + 1000000 ≤ q.lastSeenAt) := by
  intro t ht
  rw [History.next, lastRow_concat hw.nodup]
  rw [takeoffsIn_next, List.mem_append] at ht
  rcases ht with ht | ht
  · obtain ⟨q, hq, hle, hsecond⟩ := h.before t ht
    cases hrow : rowOf rows t.icao24 with
    | none => exact ⟨q, hq, hle, hsecond⟩
    | some p =>
      obtain ⟨hp, hicao24⟩ := (rowOf_eq_some_iff hw.nodup).mp hrow
      obtain ⟨hlater, hchange⟩ := hw.later p hp q (hicao24.symm ▸ hq)
      refine ⟨p, rfl, hle.trans hlater, fun hground => ?_⟩
      by_cases hsame : q.onGround = p.onGround
      · exact (hsecond (hsame.trans hground)).trans hlater
      · have hstep := hchange hsame
        linarith
  · obtain ⟨p, hp, htakeoff⟩ := List.mem_filterMap.mp ht
    obtain ⟨-, hair, rfl⟩ := takeoffOf_eq_some_iff.mp htakeoff
    have hrow : rowOf rows p.icao24 = some p := (rowOf_eq_some_iff hw.nodup).mpr ⟨hp, rfl⟩
    refine ⟨p, by simp [hrow], le_rfl, fun hground => ?_⟩
    simp [hground] at hair

/-- The takeoffs of a tick are of different aircraft, so they have different ids. -/
lemma nodup_takeoffs (hw : WellFormed s rows) :
    ((rows.filterMap (takeoffOf s.seed)).map Takeoff.flightId).Nodup := by
  have haircraft : ∀ (p : Position) (t : Takeoff), takeoffOf s.seed p = some t →
      t.icao24 = p.icao24 ∧ t.flightId = synthesizeFlightId p.icao24 t.takeoffTs := by
    intro p t ht
    obtain ⟨-, -, rfl⟩ := takeoffOf_eq_some_iff.mp ht
    exact ⟨rfl, rfl⟩
  rw [List.Nodup, List.pairwise_map, List.pairwise_filterMap]
  refine (List.pairwise_map.mp hw.nodup).imp_of_mem fun hp hq hne t ht t' ht' heq => ?_
  rw [(haircraft _ _ ht).2, (haircraft _ _ ht').2] at heq
  exact hne (synthesizeFlightId_inj (hw.address _ hp) (hw.address _ hq) heq).1

lemma HistoryInv.distinct_next (h : HistoryInv s) (hw : WellFormed s rows) :
    ((takeoffsIn (s.next rows).ticks).map Takeoff.flightId).Nodup := by
  rw [takeoffsIn_next, List.map_append, List.nodup_append]
  refine ⟨h.distinct, nodup_takeoffs hw, fun id hid id' hid' heq => ?_⟩
  obtain ⟨t, ht, rfl⟩ := List.mem_map.mp hid
  obtain ⟨t', ht', rfl⟩ := List.mem_map.mp hid'
  obtain ⟨p, hp, htakeoff⟩ := List.mem_filterMap.mp ht'
  exact minted_new h hw ht hp htakeoff heq

lemma HistoryInv.recent_next (h : HistoryInv s) (hw : WellFormed s rows) : ∀ icao24 flightId,
    (s.next rows).detector.openFlight icao24 = some flightId →
      ∃ t ∈ lastTakeoff (s.next rows).ticks icao24, t.flightId = flightId := by
  intro icao24 flightId hopen
  rw [History.next, (FlightLifecycleDetector.observe_maps (d := s.seed) _ hw.nodup).2] at hopen
  rw [History.next, lastTakeoff_concat hw.nodup]
  cases hrow : rowOf rows icao24 with
  | none =>
    rw [hrow] at hopen
    exact h.recent icao24 flightId (openFlight_of_seed hopen)
  | some p =>
    obtain ⟨-, rfl⟩ := (rowOf_eq_some_iff hw.nodup).mp hrow
    rw [hrow] at hopen
    simp only [FlightLifecycleDetector.afterRow_openFlight_self] at hopen
    split_ifs at hopen with htakeoff hlanding
    · have ht := takeoffOf_eq_some_iff.mpr ⟨htakeoff.1, htakeoff.2, rfl⟩
      exact ⟨_, by rw [Option.bind_some, ht]; rfl, Option.some.inj hopen⟩
    · have hnone : takeoffOf s.seed p = none := if_neg htakeoff
      rw [Option.bind_some, hnone]
      exact h.recent _ _ (openFlight_of_seed hopen)

lemma HistoryInv.landed_next (h : HistoryInv s) :
    ∀ l ∈ landingsIn (s.next rows).ticks, ∃ t ∈ takeoffsIn (s.next rows).ticks,
      t.flightId = l.flightId := by
  intro l hl
  rw [takeoffsIn_next]
  rw [landingsIn_next, List.mem_append] at hl
  rcases hl with hl | hl
  · obtain ⟨t, ht, heq⟩ := h.landed l hl
    exact ⟨t, List.mem_append_left _ ht, heq⟩
  · obtain ⟨p, -, hlanding⟩ := List.mem_filterMap.mp hl
    obtain ⟨-, -, t, ht, heq⟩ := landing_open h hlanding
    exact ⟨t, List.mem_append_left _ (mem_takeoffsIn_of_lastTakeoff ht).1, heq⟩

/-- A flight that stays open over the tick is not landed in it. -/
lemma openFlight_unlanded (h : HistoryInv s)
    (hopen : s.seed.openFlight icao24 = some flightId)
    (hstays : ∀ p ∈ rows, p.icao24 = icao24 → landingOf s.seed p = none) :
    flightId ∉ (landingsIn (s.next rows).ticks).map Landing.flightId := by
  rw [landingsIn_next, List.map_append, List.mem_append, not_or]
  refine ⟨h.unlanded icao24 flightId (openFlight_of_seed hopen), fun hmem => ?_⟩
  obtain ⟨l, hl, rfl⟩ := List.mem_map.mp hmem
  obtain ⟨p, hp, hlanding⟩ := List.mem_filterMap.mp hl
  obtain ⟨hicao24, -, t', ht', heq'⟩ := landing_open h hlanding
  obtain ⟨t, ht, heq⟩ := h.recent icao24 l.flightId (openFlight_of_seed hopen)
  have hne : icao24 ≠ l.icao24 := by
    rintro rfl
    rw [hstays p hp hicao24.symm] at hlanding
    simp at hlanding
  exact lastTakeoff_ne h ht ht' hne (heq.trans heq'.symm)

lemma HistoryInv.unlanded_next (h : HistoryInv s) (hw : WellFormed s rows) : ∀ icao24 flightId,
    (s.next rows).detector.openFlight icao24 = some flightId →
      flightId ∉ (landingsIn (s.next rows).ticks).map Landing.flightId := by
  intro icao24 flightId hopen
  rw [History.next, (FlightLifecycleDetector.observe_maps (d := s.seed) _ hw.nodup).2] at hopen
  cases hrow : rowOf rows icao24 with
  | none =>
    rw [hrow] at hopen
    refine openFlight_unlanded h hopen fun p hp hicao24 => ?_
    exact absurd (List.mem_map.mpr ⟨p, hp, hicao24⟩) (rowOf_eq_none_iff.mp hrow)
  | some p =>
    obtain ⟨hp, rfl⟩ := (rowOf_eq_some_iff hw.nodup).mp hrow
    rw [hrow] at hopen
    simp only [FlightLifecycleDetector.afterRow_openFlight_self] at hopen
    split_ifs at hopen with htakeoff hlanding
    · -- The id is new, and what is landed was minted before.
      have ht := takeoffOf_eq_some_iff.mpr ⟨htakeoff.1, htakeoff.2, rfl⟩
      obtain rfl := Option.some.inj hopen
      intro hmem
      obtain ⟨l, hl, heq⟩ := List.mem_map.mp hmem
      rw [landingsIn_next, List.mem_append] at hl
      rcases hl with hl | hl
      · obtain ⟨t, htmem, hteq⟩ := h.landed l hl
        exact minted_new h hw htmem hp ht (hteq.trans heq)
      · obtain ⟨q, -, hlanding⟩ := List.mem_filterMap.mp hl
        obtain ⟨-, -, t, htmem, hteq⟩ := landing_open h hlanding
        exact minted_new h hw (mem_takeoffsIn_of_lastTakeoff htmem).1 hp ht (hteq.trans heq)
    · refine openFlight_unlanded h hopen fun q hq hicao24 => ?_
      obtain rfl : q = p := List.inj_on_of_nodup_map hw.nodup hq hp hicao24
      exact if_neg hlanding

lemma HistoryInv.landedOnce_next (h : HistoryInv s) (hw : WellFormed s rows) :
    ((landingsIn (s.next rows).ticks).map Landing.flightId).Nodup := by
  rw [landingsIn_next, List.map_append, List.nodup_append]
  refine ⟨h.landedOnce, ?_, fun id hid id' hid' heq => ?_⟩
  · rw [List.Nodup, List.pairwise_map, List.pairwise_filterMap]
    refine (List.pairwise_map.mp hw.nodup).imp_of_mem fun _ _ hne l hl l' hl' heq => ?_
    obtain ⟨hicao24, -, t, ht, hteq⟩ := landing_open h hl
    obtain ⟨hicao24', -, t', ht', hteq'⟩ := landing_open h hl'
    refine lastTakeoff_ne h ht ht' ?_ (hteq.trans (heq.trans hteq'.symm))
    rwa [hicao24, hicao24']
  · subst heq
    obtain ⟨l, hl, rfl⟩ := List.mem_map.mp hid'
    obtain ⟨p, -, hlanding⟩ := List.mem_filterMap.mp hl
    obtain ⟨-, hopen, -⟩ := landing_open h hlanding
    exact h.unlanded _ _ hopen hid

lemma HistoryInv.next (h : HistoryInv s) (hw : WellFormed s rows) : HistoryInv (s.next rows) where
  airborne := h.airborne_next hw
  sighted := h.sighted_next hw
  minted := h.minted_next hw
  before := h.before_next hw
  distinct := h.distinct_next hw
  recent := h.recent_next hw
  landed := h.landed_next
  unlanded := h.unlanded_next hw
  landedOnce := h.landedOnce_next hw

/-! ### The result -/

/-- The landings of a tick are of the most recent takeoffs, and later. -/
lemma landsLastTakeoff_tick (h : HistoryInv s) (hw : WellFormed s rows) :
    LandsLastTakeoff s.ticks rows
      ⟨rows.filterMap (takeoffOf s.seed), rows.filterMap (landingOf s.seed)⟩ := by
  intro l hl
  obtain ⟨p, hp, hlanding⟩ := List.mem_filterMap.mp hl
  obtain ⟨hicao24, -, t, ht, heq⟩ := landing_open h hlanding
  obtain ⟨hair, hground, -, hl'⟩ := landingOf_eq_some_iff.mp hlanding
  refine ⟨t, ht, heq.symm, ?_⟩
  obtain ⟨hmem, htaken⟩ := mem_takeoffsIn_of_lastTakeoff ht
  obtain ⟨q, hq, hle, -⟩ := h.before t hmem
  obtain ⟨q', hq', hqair⟩ := h.sighted _ _ (onGround_of_seed hair)
  obtain rfl : q = q' := Option.mem_unique hq (by rwa [htaken, hicao24])
  have hchange := (hw.later p hp q hq').2 (by simp [hqair, hground])
  have hlanded : l.landedAt = p.lastSeenAt := by rw [hl']
  rw [hlanded]
  linarith

/-- The detector has forgotten an aircraft that the last tick has not seen. -/
lemma noEdgeAfterAbsence_tick : NoEdgeAfterAbsence s.ticks rows
    ⟨rows.filterMap (takeoffOf s.seed), rows.filterMap (landingOf s.seed)⟩ := by
  intro icao24 habsent
  have hforgotten : s.seed.onGround icao24 = none := by rw [seed_onGround, if_neg habsent]
  constructor
  · intro hmem
    obtain ⟨t, ht, rfl⟩ := List.mem_map.mp hmem
    obtain ⟨p, -, htakeoff⟩ := List.mem_filterMap.mp ht
    obtain ⟨hground, -, rfl⟩ := takeoffOf_eq_some_iff.mp htakeoff
    simp [hforgotten] at hground
  · intro hmem
    obtain ⟨l, hl, rfl⟩ := List.mem_map.mp hmem
    obtain ⟨p, -, hlanding⟩ := List.mem_filterMap.mp hl
    obtain ⟨hair, -, -, heq⟩ := landingOf_eq_some_iff.mp hlanding
    rw [heq] at hforgotten
    simp [hforgotten] at hair

/-- Over every sequence of ticks: the open flights are of aircraft in the air; minted ids are
distinct; a landing carries the id of the most recent takeoff of its aircraft and is later than it;
no id is landed twice; and an aircraft that was absent for a tick has no edge on its next
sighting. -/
theorem lifecycle_over_ticks (s : History)
    (hs : Reached observeTick WellFormed (· = emptyHistory) s) :
    (∀ icao24, s.detector.openFlight icao24 ≠ none →
      s.detector.onGround icao24 = some false) ∧
    ((takeoffsIn s.ticks).map Takeoff.flightId).Nodup ∧
    EveryTick LandsLastTakeoff s.ticks ∧
    ((landingsIn s.ticks).map Landing.flightId).Nodup ∧
    EveryTick NoEdgeAfterAbsence s.ticks := by
  have hall : HistoryInv s ∧ EveryTick LandsLastTakeoff s.ticks ∧
      EveryTick NoEdgeAfterAbsence s.ticks := by
    refine hs.invariant (I := fun s => HistoryInv s ∧ EveryTick LandsLastTakeoff s.ticks ∧
      EveryTick NoEdgeAfterAbsence s.ticks) ?_ ?_
    · rintro _ rfl
      exact ⟨historyInv_empty, by simp [EveryTick, emptyHistory], by simp [EveryTick, emptyHistory]⟩
    · rintro s rows t ⟨h, hlands, habsent⟩ hw hact
      rw [observeTick_eq hw] at hact
      obtain rfl := Option.some.inj hact
      exact ⟨h.next hw, hlands.concat (landsLastTakeoff_tick h hw),
        habsent.concat noEdgeAfterAbsence_tick⟩
  obtain ⟨h, hlands, habsent⟩ := hall
  refine ⟨fun icao24 hopen => ?_, h.distinct, hlands, h.landedOnce, habsent⟩
  obtain ⟨flightId, hid⟩ := Option.ne_none_iff_exists'.mp hopen
  exact h.airborne icao24 flightId hid

instance (s : History) (rows : List Position) : Decidable (WellFormed s rows) :=
  decidable_of_iff
    ((rows.map Position.icao24).Nodup ∧ (∀ p ∈ rows, '-' ∉ p.icao24.toList) ∧
      ∀ p ∈ rows, ∀ q ∈ (lastRow s.ticks p.icao24).toList, q.lastSeenAt ≤ p.lastSeenAt ∧
        (q.onGround ≠ p.onGround → q.lastSeenAt + 1000000 ≤ p.lastSeenAt))
    ⟨fun h => ⟨h.1, h.2.1, fun p hp q hq => h.2.2 p hp q (Option.mem_toList.mpr hq)⟩,
      fun h => ⟨h.nodup, h.address, fun p hp q hq => h.later p hp q (Option.mem_toList.mp hq)⟩⟩

/-- An aircraft on the ground, in the air a minute later, and landed after another minute. -/
def flownTicks : List (List Position) :=
  [[⟨"a1b2c3", true, some .west, 1767225600000000⟩],
   [⟨"a1b2c3", false, some .west, 1767225660000000⟩],
   [⟨"a1b2c3", true, some .west, 1767225720000000⟩]]

/-- The history of these ticks. -/
def flownHistory : History := flownTicks.foldl History.next emptyHistory

theorem lifecycle_over_flownTicks :
    ((takeoffsIn flownHistory.ticks).map Takeoff.flightId).Nodup ∧
      EveryTick LandsLastTakeoff flownHistory.ticks := by
  have hguards : GuardsHold observeTick WellFormed emptyHistory flownTicks := by decide
  have hstart : Reached observeTick WellFormed (· = emptyHistory) emptyHistory := .start rfl
  have hreached : Reached observeTick WellFormed (· = emptyHistory) flownHistory :=
    hstart.run hguards rfl
  obtain ⟨-, hdistinct, hlands, -⟩ := lifecycle_over_ticks flownHistory hreached
  exact ⟨hdistinct, hlands⟩

example : (landingsIn flownHistory.ticks).map Landing.flightId = ["a1b2c3-1767225660"] := by decide

end FleetMonitor
