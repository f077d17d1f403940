import FleetMonitor.Foundry.FlightHistory
import FleetMonitor.Foundry.LivePositions
import FleetMonitor.Library.NewestWins
import FleetMonitor.Library.Validation

/-!
# The order of the rows

A response of `/v1/positions/live` may have several rows of an aircraft, in any order. As long as no
two of them were seen at the same time, a tick depends on the newest row of every aircraft: the
order changes neither what is written nor what is detected, and what happens to one aircraft is
decided by its own newest row and its own entries in the two maps.
-/

namespace FleetMonitor

open Library Library.NewestWins

/-! ### The newest rows -/

/-- The aircraft of a row. -/
abbrev LivePosition.address (p : LivePosition) : String := p.icao24

/-- The time of a row. -/
abbrev LivePosition.seenAt (p : LivePosition) : Instant := p.lastSeenAt

/-- No two rows of an aircraft were seen at the same time. -/
abbrev SeenApart (items : List LivePosition) : Prop :=
  StampsDistinct LivePosition.address LivePosition.seenAt {p | p ∈ items}

/-- The newest row of an aircraft, if it has one. -/
abbrev IsNewestRow (items : List LivePosition) (icao24 : String) : Option LivePosition → Prop :=
  NewestWins.IsNewest LivePosition.seenAt {p ∈ {p | p ∈ items} | p.address = icao24}

/-- The row that is kept of an aircraft. -/
def newestRow (items : List LivePosition) : String → Option LivePosition :=
  items.foldl (merge LivePosition.address LivePosition.seenAt) fun _ => none

variable {items items' latest : List LivePosition} {p : LivePosition} {icao24 : String}

/-- What is kept are the newest rows. -/
lemma holds_newestRow (items : List LivePosition) :
    Holds LivePosition.address LivePosition.seenAt {p | p ∈ items} (newestRow items) := by
  have hempty : Holds LivePosition.address LivePosition.seenAt ∅ fun _ => none :=
    fun k => Set.eq_empty_of_forall_notMem fun p hp => hp.1
  have hall := hempty.foldl items
  rwa [Set.empty_union] at hall

lemma newestRow_eq (hapart : SeenApart items) {newest : Option LivePosition}
    (h : IsNewestRow items icao24 newest) : newestRow items icao24 = newest :=
  (holds_newestRow items icao24).unique (hapart.injOn icao24) h

/-- The newest rows do not depend on the order. -/
lemma newestRow_perm (hapart : SeenApart items) (hperm : items.Perm items') :
    newestRow items = newestRow items' := by
  have hrows : {p | p ∈ items} = {p | p ∈ items'} := Set.ext fun p => hperm.mem_iff
  exact (holds_newestRow items).unique hapart (hrows ▸ holds_newestRow items')

/-- One turn of the loop keeps the newer row. -/
lemma find?_keepLatestRow (latest : List LivePosition) (p : LivePosition) :
    (fun k => (keepLatestRow latest p).find? (·.icao24 = k)) =
      merge LivePosition.address LivePosition.seenAt (fun k => latest.find? (·.icao24 = k)) p := by
  funext k
  rw [keepLatestRow]
  cases hfind : latest.find? (·.icao24 = p.icao24) with
  | none =>
    by_cases hk : k = p.icao24
    · subst hk
      rw [merge_self]
      simp [hfind]
    · have haddress : k ≠ p.address := hk
      rw [merge_of_ne haddress]
      simp [Ne.symm hk]
  | some prev =>
    -- a row that is replaced has the key of the one that comes
    have hcomp : ((fun q : LivePosition => decide (q.icao24 = k)) ∘
        fun q => if q.icao24 = p.icao24 then p else q) = fun q => decide (q.icao24 = k) := by
      funext q
      by_cases hq : q.icao24 = p.icao24
      · simp [hq]
      · simp [hq]
    by_cases hk : k = p.icao24
    · subst hk
      rw [merge_self, hfind]
      by_cases hlt : prev.lastSeenAt < p.lastSeenAt
      · have hprev : prev.icao24 = p.icao24 := by simpa using List.find?_some hfind
        have hnewer : newer LivePosition.seenAt (some prev) p = p := newer_of_lt hlt
        simp only [hlt, if_true, List.find?_map, hcomp, hfind, Option.map_some, hprev, hnewer]
      · have hnewer : newer LivePosition.seenAt (some prev) p = prev := newer_of_le (not_lt.mp hlt)
        simp only [hlt, if_false, hfind, hnewer]
    · have haddress : k ≠ p.address := hk
      rw [merge_of_ne haddress]
      by_cases hlt : prev.lastSeenAt < p.lastSeenAt
      · simp only [hlt, if_true, List.find?_map, hcomp]
        cases hrow : latest.find? (·.icao24 = k) with
        | none => rfl
        | some q =>
          have hq : q.icao24 = k := by simpa using List.find?_some hrow
          have hne : q.icao24 ≠ p.icao24 := fun heq => hk (hq.symm.trans heq)
          simp [hne]
      · simp only [hlt, if_false]

/-- The rows that are kept, as a table. -/
def latestRows (items : List LivePosition) : Table LivePosition.address where
  rows := items.foldl keepLatestRow []
  nodup := by
    have hkeys : (items.foldl keepLatestRow []).map LivePosition.address =
        ((items.map LivePosition.toPosition).foldl keepLatest []).map Position.icao24 := by
      rw [← List.map_nil (f := LivePosition.toPosition), ← foldl_keepLatestRow_toPosition,
        List.map_map]
      rfl
    rw [hkeys]
    exact foldl_keepLatest_nodup _ (by simp)

lemma lookup_latestRows (items : List LivePosition) :
    (latestRows items).lookup = newestRow items := by
  have hfold : ∀ latest, (fun k => (items.foldl keepLatestRow latest).find? (·.icao24 = k)) =
      items.foldl (merge LivePosition.address LivePosition.seenAt)
        fun k => latest.find? (·.icao24 = k) := by
    induction items with
    | nil => exact fun latest => rfl
    | cons p items ih =>
      intro latest
      rw [List.foldl_cons, List.foldl_cons, ih, find?_keepLatestRow]
  exact hfold []

/-- The rows of a tick, as a table. -/
def scopedRows (items : List LivePosition) : Table LivePosition.address where
  rows := aircraftRows items
  nodup := (List.filter_sublist.map _).nodup (latestRows items).nodup

/-- The row of an aircraft is its newest, if that one is in scope. -/
lemma lookup_scopedRows (items : List LivePosition) (icao24 : String) :
    (scopedRows items).lookup icao24 =
      (newestRow items icao24).filter fun p => inLiveScope p.toPosition := by
  ext p
  rw [Table.lookup_eq_some_iff, Option.filter_eq_some_iff, ← lookup_latestRows,
    Table.lookup_eq_some_iff]
  show p ∈ (latestRows items).rows.filter _ ∧ _ ↔ _
  rw [List.mem_filter]
  tauto

/-- Two responses with the same newest rows have the same rows, up to the order. -/
lemma aircraftRows_perm (h : newestRow items = newestRow items') :
    (aircraftRows items).Perm (aircraftRows items') := by
  refine (List.perm_ext_iff_of_nodup (scopedRows items).nodup.of_map
    (scopedRows items').nodup.of_map).mpr fun p => ?_
  have hmem :
      ∀ items, p ∈ (scopedRows items).rows ↔ (scopedRows items).lookup p.address = some p := by
    intro items
    rw [Table.lookup_eq_some_iff]
    simp
  show p ∈ (scopedRows items).rows ↔ p ∈ (scopedRows items').rows
  rw [hmem, hmem, lookup_scopedRows, lookup_scopedRows, h]

/-! ### A tick -/

/-- The response, as the lifecycle reads it. -/
def positionsResponse (items : List LivePosition) (serverTime : Instant) : PositionsLiveResponse :=
  ⟨items.map LivePosition.toPosition, serverTime⟩

/-- The rows a detector sees. -/
def observedRows (items : List LivePosition) : List Position :=
  (aircraftRows items).map LivePosition.toPosition

/-- The Aircraft a tick upserts. -/
def upsertedAircraft (items : List LivePosition) : List Aircraft :=
  (aircraftRows items).map positionToAircraft

/-- The edges a tick detects. -/
def detectedEdges (d : FlightLifecycleDetector) (items : List LivePosition) : DetectedEdges :=
  (d.observe (observedRows items)).1

/-- The two maps a tick returns. -/
def returnedMaps (d : FlightLifecycleDetector) (items : List LivePosition) :
    Dict Bool × Dict String :=
  let icao24s := (observedRows items).map Position.icao24
  ((d.observe (observedRows items)).2.stateFor icao24s,
    (d.observe (observedRows items)).2.openFlightStateFor icao24s)

variable {d d' : FlightLifecycleDetector} {serverTime : Instant} {writes writes' : PositionsWrites}
  {result : SyncResult} {edges : DetectedEdges}

lemma scopedPositions_positionsResponse (items : List LivePosition) (serverTime : Instant) :
    scopedPositions (positionsResponse items serverTime) = observedRows items :=
  (aircraftRows_toPosition items serverTime).symm

/-- A tick returns when the flight of every landing has an id that can be parsed. -/
lemma incrementalSyncPositions_returns :
    (∃ result edges,
        incrementalSyncPositions d (positionsResponse items serverTime) writes =
          .ok (result, edges)) ↔
      ∃ stamps, (detectedEdges d items).landings.mapM landedStamp = .ok stamps := by
  simp only [incrementalSyncPositions, scopedPositions_positionsResponse, detectedEdges]
  split
  next e hstamps => simp [hstamps]
  next stamps hstamps => simp [hstamps]

/-- What a tick returns. -/
lemma incrementalSyncPositions_maps
    (h : incrementalSyncPositions d (positionsResponse items serverTime) writes = .ok (result, edges)) :
    edges = detectedEdges d items ∧ result.detectorState = some (returnedMaps d items).1 ∧
      result.openFlightState = some (returnedMaps d items).2 := by
  simp only [incrementalSyncPositions, scopedPositions_positionsResponse] at h
  split at h
  next => cases h
  next =>
    obtain ⟨rfl, rfl⟩ := Prod.mk.inj (Except.ok.inj h)
    exact ⟨rfl, rfl, rfl⟩

lemma nodup_observedRows (items : List LivePosition) :
    ((observedRows items).map Position.icao24).Nodup := by
  rw [← scopedPositions_positionsResponse items 0]
  exact nodup_scopedPositions _

lemma detectedEdges_eq (d : FlightLifecycleDetector) (items : List LivePosition) :
    detectedEdges d items = ⟨(observedRows items).filterMap (takeoffOf d),
      (observedRows items).filterMap (landingOf d)⟩ :=
  FlightLifecycleDetector.observe_edges (nodup_observedRows items)

/-- The row a detector sees of an aircraft. -/
lemma rowOf_observedRows (items : List LivePosition) (icao24 : String) :
    rowOf (observedRows items) icao24 = ((newestRow items icao24).filter
      fun p => inLiveScope p.toPosition).map LivePosition.toPosition := by
  rw [← lookup_scopedRows, rowOf, observedRows, List.find?_map]
  rfl

/-! ### One aircraft -/

/-- Two ticks that are alike for an aircraft: what they upsert of it, its edges and its entries in
the maps. -/
structure AlikeFor (icao24 : String) (d : FlightLifecycleDetector) (items : List LivePosition)
    (d' : FlightLifecycleDetector) (items' : List LivePosition) : Prop where
  aircraft : (upsertedAircraft items).filter (·.icao24 = icao24) =
    (upsertedAircraft items').filter (·.icao24 = icao24)
  takeoffs : (detectedEdges d items).takeoffs.filter (·.icao24 = icao24) =
    (detectedEdges d' items').takeoffs.filter (·.icao24 = icao24)
  landings : (detectedEdges d items).landings.filter (·.icao24 = icao24) =
    (detectedEdges d' items').landings.filter (·.icao24 = icao24)
  onGround : (returnedMaps d items).1 icao24 = (returnedMaps d' items').1 icao24
  openFlight : (returnedMaps d items).2 icao24 = (returnedMaps d' items').2 icao24

lemma takeoffOf_icao24 {t : Takeoff} {p : Position} (h : takeoffOf d p = some t) :
    t.icao24 = p.icao24 := by
  rw [takeoffOf] at h
  split_ifs at h
  obtain rfl := Option.some.inj h
  rfl

lemma landingOf_icao24 {l : Landing} {p : Position} (h : landingOf d p = some l) :
    l.icao24 = p.icao24 := by
  rw [landingOf] at h
  split_ifs at h
  obtain ⟨flightId, -, rfl⟩ := Option.map_eq_some_iff.mp h
  rfl

/-- The edges of an aircraft are those of its row. -/
lemma filter_filterMap_icao24 {ε : Type} {edge : Position → Option ε} {key : ε → String}
    (hkey : ∀ p e, edge p = some e → key e = p.icao24) (rows : List Position) :
    (rows.filterMap edge).filter (key · = icao24) =
      (rows.filter (·.icao24 = icao24)).filterMap edge := by
  rw [List.filter_filterMap, List.filterMap_filter]
  refine List.filterMap_congr fun p _ => ?_
  cases hedge : edge p with
  | none => simp
  | some e =>
    rw [← hkey p e hedge]
    by_cases hp : key e = icao24
    · simp [hp]
    · simp [hp]

/-- The maps a tick returns have an entry for the aircraft it has a row of. -/
lemma returnedMaps_eq (d : FlightLifecycleDetector) (items : List LivePosition) (icao24 : String) :
    (returnedMaps d items).1 icao24 = (rowOf (observedRows items) icao24).map Position.onGround ∧
      (returnedMaps d items).2 icao24 =
        (rowOf (observedRows items) icao24).bind fun p => (d.afterRow p).openFlight icao24 := by
  obtain ⟨hground, hopen⟩ := FlightLifecycleDetector.observe_maps (d := d) icao24
    (nodup_observedRows items)
  simp only [returnedMaps, FlightLifecycleDetector.stateFor, Dict.restrict,
    FlightLifecycleDetector.openFlightStateFor, hground, hopen]
  cases hrow : rowOf (observedRows items) icao24 with
  | none =>
    rw [if_neg (rowOf_eq_none_iff.mp hrow), if_neg (rowOf_eq_none_iff.mp hrow)]
    exact ⟨rfl, rfl⟩
  | some p =>
    have hmem : icao24 ∈ (observedRows items).map Position.icao24 := by
      by_contra hnot
      rw [rowOf_eq_none_iff.mpr hnot] at hrow
      cases hrow
    rw [if_pos hmem, if_pos hmem]
    exact ⟨rfl, rfl⟩

/-- Two ticks are alike for an aircraft with the same newest row and the same entries in the maps.
-/
lemma alikeFor_of_newestRow (hrow : newestRow items icao24 = newestRow items' icao24)
    (hground : d.onGround icao24 = d'.onGround icao24)
    (hopen : d.openFlight icao24 = d'.openFlight icao24) : AlikeFor icao24 d items d' items' := by
  have hobserved : rowOf (observedRows items) icao24 = rowOf (observedRows items') icao24 := by
    rw [rowOf_observedRows, rowOf_observedRows, hrow]
  have hlookup : (scopedRows items).lookup icao24 = (scopedRows items').lookup icao24 := by
    rw [lookup_scopedRows, lookup_scopedRows, hrow]
  have htakeoff : ∀ p ∈ rowOf (observedRows items') icao24, takeoffOf d p = takeoffOf d' p := by
    intro p hp
    obtain ⟨-, rfl⟩ := (rowOf_eq_some_iff (nodup_observedRows items')).mp hp
    rw [takeoffOf, takeoffOf, hground]
  have hlanding : ∀ p ∈ rowOf (observedRows items') icao24, landingOf d p = landingOf d' p := by
    intro p hp
    obtain ⟨-, rfl⟩ := (rowOf_eq_some_iff (nodup_observedRows items')).mp hp
    rw [landingOf, landingOf, hground, hopen]
  have hafter : ∀ p ∈ rowOf (observedRows items') icao24,
      (d.afterRow p).openFlight icao24 = (d'.afterRow p).openFlight icao24 := by
    intro p hp
    obtain ⟨-, rfl⟩ := (rowOf_eq_some_iff (nodup_observedRows items')).mp hp
    rw [FlightLifecycleDetector.afterRow_openFlight_self,
      FlightLifecycleDetector.afterRow_openFlight_self, hground, hopen]
  have haircraft : ∀ items, (upsertedAircraft items).filter (·.icao24 = icao24) =
      ((scopedRows items).lookup icao24).toList.map positionToAircraft := by
    intro items
    rw [upsertedAircraft, List.filter_map]
    exact congrArg (List.map positionToAircraft) (Table.filter_key_eq (scopedRows items).nodup icao24)
  obtain ⟨hmap, hopenMap⟩ := returnedMaps_eq d items icao24
  obtain ⟨hmap', hopenMap'⟩ := returnedMaps_eq d' items' icao24
  refine
    { aircraft := by rw [haircraft, haircraft, hlookup]
      takeoffs := ?_
      landings := ?_
      onGround := by rw [hmap, hmap', hobserved]
      openFlight := ?_ }
  · rw [detectedEdges_eq, detectedEdges_eq, filter_filterMap_icao24 fun _ _ => takeoffOf_icao24,
      filter_filterMap_icao24 fun _ _ => takeoffOf_icao24, filter_icao24 (nodup_observedRows items),
      filter_icao24 (nodup_observedRows items'), hobserved]
    exact List.filterMap_congr fun p hp => htakeoff p (Option.mem_toList.mp hp)
  · rw [detectedEdges_eq, detectedEdges_eq, filter_filterMap_icao24 fun _ _ => landingOf_icao24,
      filter_filterMap_icao24 fun _ _ => landingOf_icao24, filter_icao24 (nodup_observedRows items),
      filter_icao24 (nodup_observedRows items'), hobserved]
    exact List.filterMap_congr fun p hp => hlanding p (Option.mem_toList.mp hp)
  · rw [hopenMap, hopenMap', hobserved]
    exact Option.bind_congr hafter

/-! ### The order of the rows -/

/-- Two ticks that do the same: up to the order they upsert the same Aircraft and detect the same
edges, they return the same maps, and they return at all in the same cases. -/
structure SameTick (d : FlightLifecycleDetector) (items items' : List LivePosition) : Prop where
  aircraft : (upsertedAircraft items).Perm (upsertedAircraft items')
  takeoffs : (detectedEdges d items).takeoffs.Perm (detectedEdges d items').takeoffs
  landings : (detectedEdges d items).landings.Perm (detectedEdges d items').landings
  maps : returnedMaps d items = returnedMaps d items'
  returns : ∀ serverTime writes writes',
    (∃ result edges,
        incrementalSyncPositions d (positionsResponse items serverTime) writes =
          .ok (result, edges)) ↔
      ∃ result edges,
        incrementalSyncPositions d (positionsResponse items' serverTime) writes' =
          .ok (result, edges)

lemma sameTick_of_newestRow (h : newestRow items = newestRow items') : SameTick d items items' := by
  have hrows := aircraftRows_perm h
  have hobserved : (observedRows items).Perm (observedRows items') := hrows.map _
  have halike : ∀ icao24, AlikeFor icao24 d items d items' :=
    fun icao24 => alikeFor_of_newestRow (congrFun h icao24) rfl rfl
  have hlandings : (detectedEdges d items).landings.Perm (detectedEdges d items').landings := by
    rw [detectedEdges_eq, detectedEdges_eq]
    exact hobserved.filterMap _
  refine
    { aircraft := hrows.map _
      takeoffs := ?_
      landings := hlandings
      maps := Prod.ext (funext fun k => (halike k).onGround) (funext fun k => (halike k).openFlight)
      returns := fun serverTime writes writes' => ?_ }
  · rw [detectedEdges_eq, detectedEdges_eq]
    exact hobserved.filterMap _
  · rw [incrementalSyncPositions_returns, incrementalSyncPositions_returns, exists_mapM_ok_iff,
      exists_mapM_ok_iff]
    exact forall_congr' fun landing => imp_congr_left hlandings.mem_iff

/-- A tick is decided aircraft by aircraft, by the newest row and the entries in the maps; the order
of the rows changes nothing. -/
theorem positions_tick_by_aircraft (d : FlightLifecycleDetector) (items : List LivePosition)
    (hapart : SeenApart items) :
    (∀ serverTime writes result edges,
      incrementalSyncPositions d (positionsResponse items serverTime) writes = .ok (result, edges) →
        edges = detectedEdges d items ∧ result.detectorState = some (returnedMaps d items).1 ∧
          result.openFlightState = some (returnedMaps d items).2) ∧
    (∀ items', items.Perm items' → SameTick d items items') ∧
    ∀ icao24 newest, IsNewestRow items icao24 newest → ∀ d' items', SeenApart items' →
      IsNewestRow items' icao24 newest → d.onGround icao24 = d'.onGround icao24 →
        d.openFlight icao24 = d'.openFlight icao24 → AlikeFor icao24 d items d' items' := by
  refine ⟨fun serverTime writes result edges h => incrementalSyncPositions_maps h,
    fun items' hperm => sameTick_of_newestRow (newestRow_perm hapart hperm), ?_⟩
  intro icao24 newest hnewest d' items' hapart' hnewest' hground hopen
  refine alikeFor_of_newestRow ?_ hground hopen
  rw [newestRow_eq hapart hnewest, newestRow_eq hapart' hnewest']

/-- A row of an aircraft at a place. -/
def rowSeen (icao24 : String) (onGround : Bool) (lastSeenAt : Instant) : LivePosition where
  icao24 := icao24
  onGround := onGround
  customerRegion := none
  lastSeenAt := lastSeenAt
  callsign := none
  lat := 37
  lon := -122
  altitudeFt := none
  speedKt := none
  headingDeg := none
  verticalRateFpm := none
  staleness := .fresh

/-- One aircraft has taken off between its two rows, another has landed. -/
def twoEdges : List LivePosition :=
  [rowSeen "a0b1c2" true (100000000 : ℤ), rowSeen "d3e4f5" true (300000000 : ℤ),
   rowSeen "a0b1c2" false (200000000 : ℤ)]

def beforeEdges : FlightLifecycleDetector where
  onGround k := if k = "a0b1c2" then some true else if k = "d3e4f5" then some false else none
  openFlight k := if k = "d3e4f5" then some "d3e4f5-50" else none

theorem twoEdges_reversed :
    (detectedEdges beforeEdges twoEdges).takeoffs =
        [⟨"a0b1c2", (200000000 : ℤ), "a0b1c2-200"⟩] ∧
      SameTick beforeEdges twoEdges twoEdges.reverse := by
  have hapart : ∀ r ∈ twoEdges, ∀ r' ∈ twoEdges, r.address = r'.address → r.seenAt = r'.seenAt →
      r = r' := by decide
  exact ⟨by decide, (positions_tick_by_aircraft beforeEdges twoEdges hapart).2.1 _
    twoEdges.reverse_perm.symm⟩

end FleetMonitor
