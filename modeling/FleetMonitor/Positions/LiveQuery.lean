import FleetMonitor.Foundry.LivePositions
import FleetMonitor.Positions.CurrentPositions

/-!
# The live query

`QueryService.list_live_positions`: the rows of `app.current_positions` seen within the live window,
of the regions the caller may read, newest first and up to a ceiling.
-/

namespace FleetMonitor

open Library

/-! ### Scopes -/

def Region.text : Region → String
  | .west => "west"
  | .east => "east"
  | .all  => "all"

/-- The `customer_region` a region filter asks for. -/
def Region.customerRegion : Region → CustomerRegion
  | .west => .west
  | .east => .east
  | .all  => .all

/-- `Scope`. -/
structure Scope where
  userHandle : String
  region : Region
  customPerms : List String
  sitesInScope : List String
  deriving DecidableEq, Repr

/-- `ScopeViolation`, with its message and its details. -/
structure ScopeViolation where
  message : String
  details : List (String × String) := []
  deriving DecidableEq, Repr

/-- `get_scope`. -/
def getScope (watchedAirports : List String) : Scope where
  userHandle := "internal-ops"
  region := .all
  customPerms := []
  sitesInScope := watchedAirports

/-- The region a query of positions is filtered by. -/
def effectiveRegion (scope : Scope) (region : Option Region) : Except ScopeViolation Region :=
  match region with
  | none => .ok scope.region
  | some r =>
    if r ≠ scope.region ∧ scope.region ≠ .all then
      .error
        { message :=
            "User scope '" ++ scope.region.text ++ "' cannot request region '" ++ r.text ++ "'"
          details := [("requested_region", r.text)] }
    else .ok r

/-! ### The query -/

/-- `LIVE_POSITION_WINDOW`. -/
def livePositionWindow : Instant := 15 * 60000000

/-- `LIVE_POSITION_CEILING`. -/
def livePositionCeiling : ℕ := 50000

structure BoundingBox where
  latMin : ℚ
  lonMin : ℚ
  latMax : ℚ
  lonMax : ℚ
  deriving DecidableEq, Repr

def BoundingBox.contains (bbox : BoundingBox) (row : CurrentPosition) : Bool :=
  bbox.latMin ≤ row.lat ∧ row.lat ≤ bbox.latMax ∧ bbox.lonMin ≤ row.lon ∧ row.lon ≤ bbox.lonMax

/-- A row without a region is shown to every caller. -/
def inRegion (effective : Region) (row : CurrentPosition) : Bool :=
  effective = .all ∨ row.customerRegion = some effective.customerRegion ∨ row.customerRegion = none

/-- The `WHERE` clause. -/
def liveWhere (now : Instant) (effective : Region) (bbox : Option BoundingBox)
    (row : CurrentPosition) : Bool :=
  inRegion effective row ∧ bbox.all (·.contains row) ∧ now - livePositionWindow ≤ row.lastSeenAt

/-- An answer of the database: rows of equal `last_seen_at` come in any order. -/
def liveRows (now : Instant) (effective : Region) (bbox : Option BoundingBox)
    (positions : CurrentPositions) (order : List CurrentPosition) :
    Option (List CurrentPosition) :=
  if order.Perm (positions.rows.filter (liveWhere now effective bbox)) ∧
      order.Pairwise (fun a b => b.lastSeenAt ≤ a.lastSeenAt) then
    some (order.take (livePositionCeiling + 1))
  else none

/-! ### The response -/

/-- `_compute_staleness`. -/
def computeStaleness (lastSeenAt now : Instant) : Staleness :=
  let age : ℤ := now - lastSeenAt
  if age < 60 * 1000000 then .fresh
  else if age < 300 * 1000000 then .stale
  else .lost

/-- The `Position` of a row. -/
def CurrentPosition.toPosition (now : Instant) (row : CurrentPosition) : LivePosition where
  icao24 := row.icao24
  onGround := row.onGround
  customerRegion := row.customerRegion
  lastSeenAt := row.lastSeenAt
  callsign := row.callsign
  lat := row.lat
  lon := row.lon
  altitudeFt := row.altitudeFt
  speedKt := row.speedKt
  headingDeg := row.headingDeg
  verticalRateFpm := row.verticalRateFpm
  staleness := computeStaleness row.lastSeenAt now

/-- `PositionsLiveResponse`, all of it. -/
structure LiveResponse where
  items : List LivePosition
  count : ℕ
  serverTime : Instant
  pipelineLagSeconds : ℤ
  truncated : Bool
  deriving DecidableEq, Repr

/-- What `list_live_positions` makes of the rows. -/
def liveResponse (now : Instant) (rows : List CurrentPosition) : LiveResponse :=
  let kept := rows.take livePositionCeiling
  { items := kept.map (·.toPosition now)
    count := kept.length
    serverTime := now
    pipelineLagSeconds := (rows.head?.map fun row => timestampSeconds (now - row.lastSeenAt)).getD 0
    truncated := livePositionCeiling < rows.length }

/-! ### The feed of the Foundry jobs -/

/-- `fetch_positions_live`: no filter, in the scope of the stub. -/
def fetchPositionsLive (now : Instant) (positions : CurrentPositions)
    (order : List CurrentPosition) : Option LiveResponse :=
  (liveRows now .all none positions order).map (liveResponse now)

variable {now : Instant} {positions : CurrentPositions} {order : List CurrentPosition}
  {response : LiveResponse} {icao24 : String}

lemma liveWhere_all {row : CurrentPosition} :
    liveWhere now .all none row = decide (now - livePositionWindow ≤ row.lastSeenAt) := by
  simp [liveWhere, inRegion]

/-- What the feed has is live. -/
lemma SeenSince.of_feed (h : fetchPositionsLive now positions order = some response)
    (hicao24 : icao24 ∈ response.items.map (·.icao24)) :
    SeenSince positions (now - livePositionWindow) icao24 := by
  obtain ⟨rows, hrows, rfl⟩ := Option.map_eq_some_iff.mp h
  unfold liveRows at hrows
  split_ifs at hrows with horder
  obtain rfl := Option.some.inj hrows
  obtain ⟨p, hp, rfl⟩ := List.mem_map.mp hicao24
  obtain ⟨row, hrow, rfl⟩ := List.mem_map.mp hp
  have hmem := horder.1.mem_iff.mp (List.mem_of_mem_take (List.mem_of_mem_take hrow))
  obtain ⟨hrow, hwhere⟩ := List.mem_filter.mp hmem
  exact ⟨row, hrow, rfl, by simpa [liveWhere_all] using hwhere⟩

/-- The feed is whole as long as the live window has no more rows than the ceiling. -/
lemma truncated_eq_false (h : fetchPositionsLive now positions order = some response)
    (hfits : (positions.rows.filter fun row => now - livePositionWindow ≤ row.lastSeenAt).length ≤
      livePositionCeiling) : response.truncated = false := by
  obtain ⟨rows, hrows, rfl⟩ := Option.map_eq_some_iff.mp h
  unfold liveRows at hrows
  split_ifs at hrows with horder
  obtain rfl := Option.some.inj hrows
  have hlength : order.length ≤ livePositionCeiling := by
    have hwhere : liveWhere now .all none = fun row => decide (now - livePositionWindow ≤
        row.lastSeenAt) := funext fun _ => liveWhere_all
    rwa [horder.1.length_eq, hwhere]
  simp only [liveResponse, List.length_take, decide_eq_false_iff_not, not_lt]
  omega

/-- A feed that is not truncated has all that is live. -/
lemma mem_feed (h : fetchPositionsLive now positions order = some response)
    (htruncated : response.truncated = false) :
    icao24 ∈ response.items.map (·.icao24) ↔
      SeenSince positions (now - livePositionWindow) icao24 := by
  refine ⟨SeenSince.of_feed h, ?_⟩
  rintro ⟨row, hrow, rfl, hseen⟩
  obtain ⟨rows, hrows, rfl⟩ := Option.map_eq_some_iff.mp h
  unfold liveRows at hrows
  split_ifs at hrows with horder
  obtain rfl := Option.some.inj hrows
  have hceiling : (order.take (livePositionCeiling + 1)).length ≤ livePositionCeiling := by
    simpa [liveResponse] using htruncated
  have hshort : order.length ≤ livePositionCeiling := by
    rw [List.length_take] at hceiling
    omega
  have hmem : row ∈ order := horder.1.mem_iff.mpr
    (List.mem_filter.mpr ⟨hrow, by simpa [liveWhere_all] using hseen⟩)
  rw [liveResponse, List.take_of_length_le hceiling, List.take_of_length_le (by omega)]
  exact List.mem_map.mpr ⟨_, List.mem_map_of_mem hmem, rfl⟩

end FleetMonitor
