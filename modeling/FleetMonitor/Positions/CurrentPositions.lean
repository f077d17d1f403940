import FleetMonitor.Foundry.FlightLifecycle
import FleetMonitor.Library.Table
import Mathlib.Data.Rat.Floor
import Mathlib.Tactic.Linarith

/-!
# Polled positions

A poll of the feed gives one snapshot row per aircraft. The rows go to the lake as they are and are
upserted into `app.current_positions`, which keeps the newest of each aircraft, as far as its
columns can hold the values. The prune job bounds that table. Coordinates are numbers here: `inf`
and `nan` are left out.
-/

namespace FleetMonitor

open Library

/-! ### Rows -/

/-- A row of a snapshot: `POSITIONS_COLUMNS`. -/
structure PositionSnapshot where
  icao24 : String
  callsign : Option String
  originCountry : Option String
  lat : ℚ
  lon : ℚ
  altitudeFt : Option ℤ
  speedKt : Option ℤ
  headingDeg : Option ℤ
  verticalRateFpm : Option ℤ
  onGround : Bool
  squawk : Option String
  tsPolled : Instant
  tsPosition : Option Instant
  customerRegion : Option CustomerRegion
  deriving DecidableEq, Repr

/-- A row of `app.current_positions`; no writer sets its `origin_icao` and `destination_icao`. -/
structure CurrentPosition where
  icao24 : String
  callsign : Option String
  lat : ℚ
  lon : ℚ
  altitudeFt : Option ℤ
  speedKt : Option ℤ
  headingDeg : Option ℤ
  verticalRateFpm : Option ℤ
  onGround : Bool
  squawk : Option String
  customerRegion : Option CustomerRegion
  lastSeenAt : Instant
  aircraftType : Option String
  updatedAt : Instant
  deriving DecidableEq, Repr

abbrev CurrentPositions := Table CurrentPosition.icao24

/-! ### The upsert -/

/-- The row `_upsert_current_positions` sends for a snapshot row. -/
def excludedRow (now : Instant) (aircraftTypes : Dict String) (row : PositionSnapshot) :
    CurrentPosition where
  icao24 := row.icao24
  callsign := row.callsign
  lat := row.lat
  lon := row.lon
  altitudeFt := row.altitudeFt
  speedKt := row.speedKt
  headingDeg := row.headingDeg
  verticalRateFpm := row.verticalRateFpm
  onGround := row.onGround
  squawk := row.squawk
  customerRegion := row.customerRegion
  lastSeenAt := row.tsPosition.getD row.tsPolled
  aircraftType := aircraftTypes row.icao24
  updatedAt := now

/-- The `ON CONFLICT` clause of `CURRENT_POSITIONS_UPSERT_SQL`. -/
def onConflict (now : Instant) (old excluded : CurrentPosition) : CurrentPosition :=
  let newer := old.lastSeenAt < excluded.lastSeenAt
  { icao24 := old.icao24
    callsign := if newer then excluded.callsign else old.callsign
    lat := if newer then excluded.lat else old.lat
    lon := if newer then excluded.lon else old.lon
    altitudeFt := if newer then excluded.altitudeFt else old.altitudeFt
    speedKt := if newer then excluded.speedKt else old.speedKt
    headingDeg := if newer then excluded.headingDeg else old.headingDeg
    verticalRateFpm := if newer then excluded.verticalRateFpm else old.verticalRateFpm
    onGround := if newer then excluded.onGround else old.onGround
    squawk := if newer then excluded.squawk else old.squawk
    customerRegion := if newer then excluded.customerRegion else old.customerRegion
    lastSeenAt := max excluded.lastSeenAt old.lastSeenAt
    aircraftType := old.aircraftType.or excluded.aircraftType
    updatedAt := now }

/-- One row of the statement. -/
def upsertPosition (now : Instant) (positions : CurrentPositions) (row : CurrentPosition) :
    CurrentPositions :=
  positions.upsert <|
    match positions.lookup row.icao24 with
    | none     => row
    | some old => onConflict now old row

/-- What Postgres makes of the values it is sent: a number at the five decimals of `lat` and `lon`,
and which texts it takes. -/
structure PositionColumns where
  numeric : ℚ → ℚ
  isText : String → Bool

/-- A `NUMERIC` with so many digits before the point. -/
def fitsNumeric (digits : ℕ) (x : ℚ) : Bool := -10 ^ digits < x ∧ x < 10 ^ digits

/-- An `INT`. -/
def fitsInt (n : ℤ) : Bool := -2 ^ 31 ≤ n ∧ n < 2 ^ 31

variable (columns : PositionColumns)

/-- The row in the types of its columns. -/
def PositionColumns.store (row : CurrentPosition) : CurrentPosition :=
  { row with lat := columns.numeric row.lat, lon := columns.numeric row.lon }

/-- The columns can hold the values of the row: `lat` is `NUMERIC(8,5)`, `lon` is `NUMERIC(9,5)`. -/
def PositionColumns.fits (row : CurrentPosition) : Bool :=
  fitsNumeric 3 (columns.numeric row.lat) && fitsNumeric 4 (columns.numeric row.lon) &&
    [row.altitudeFt, row.speedKt, row.headingDeg, row.verticalRateFpm].all (·.all fitsInt) &&
    columns.isText row.icao24 && [row.callsign, row.squawk].all (·.all columns.isText)

/-- One statement. It is aborted when a value does not fit into its column, or when it has two rows
of an aircraft: `ON CONFLICT` cannot affect a row a second time. -/
def upsertCurrentPositions (now : Instant) (positions : CurrentPositions)
    (rows : List CurrentPosition) : Option CurrentPositions :=
  if (∀ row ∈ rows, columns.fits row = true) ∧ (rows.map CurrentPosition.icao24).Nodup then
    some ((rows.map columns.store).foldl (upsertPosition now) positions)
  else none

/-- `POSITION_RETENTION`. -/
def positionRetention : Instant := 3 * 3600000000

/-- `prune_stale_positions`. -/
def pruneStalePositions (now : Instant) (positions : CurrentPositions) : CurrentPositions where
  rows := positions.rows.filter fun row => ¬row.lastSeenAt < now - positionRetention
  nodup := (List.filter_sublist.map CurrentPosition.icao24).nodup positions.nodup

/-! ### What is seen -/

/-- The aircraft has been seen since then. -/
def SeenSince (positions : CurrentPositions) (cutoff : Instant) (icao24 : String) : Prop :=
  ∃ row ∈ positions.rows, row.icao24 = icao24 ∧ cutoff ≤ row.lastSeenAt

instance (positions : CurrentPositions) (cutoff : Instant) :
    DecidablePred (SeenSince positions cutoff) := fun _ =>
  inferInstanceAs (Decidable (∃ row ∈ _, _ ∧ _))

variable {columns} {now cutoff : Instant} {positions : CurrentPositions} {icao24 : String}

lemma SeenSince.mono {cutoff' : Instant} (h : SeenSince positions cutoff' icao24)
    (hle : cutoff ≤ cutoff') : SeenSince positions cutoff icao24 := by
  obtain ⟨row, hrow, hicao24, hseen⟩ := h
  exact ⟨row, hrow, hicao24, hle.trans hseen⟩

/-- A row makes its own aircraft seen, and no other. -/
lemma seenSince_upsertPosition {row : CurrentPosition} :
    SeenSince (upsertPosition now positions row) cutoff icao24 ↔
      (row.icao24 = icao24 ∧ cutoff ≤ row.lastSeenAt) ∨ SeenSince positions cutoff icao24 := by
  have hkey : ∀ old, positions.lookup row.icao24 = some old → old.icao24 = row.icao24 :=
    fun old hold => Table.key_of_lookup hold
  unfold SeenSince upsertPosition
  constructor
  · rintro ⟨r, hr, rfl, hseen⟩
    rcases Table.mem_rows_upsert.mp hr with rfl | ⟨hr, -⟩
    · cases hold : positions.lookup row.icao24 with
      | none =>
        rw [hold] at hseen
        exact .inl ⟨rfl, hseen⟩
      | some old =>
        rw [hold] at hseen
        rcases le_max_iff.mp hseen with hseen | hseen
        · exact .inl ⟨(hkey old hold).symm, hseen⟩
        · exact .inr ⟨old, Table.mem_rows_of_lookup hold, rfl, hseen⟩
    · exact .inr ⟨r, hr, rfl, hseen⟩
  · rintro (⟨rfl, hseen⟩ | ⟨r, hr, rfl, hseen⟩)
    · cases hold : positions.lookup row.icao24 with
      | none => exact ⟨row, Table.mem_rows_upsert.mpr (.inl rfl), rfl, hseen⟩
      | some old =>
        exact ⟨onConflict now old row, Table.mem_rows_upsert.mpr (.inl rfl), hkey old hold,
          le_max_of_le_left hseen⟩
    · by_cases hsame : r.icao24 = row.icao24
      · have hold : positions.lookup row.icao24 = some r := hsame ▸ Table.lookup_of_mem hr
        rw [hold]
        exact ⟨onConflict now r row, Table.mem_rows_upsert.mpr (.inl rfl), rfl,
          le_max_of_le_right hseen⟩
      · refine ⟨r, Table.mem_rows_upsert.mpr (.inr ⟨hr, ?_⟩), rfl, hseen⟩
        cases hold : positions.lookup row.icao24 with
        | none => exact hsame
        | some old => exact fun he => hsame (he.trans (hkey old hold))

/-- A statement makes seen the aircraft of its rows. -/
lemma seenSince_upsertCurrentPositions {rows : List CurrentPosition} {after : CurrentPositions}
    (h : upsertCurrentPositions columns now positions rows = some after) :
    SeenSince after cutoff icao24 ↔
      (∃ row ∈ rows, row.icao24 = icao24 ∧ cutoff ≤ row.lastSeenAt) ∨
        SeenSince positions cutoff icao24 := by
  unfold upsertCurrentPositions at h
  split_ifs at h
  obtain rfl := Option.some.inj h
  clear h
  induction rows generalizing positions with
  | nil => simp
  | cons row rows ih =>
    rename_i hstored
    have hrest : (∀ row ∈ rows, columns.fits row = true) ∧
        (rows.map CurrentPosition.icao24).Nodup :=
      ⟨fun r hr => hstored.1 r (List.mem_cons_of_mem _ hr), (List.nodup_cons.mp hstored.2).2⟩
    rw [List.map_cons, List.foldl_cons, ih hrest, seenSince_upsertPosition]
    simp only [PositionColumns.store, List.mem_cons, exists_eq_or_imp]
    rw [or_assoc, or_left_comm]

/-- The prune takes away only what has not been seen for long. -/
lemma SeenSince.of_prune (h : SeenSince (pruneStalePositions now positions) cutoff icao24) :
    SeenSince positions cutoff icao24 := by
  obtain ⟨row, hrow, hicao24, hseen⟩ := h
  exact ⟨row, List.mem_of_mem_filter hrow, hicao24, hseen⟩

/-! ### Postgres -/

/-- A number at five decimals: a tie is rounded away from zero. -/
def roundFive (x : ℚ) : ℚ :=
  if 0 ≤ x then ⌊100000 * x + 1 / 2⌋ / 100000 else ⌈100000 * x - 1 / 2⌉ / 100000

/-- The columns as Postgres has them; it takes no text with a null character. -/
def postgresColumns : PositionColumns where
  numeric := roundFive
  isText s := Char.ofNat 0 ∉ s.toList

end FleetMonitor
