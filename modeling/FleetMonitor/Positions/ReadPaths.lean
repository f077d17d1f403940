import FleetMonitor.Positions.FlightTrails

/-!
# Who sees an aircraft

The region rule is written three times: in the `WHERE` clause of the live query, in the check that
raises and in the check that filters. They agree on the aircraft of a region and on those of none.
An aircraft of all regions is shown by the checks and left out by the clause, and a row that no
`Position` can hold takes the whole listing away.
-/

namespace FleetMonitor

open Library

/-! ### The reads of an aircraft -/

/-- The aircraft is among the live positions the caller gets. -/
def Listed (scope : Scope) (now : Instant) (positions : CurrentPositions)
    (order : List CurrentPosition) (icao24 : String) : Prop :=
  ∃ response, readLivePositions scope none none now positions order = .ok (some response) ∧
    ∃ item ∈ response.items, item.icao24 = icao24

/-- A read is refused for its scope. -/
def Refused {α : Type*} (read : Except QueryError α) : Prop :=
  ∃ e, read = .error (.scopeViolation e)

/-- The reads of an aircraft agree on whether the caller sees it. -/
structure ReadsAgree (str : TextFunctions) (scope : Scope) (now : Instant)
    (positions : CurrentPositions) (registry : AircraftRegistry) (order : List CurrentPosition)
    (icao24 : String) : Prop where
  flight : Listed scope now positions order (str.lower icao24) ↔
    ¬Refused (getFlight str.lower scope icao24 now positions registry)
  trail : ∀ lookback rows, Listed scope now positions order (str.lower icao24) ↔
    ¬Refused (getFlightTrail str scope icao24 lookback positions rows)
  batch : ∀ icao24s, icao24 ∈ icao24s →
    (Listed scope now positions order (str.lower icao24) ↔
      str.lower icao24 ∈ allowedTrails str scope icao24s positions)

/-- The four regions a row can have. -/
def customerRegions : List (Option CustomerRegion) := [some .west, some .east, some .all, none]

/-- A narrow scope and a row of the other region. -/
def OtherRegion (scope : Scope) (row : CurrentPosition) : Prop :=
  scope.region = .west ∧ row.customerRegion = some .east ∨
    scope.region = .east ∧ row.customerRegion = some .west

/-- The rows the caller's listing selects can all be held by a `Position`. -/
def ListingReadable (scope : Scope) (now : Instant) (positions : CurrentPositions) : Prop :=
  ∀ row ∈ positions.rows, liveWhere now scope.region none row = true → Readable row

variable {str : TextFunctions} {scope : Scope} {now : Instant} {positions : CurrentPositions}
  {registry : AircraftRegistry} {order rows : List CurrentPosition} {row : CurrentPosition}
  {icao24 : String}

/-! ### Each read by itself -/

lemma not_flightInScope_iff (hregion : row.customerRegion ∈ customerRegions) :
    flightInScope scope row.customerRegion = false ↔ OtherRegion scope row := by
  simp only [customerRegions, List.mem_cons, List.not_mem_nil, or_false] at hregion
  rw [OtherRegion]
  rcases hregion with h | h | h | h <;> cases hscope : scope.region <;>
    simp [flightInScope, gatingRegion, Scope.includesRegion, h, hscope]

lemma regionByIcao_of_mem (hrow : row ∈ positions.rows) :
    regionByIcao positions row.icao24 = row.customerRegion := by
  rw [regionByIcao, Table.lookup_of_mem hrow, Option.bind_some]

/-- `get_flight` refuses what the check refuses. -/
lemma refused_getFlight_iff (hrow : row ∈ positions.rows) (hspelled : str.lower icao24 = row.icao24)
    (hlive : now - livePositionWindow ≤ row.lastSeenAt) :
    Refused (getFlight str.lower scope icao24 now positions registry) ↔
      flightInScope scope row.customerRegion = false := by
  have hrecent : now - flightWindow ≤ row.lastSeenAt := by
    have hwindow : livePositionWindow ≤ flightWindow := by decide
    linarith
  have hfound : (positions.lookup (str.lower icao24)).filter
      (fun row => now - flightWindow ≤ row.lastSeenAt) = some row := by
    rw [hspelled, Table.lookup_of_mem hrow, Option.filter_some, if_pos (by simpa using hrecent)]
  rw [Refused, getFlight]
  simp only [hfound]
  cases hcheck : checkFlightScope scope row.customerRegion icao24 with
  | error e =>
    have hscope : flightInScope scope row.customerRegion = false := by
      rw [← Bool.not_eq_true, ← checkFlightScope_isOk_iff, hcheck]
      exact fun h => nomatch h
    simp [hscope]
  | ok u =>
    have hscope : flightInScope scope row.customerRegion = true :=
      checkFlightScope_isOk_iff.mp hcheck
    cases row.buildPosition now with
    | error e => simp [hscope]
    | ok position => simp [hscope]

/-- `get_flight_trail` refuses what the check refuses. -/
lemma refused_getFlightTrail_iff {lookback : TrailLookback}
    {answered : Except String (List PositionSnapshot)} :
    Refused (getFlightTrail str scope icao24 lookback positions answered) ↔
      flightInScope scope (regionByIcao positions (str.lower icao24)) = false := by
  refine ⟨fun ⟨e, he⟩ => ?_, fun h => getFlightTrail_of_not_inScope h⟩
  rw [← Bool.not_eq_true]
  intro hscope
  rw [getFlightTrail_of_inScope hscope] at he
  cases answered with
  | error reason => cases he
  | ok points =>
    cases hmapM : points.mapM trailPoint with
    | error e' =>
      obtain ⟨row, -, hrow⟩ := exists_mem_of_mapM_error hmapM
      obtain ⟨v, -, rfl⟩ := mapError_eq_error_iff.mp hrow
      simp [Except.mapError, Except.bind, Except.map, hmapM] at he
    | ok trail => simp [Except.mapError, Except.bind, Except.map, hmapM] at he

/-- The batch filters what the check refuses. -/
lemma mem_allowedTrails_iff (hrow : row ∈ positions.rows) (hspelled : str.lower icao24 = row.icao24)
    {icao24s : List String} (hasked : icao24 ∈ icao24s) :
    str.lower icao24 ∈ allowedTrails str scope icao24s positions ↔
      flightInScope scope row.customerRegion = true := by
  rw [mem_allowedTrails, hspelled, regionByIcao_of_mem hrow, and_iff_right_iff_imp]
  exact fun _ => ⟨icao24, hasked, hspelled⟩

/-- A listing that is not truncated is refused by a row it cannot hold, and else has all that the
`WHERE` clause selects. -/
lemma listed_iff (hrow : row ∈ positions.rows)
    (horder : liveRows now scope.region none positions order = some rows)
    (hceiling : rows.length ≤ livePositionCeiling) :
    Listed scope now positions order row.icao24 ↔
      liveWhere now scope.region none row = true ∧ ListingReadable scope now positions := by
  rw [liveRows] at horder
  split_ifs at horder with hanswer
  obtain rfl := Option.some.inj horder
  have hshort : order.length ≤ livePositionCeiling := by
    rw [List.length_take] at hceiling
    omega
  have hall : order.take (livePositionCeiling + 1) = order := List.take_of_length_le (by omega)
  have hmem : ∀ r, r ∈ order ↔ r ∈ positions.rows ∧ liveWhere now scope.region none r = true :=
    fun r => by rw [hanswer.1.mem_iff, List.mem_filter]
  have hrows : liveRows now scope.region none positions order = some order := by
    rw [liveRows, if_pos hanswer, hall]
  have hread : ∀ response,
      readLivePositions scope none none now positions order = .ok (some response) ↔
        (∀ r ∈ order, Readable r) ∧ liveResponse now order = response := by
    intro response
    rw [readLivePositions_ok_iff rfl hrows, List.take_of_length_le hshort]
  constructor
  · rintro ⟨response, hresponse, item, hitem, hid⟩
    obtain ⟨hreadable, rfl⟩ := (hread response).mp hresponse
    rw [liveResponse, List.take_of_length_le hshort] at hitem
    obtain ⟨r, hr, rfl⟩ := List.mem_map.mp hitem
    obtain ⟨hrows, hwhere⟩ := (hmem r).mp hr
    obtain rfl : r = row := Table.row_eq_of_key_eq hrows hrow hid
    exact ⟨hwhere, fun r hr hwhere => hreadable r ((hmem r).mpr ⟨hr, hwhere⟩)⟩
  · rintro ⟨hwhere, hreadable⟩
    have hall : ∀ r ∈ order, Readable r := by
      intro r hr
      obtain ⟨hr, hwhere⟩ := (hmem r).mp hr
      exact hreadable r hr hwhere
    refine ⟨liveResponse now order, (hread _).mpr ⟨hall, rfl⟩, row.toPosition now, ?_, rfl⟩
    rw [liveResponse, List.take_of_length_le hshort]
    exact List.mem_map_of_mem ((hmem row).mpr ⟨hrow, hwhere⟩)

/-! ### Agreement -/

/-- The `WHERE` clause and the checks differ on the aircraft of all regions. -/
lemma liveWhere_iff (hlive : now - livePositionWindow ≤ row.lastSeenAt)
    (hregion : row.customerRegion ∈ customerRegions) :
    liveWhere now scope.region none row = true ↔
      ¬OtherRegion scope row ∧ (scope.region = .all ∨ row.customerRegion ≠ some .all) := by
  simp only [customerRegions, List.mem_cons, List.not_mem_nil, or_false] at hregion
  rw [OtherRegion]
  rcases hregion with h | h | h | h <;> cases hscope : scope.region <;>
    simp [-tsub_le_iff_right, liveWhere, inRegion, Region.customerRegion, h, hlive]

/-- For an aircraft in the live window, the reads agree exactly when it is of the other region, or
it is not one of all regions that a narrow scope reads and the caller's listing holds no row that
fails the whole of it. -/
theorem reads_agree_iff (str : TextFunctions) (scope : Scope) (now : Instant)
    (positions : CurrentPositions) (registry : AircraftRegistry)
    (order rows : List CurrentPosition) (row : CurrentPosition) (icao24 : String)
    (hrow : row ∈ positions.rows) (hspelled : str.lower icao24 = row.icao24)
    (hlive : now - livePositionWindow ≤ row.lastSeenAt)
    (hregion : row.customerRegion ∈ customerRegions)
    (horder : liveRows now scope.region none positions order = some rows)
    (hceiling : rows.length ≤ livePositionCeiling) :
    ReadsAgree str scope now positions registry order icao24 ↔
      OtherRegion scope row ∨
        (scope.region = .all ∨ row.customerRegion ≠ some .all) ∧
          ListingReadable scope now positions := by
  have hvisible : flightInScope scope row.customerRegion = true ↔ ¬OtherRegion scope row := by
    rw [← not_flightInScope_iff hregion, Bool.not_eq_false]
  have hregionOf : regionByIcao positions (str.lower icao24) = row.customerRegion := by
    rw [hspelled, regionByIcao_of_mem hrow]
  have hagree : ReadsAgree str scope now positions registry order icao24 ↔
      (Listed scope now positions order row.icao24 ↔ ¬OtherRegion scope row) := by
    constructor
    · intro h
      have hflight := h.flight
      rwa [hspelled, refused_getFlight_iff hrow hspelled hlive, Bool.not_eq_false, hvisible]
        at hflight
    · intro h
      refine ⟨?_, fun lookback points => ?_, fun icao24s hasked => ?_⟩
      · rw [hspelled, refused_getFlight_iff hrow hspelled hlive, Bool.not_eq_false, hvisible]
        exact h
      · rw [refused_getFlightTrail_iff, hregionOf, Bool.not_eq_false, hvisible, hspelled]
        exact h
      · rw [mem_allowedTrails_iff hrow hspelled hasked, hvisible, hspelled]
        exact h
  rw [hagree, listed_iff hrow horder hceiling, liveWhere_iff hlive hregion]
  tauto

/-! ### One aircraft -/

/-- An aircraft seen just now. -/
def seenAircraft (customerRegion : CustomerRegion) : CurrentPosition where
  icao24 := "aaa111"
  callsign := none
  lat := 40
  lon := -90
  altitudeFt := none
  speedKt := none
  headingDeg := none
  verticalRateFpm := none
  onGround := false
  squawk := none
  customerRegion := some customerRegion
  lastSeenAt := 0
  aircraftType := none
  updatedAt := 0

def onlyAircraft (customerRegion : CustomerRegion) : CurrentPositions where
  rows := [seenAircraft customerRegion]
  nodup := List.nodup_singleton _

lemma readable_seenAircraft : Readable (seenAircraft .west) := by
  refine ⟨?_, ?_, by decide⟩
  · norm_num [seenAircraft]
  · norm_num [seenAircraft]

theorem reads_agree_west :
    ReadsAgree asciiText westScope 0 (onlyAircraft .west) Table.empty [seenAircraft .west]
      "AAA111" := by
  refine (reads_agree_iff asciiText westScope 0 (onlyAircraft .west) Table.empty
    [seenAircraft .west] [seenAircraft .west] (seenAircraft .west) "AAA111" (by simp [onlyAircraft])
    (by decide) (by decide) (by decide) (by decide) (by decide)).mpr (.inr ⟨by decide, ?_⟩)
  intro row hrow _
  rw [List.mem_singleton.mp hrow]
  exact readable_seenAircraft

/-- An aircraft of all regions is shown by each single read of a narrow scope, and is not listed. -/
theorem all_region_unlisted :
    ¬∀ (str : TextFunctions) (scope : Scope) (now : Instant) (positions : CurrentPositions)
        (registry : AircraftRegistry) (order rows : List CurrentPosition) (row : CurrentPosition)
        (icao24 : String),
      row ∈ positions.rows → str.lower icao24 = row.icao24 →
      now - livePositionWindow ≤ row.lastSeenAt → row.customerRegion ∈ customerRegions →
      liveRows now scope.region none positions order = some rows →
      rows.length ≤ livePositionCeiling →
        ReadsAgree str scope now positions registry order icao24 := by
  intro h
  have hagree := h asciiText westScope 0 (onlyAircraft .all) Table.empty [] [] (seenAircraft .all)
    "AAA111" (by simp [onlyAircraft]) (by decide) (by decide) (by decide) (by decide) (by decide)
  have hshown : ¬Refused (getFlight asciiText.lower westScope "AAA111" 0 (onlyAircraft .all)
      Table.empty) := by
    rw [refused_getFlight_iff (List.mem_singleton_self (seenAircraft .all)) (by decide) (by decide)]
    decide
  obtain ⟨response, hresponse, item, hitem, -⟩ := hagree.flight.mpr hshown
  obtain ⟨-, rfl⟩ := (readLivePositions_ok_iff rfl rfl).mp hresponse
  cases hitem

end FleetMonitor
