import FleetMonitor.Detection.LostSignal

/-!
# Silence in the feed

What the detector's two readings of a feed give together: the last transmission of an aircraft is
its newest snapshot in the whole feed, while the clock and the state of its flight are those of the
snapshots in scope. An aircraft that leaves a region and keeps transmitting is not lost.
-/

namespace FleetMonitor

/-- The snapshots in a watched region. -/
def inScope (positions : List PositionSnapshot) : List PositionSnapshot :=
  positions.filter fun row => row.customerRegion.isSome

/-- The clock of the rule: the newest snapshot in scope. -/
def ScopeClock (positions : List PositionSnapshot) (now : Instant) : Prop :=
  IsGreatest {t | ∃ row ∈ inScope positions, row.tsPolled = t} now

/-- The feed heard an aircraft last at that time, in or out of scope. -/
def LastHeard (positions : List PositionSnapshot) (icao24 : String) (heard : Instant) : Prop :=
  IsGreatest {t | ∃ row ∈ positions, row.icao24 = icao24 ∧ row.tsPolled = t} heard

/-- The newest snapshot of an aircraft in scope. -/
def LastInScope (positions : List PositionSnapshot) (icao24 : String) (last : PositionSnapshot) :
    Prop :=
  IsNewest PositionSnapshot.tsPolled ((inScope positions).filter fun row => row.icao24 = icao24) last

/-- A snapshot in level cruise. -/
structure LevelCruise (last : PositionSnapshot) (alt : ℤ) : Prop where
  airborne : last.onGround = false
  altitude : last.altitudeFt = some alt
  cruise : cruiseFloorFt ≤ alt
  level : ∀ vrate, last.verticalRateFpm = some vrate → |vrate| ≤ levelVrateFpm

/-- An aircraft fell silent in level cruise, and the silence is worth a case. -/
def LostInFeed (sparseCells : List (ℤ × ℤ)) (positions : List PositionSnapshot) (icao24 : String) :
    Prop :=
  ∃ now heard last alt, ScopeClock positions now ∧ LastHeard positions icao24 heard ∧
    LastInScope positions icao24 last ∧ LevelCruise last alt ∧
    lostMinGap ≤ now - heard ∧ now - heard ≤ lostMaxGap ∧
    classifySeverity sparseCells alt (now - heard) (some last.lat) (some last.lon) ≠ .low

/-! ### The frame -/

variable {libs : Libraries} {ref : Reference} {sparseCells : List (ℤ × ℤ)}
  {positions : List PositionSnapshot} {icao24 : String} {now heard : Instant}
  {last : PositionSnapshot}

lemma max?_eq_some_iff_isGreatest {times : List Instant} {t : Instant} :
    times.max? = some t ↔ IsGreatest {t | t ∈ times} t := by
  rw [List.max?_eq_some_iff]
  exact Iff.rfl

/-- The clock of the rule is that of its frame. -/
lemma scopeClock_iff :
    ((detectorFrame libs ref positions).map fun pos => pos.tsPolled).max? = some now ↔
      ScopeClock positions now := by
  rw [max?_eq_some_iff_isGreatest, detectorFrame, List.map_map, ScopeClock, inScope]
  simp only [List.mem_map]
  exact Iff.rfl

/-- The column the detector adds is the last transmission. -/
lemma feedLastSeen_eq_some_iff :
    feedLastSeen positions icao24 = some heard ↔ LastHeard positions icao24 heard := by
  rw [feedLastSeen, max?_eq_some_iff_isGreatest, LastHeard]
  simp only [List.mem_map, List.mem_filter, decide_eq_true_eq, and_assoc]

lemma LastInScope.mem (h : LastInScope positions icao24 last) :
    last ∈ positions ∧ last.icao24 = icao24 := by
  obtain ⟨hmem, hid⟩ := List.mem_filter.mp (IsNewest.mem h)
  exact ⟨List.mem_of_mem_filter hmem, of_decide_eq_true hid⟩

/-- The group of an aircraft in the frame of the detector. -/
lemma group_detectorFrame :
    group (detectorFrame libs ref positions) icao24 =
      ((inScope positions).filter fun row => row.icao24 = icao24).map fun row =>
        enrichPosition libs ref (feedLastSeen positions icao24) row := by
  rw [group, detectorFrame, List.filter_map, inScope]
  apply List.map_congr_left
  intro row hrow
  have hid : row.icao24 = icao24 := of_decide_eq_true (List.mem_filter.mp hrow).2
  rw [hid]

/-- The last row of a group is the newest snapshot in scope. -/
lemma latestRow_group_iff {pos : EnrichedPosition} :
    latestRow (group (detectorFrame libs ref positions) icao24) = some pos ↔
      ∃ last, enrichPosition libs ref (feedLastSeen positions icao24) last = pos ∧
        LastInScope positions icao24 last := by
  rw [latestRow_eq_some_iff, group_detectorFrame, isNewest_map]
  exact Iff.rfl

/-- An aircraft in the frame is in the feed, so its silence counts from the feed. -/
lemma feedLast_group (hheard : LastHeard positions icao24 heard)
    (hlast : LastInScope positions icao24 last) (pos : EnrichedPosition) :
    feedLast (group (detectorFrame libs ref positions) icao24) pos = heard := by
  have hseen : feedLastSeen positions icao24 = some heard := feedLastSeen_eq_some_iff.mpr hheard
  have hne : ((inScope positions).filter fun row => row.icao24 = icao24) ≠ [] :=
    List.ne_nil_of_mem (IsNewest.mem hlast)
  obtain ⟨row, rows, hrows⟩ := List.exists_cons_of_ne_nil hne
  rw [feedLast, group_detectorFrame, hrows, hseen]
  rfl

lemma exists_lastHeard (hlast : LastInScope positions icao24 last) :
    ∃ heard, LastHeard positions icao24 heard := by
  have hmem : last.tsPolled ∈
      (positions.filter fun row => row.icao24 = icao24).map PositionSnapshot.tsPolled := by
    obtain ⟨hmem, hid⟩ := hlast.mem
    exact List.mem_map_of_mem (List.mem_filter.mpr ⟨hmem, decide_eq_true hid⟩)
  cases hseen : feedLastSeen positions icao24 with
  | none =>
    rw [List.max?_eq_none_iff.mp hseen] at hmem
    cases hmem
  | some heard => exact ⟨heard, feedLastSeen_eq_some_iff.mp hseen⟩

/-! ### The rule -/

lemma lostSignalAnomaly_icao24 {grp : List EnrichedPosition} {a : Anomaly}
    (h : lostSignalAnomaly libs sparseCells now icao24 grp = some a) : a.icao24 = some icao24 := by
  obtain ⟨last, -, h⟩ := Option.bind_eq_some_iff.mp h
  obtain ⟨-, h⟩ := Option.ite_none_left_eq_some.mp h
  obtain ⟨alt, -, h⟩ := Option.bind_eq_some_iff.mp h
  obtain ⟨-, h⟩ := Option.ite_none_left_eq_some.mp h
  obtain ⟨-, h⟩ := Option.ite_none_left_eq_some.mp h
  obtain ⟨-, h⟩ := Option.ite_none_left_eq_some.mp h
  obtain ⟨-, h⟩ := Option.ite_none_left_eq_some.mp h
  obtain rfl := Option.some.inj h
  rfl

/-- The guards of the loop body. -/
lemma lostSignalAnomaly_isSome_iff {grp : List EnrichedPosition} :
    (lostSignalAnomaly libs sparseCells now icao24 grp).isSome ↔
      ∃ pos alt, latestRow grp = some pos ∧ LevelCruise pos.toPositionSnapshot alt ∧
        lostMinGap ≤ now - feedLast grp pos ∧ now - feedLast grp pos ≤ lostMaxGap ∧
        classifySeverity sparseCells alt (now - feedLast grp pos) (some pos.lat) (some pos.lon) ≠
          .low := by
  constructor
  · intro h
    obtain ⟨a, h⟩ := Option.isSome_iff_exists.mp h
    obtain ⟨pos, hpos, h⟩ := Option.bind_eq_some_iff.mp h
    obtain ⟨hground, h⟩ := Option.ite_none_left_eq_some.mp h
    obtain ⟨alt, halt, h⟩ := Option.bind_eq_some_iff.mp h
    obtain ⟨hfloor, h⟩ := Option.ite_none_left_eq_some.mp h
    obtain ⟨hgap, h⟩ := Option.ite_none_left_eq_some.mp h
    obtain ⟨hvrate, h⟩ := Option.ite_none_left_eq_some.mp h
    obtain ⟨hlow, -⟩ := Option.ite_none_left_eq_some.mp h
    obtain ⟨hmin, hmax⟩ := not_not.mp hgap
    refine ⟨pos, alt, hpos, ⟨by simpa using hground, halt, not_lt.mp hfloor, ?_⟩, hmin, hmax, hlow⟩
    intro vrate hv
    rw [hv] at hvrate
    simpa using hvrate
  · rintro ⟨pos, alt, hpos, hcruise, hmin, hmax, hlow⟩
    have hfloor : ¬alt < cruiseFloorFt := not_lt.mpr hcruise.cruise
    have hvrate :
        pos.verticalRateFpm.any (fun vrate => decide (levelVrateFpm < |vrate|)) = false := by
      cases hv : pos.verticalRateFpm with
      | none => rfl
      | some vrate => simpa using hcruise.level vrate hv
    simp [-tsub_le_iff_right, lostSignalAnomaly, hpos, hcruise.airborne, hcruise.altitude, hfloor,
      hmin, hmax, hvrate, hlow]

/-- In the frame of a feed, the loop body reports the aircraft lost in the feed. -/
lemma lostSignalAnomaly_frame_iff (hnow : ScopeClock positions now) :
    (lostSignalAnomaly libs sparseCells now icao24
        (group (detectorFrame libs ref positions) icao24)).isSome ↔
      LostInFeed sparseCells positions icao24 := by
  rw [lostSignalAnomaly_isSome_iff]
  constructor
  · rintro ⟨pos, alt, hpos, hcruise, hmin, hmax, hlow⟩
    obtain ⟨last, rfl, hlast⟩ := latestRow_group_iff.mp hpos
    obtain ⟨heard, hheard⟩ := exists_lastHeard hlast
    rw [feedLast_group hheard hlast] at hmin hmax hlow
    exact ⟨now, heard, last, alt, hnow, hheard, hlast, hcruise, hmin, hmax, hlow⟩
  · rintro ⟨clock, heard, last, alt, hclock, hheard, hlast, hcruise, hmin, hmax, hlow⟩
    obtain rfl := hnow.unique hclock
    refine ⟨enrichPosition libs ref (feedLastSeen positions icao24) last, alt,
      latestRow_group_iff.mpr ⟨last, rfl, hlast⟩, hcruise, ?_⟩
    rw [feedLast_group hheard hlast]
    exact ⟨hmin, hmax, hlow⟩

/-- An aircraft the feed has heard within 14 minutes is not lost. -/
lemma LostInFeed.not_of_heard {row : PositionSnapshot} (hrow : row ∈ positions)
    (hnow : ScopeClock positions now) (hrecent : now - row.tsPolled < lostMinGap) :
    ¬LostInFeed sparseCells positions row.icao24 := by
  rintro ⟨clock, heard, last, alt, hclock, hheard, -, -, hmin, -, -⟩
  obtain rfl := hnow.unique hclock
  have hle : row.tsPolled ≤ heard := hheard.2 ⟨row, hrow, rfl, rfl⟩
  linarith

/-- Of a feed, the rule reports the aircraft lost in it, each once, and none that the feed has heard
within 14 minutes. -/
theorem lost_signal_reports (libs : Libraries) (ref : Reference) (sparseCells : List (ℤ × ℤ))
    (positions : List PositionSnapshot) :
    ∃ lost : List String, lost.Pairwise (· < ·) ∧
      (∀ icao24, icao24 ∈ lost ↔ LostInFeed sparseCells positions icao24) ∧
      (lostSignalDetect libs sparseCells (detectorFrame libs ref positions)).map Anomaly.icao24 =
        lost.map some ∧
      ∀ now, ScopeClock positions now → ∀ row ∈ positions,
        now - row.tsPolled < lostMinGap → row.icao24 ∉ lost := by
  cases hnow : ((detectorFrame libs ref positions).map fun pos => pos.tsPolled).max? with
  | none =>
    have hnone : ∀ now, ¬ScopeClock positions now := by
      intro now hclock
      rw [scopeClock_iff.mpr hclock] at hnow
      cases hnow
    refine ⟨[], List.Pairwise.nil, fun icao24 => ?_, ?_,
      fun now hclock => absurd hclock (hnone now)⟩
    · refine iff_of_false List.not_mem_nil ?_
      rintro ⟨now, -, -, -, hclock, -⟩
      exact hnone now hclock
    · rw [lostSignalDetect, hnow]
      rfl
  | some now =>
    have hclock : ScopeClock positions now := scopeClock_iff.mp hnow
    have hmem : ∀ icao24,
        icao24 ∈ (groupKeys (detectorFrame libs ref positions)).filter (fun id =>
            (lostSignalAnomaly libs sparseCells now id
              (group (detectorFrame libs ref positions) id)).isSome) ↔
          LostInFeed sparseCells positions icao24 := by
      intro icao24
      rw [List.mem_filter, lostSignalAnomaly_frame_iff hclock, and_iff_right_iff_imp]
      rintro ⟨-, -, last, -, -, -, hlast, -⟩
      refine mem_groupKeys.mpr
        ⟨enrichPosition libs ref (feedLastSeen positions icao24) last, ?_, hlast.mem.2⟩
      exact (mem_group.mp
        (latestRow_eq_some_iff.mp (latestRow_group_iff.mpr ⟨last, rfl, hlast⟩)).mem).1
    refine ⟨_, groupKeys_pairwise.filter _, hmem, ?_, ?_⟩
    · rw [lostSignalDetect, hnow]
      exact map_icao24_groups _ (lostSignalAnomaly libs sparseCells now)
        (fun id grp a ha => lostSignalAnomaly_icao24 ha) _
    · intro clock hclock' row hrow hrecent hlost
      exact LostInFeed.not_of_heard hrow hclock' hrecent ((hmem row.icao24).mp hlost)

end FleetMonitor
