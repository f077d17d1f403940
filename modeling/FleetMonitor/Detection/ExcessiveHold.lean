import FleetMonitor.Detection.EnrichedPositions
import FleetMonitor.Detection.Rules
import Mathlib.Data.Int.Interval

/-!
# Excessive holds

`ExcessiveHoldRule` over a lake that is polled at a constant interval. What a tick reads spans
`LOOKBACK_MINUTES`, which bounds the snapshots of one aircraft it can contain.
-/

namespace FleetMonitor

open Library

/-! ### The rule -/

/-- `HOLD_RADIUS_NM`. -/
def holdRadiusNm : ℚ := 15

/-- `HOLD_CEILING_FT`. -/
def holdCeilingFt : ℤ := 15000

/-- `HOLD_MIN_DURATION`. -/
def holdMinDuration : Instant := minutes 30

/-- `MIN_SNAPSHOTS`. -/
def minSnapshots : ℕ := 10

/-- `MIN_DISTINCT_SECTORS`. -/
def minDistinctSectors : ℕ := 6

/-- The compass sector of a heading. -/
def headingSector (heading : ℤ) : ℤ := heading % 360 / 45

/-- `_distinct_heading_sectors`. -/
def distinctHeadingSectors (headings : List (Option ℤ)) : ℕ :=
  ((headings.filterMap id).map headingSector).dedup.length

/-- The filter of `near`: a comparison with a missing value fails. -/
def nearHold (pos : EnrichedPosition) : Bool :=
  pos.nearestSiteDistanceNm.any (· ≤ holdRadiusNm) && pos.altitudeFt.any (· ≤ holdCeilingFt) &&
    !pos.onGround

variable (libs : Libraries) (ref : Reference)

/-- The loop body of `ExcessiveHoldRule.detect`. -/
def holdAnomaly (icao24 : String) (grp : List EnrichedPosition) : Option Anomaly :=
  let near := grp.filter nearHold
  if near.length < minSnapshots then none
  else if timeSpan near < holdMinDuration then none
  else
    let sectors := distinctHeadingSectors (near.map fun pos => pos.headingDeg)
    if sectors < minDistinctSectors then none
    else
      (latestRow near).bind fun last =>
        if isGeneralAviationCallsign libs (optStr last.callsign) then none
        else some
          { rule := .excessiveHold
            icao24 := some icao24
            siteIcao := optStr (mode (near.filterMap fun pos => pos.nearestSiteIcao))
            customerRegion := regionOf last
            severityHint := some .medium
            detectionFacts :=
              [("callsign", optText (optStr last.callsign)),
               ("duration_minutes", .number (roundedMinutes (timeSpan near))),
               ("distinct_heading_sectors", .number sectors),
               ("snapshots", .number near.length)] }

/-- `ExcessiveHoldRule.detect`. -/
def excessiveHoldDetect (positions : List EnrichedPosition) : List Anomaly :=
  (groupKeys positions).filterMap fun icao24 => holdAnomaly libs icao24 (group positions icao24)

/-! ### Polls -/

/-- A feed that is polled at a constant interval; a poll has one snapshot of an aircraft. -/
structure PollHistory (interval : Instant) where
  start : Instant
  rows : ℕ → List PositionSnapshot
  tsPolled : ∀ k, ∀ row ∈ rows k, row.tsPolled = start + k * interval
  distinct : ∀ k, ((rows k).map PositionSnapshot.icao24).Nodup

/-- `OPENSKY_POLL_INTERVAL_SECONDS`. -/
def openskyPollInterval : Instant := 300 * 1000000

variable {interval : Instant}

/-- What the lake holds at `now`. -/
def PollHistory.lake (history : PollHistory interval) (now : Instant) : List PositionSnapshot :=
  (List.range ((now - history.start) / interval + 1).toNat).flatMap history.rows

/-- The tick at `now` emits an `excessive_hold` anomaly for the aircraft. -/
def EmitsHold (history : PollHistory interval) (icao24 : String) (now : Instant) : Prop :=
  ∃ a ∈ excessiveHoldDetect libs (tickFrame libs ref (history.lake now) now),
    a.rule = .excessiveHold ∧ a.icao24 = some icao24

variable {libs ref} {history : PollHistory interval} {now : Instant} {row : PositionSnapshot}

/-- The lake holds polls of the past only. -/
lemma PollHistory.mem_lake (hpos : 0 < interval) (h : row ∈ history.lake now) :
    ∃ k : ℕ, row.tsPolled = history.start + k * interval ∧ row.tsPolled ≤ now := by
  obtain ⟨k, hk, hrow⟩ := List.mem_flatMap.mp h
  have hts := history.tsPolled k row hrow
  refine ⟨k, hts, ?_⟩
  rw [List.mem_range] at hk
  have hle : (k : ℤ) ≤ (now - history.start) / interval := by omega
  have hmul := (Int.le_ediv_iff_mul_le hpos).mp hle
  rw [hts]
  linarith

/-- Two snapshots of one aircraft are of different polls. -/
lemma PollHistory.pairwise_lake (hpos : 0 < interval) :
    (history.lake now).Pairwise fun r r' => r.icao24 = r'.icao24 → r.tsPolled ≠ r'.tsPolled := by
  refine List.pairwise_flatMap.mpr ⟨fun k hk => ?_, ?_⟩
  · exact (List.pairwise_map.mp (history.distinct k)).imp fun hne heq => absurd heq hne
  · refine List.nodup_range.imp fun {k l} hne r hr r' hr' _ hts => hne ?_
    rw [history.tsPolled k r hr, history.tsPolled l r' hr'] at hts
    have hmul : (k : ℤ) * interval = l * interval := by linarith
    exact_mod_cast mul_right_cancel₀ hpos.ne' hmul

/-- An interval holds no more distinct members of an arithmetic progression than its length
allows. -/
lemma length_le_of_progression {start first last : ℤ} {l : List ℤ} (hpos : 0 < interval)
    (hspan : first ≤ last) (hnodup : l.Nodup)
    (h : ∀ t ∈ l, first ≤ t ∧ t ≤ last ∧ ∃ k : ℤ, t = start + k * interval) :
    (l.length : ℤ) ≤ (last - first) / interval + 1 := by
  have hsub : l.toFinset ⊆
      (Finset.Icc (-((start - first) / interval)) ((last - start) / interval)).image
        fun k => start + k * interval := by
    intro t ht
    obtain ⟨hfirst, hlast, k, rfl⟩ := h t (List.mem_toFinset.mp ht)
    refine Finset.mem_image.mpr ⟨k, Finset.mem_Icc.mpr ⟨?_, ?_⟩, rfl⟩
    · have hneg : -k ≤ (start - first) / interval :=
        (Int.le_ediv_iff_mul_le hpos).mpr (by linarith)
      linarith
    · exact (Int.le_ediv_iff_mul_le hpos).mpr (by linarith)
  have hcard := (Finset.card_le_card hsub).trans Finset.card_image_le
  rw [List.toFinset_card_of_nodup hnodup, Int.card_Icc] at hcard
  have hsum :
      (start - first) / interval + (last - start) / interval ≤ (last - first) / interval := by
    apply (Int.le_ediv_iff_mul_le hpos).mpr
    have hlow := Int.ediv_mul_le (start - first) hpos.ne'
    have hhigh := Int.ediv_mul_le (last - start) hpos.ne'
    linarith
  have hnonneg : 0 ≤ (last - first) / interval := Int.ediv_nonneg (by linarith) hpos.le
  omega

/-- The polls a tick reads bound the snapshots of one aircraft in its frame. -/
lemma length_group_le (hpos : 0 < interval) (icao24 : String) :
    ((group (tickFrame libs ref (history.lake now) now) icao24).length : ℤ) ≤
      minutes lookbackMinutes / interval + 1 := by
  have hpairwise : (group (tickFrame libs ref (history.lake now) now) icao24).Pairwise
      fun r r' => r.tsPolled ≠ r'.tsPolled := by
    have hframe : (tickFrame libs ref (history.lake now) now).Pairwise
        fun r r' => r.icao24 = r'.icao24 → r.tsPolled ≠ r'.tsPolled :=
      List.pairwise_map.mpr
        (((history.pairwise_lake hpos).sublist readRecentPositions_sublist).filter _)
    refine (hframe.filter _).imp_of_mem fun {r r'} hr hr' hne => hne ?_
    rw [(mem_group.mp hr).2, (mem_group.mp hr').2]
  have hnodup : ((group (tickFrame libs ref (history.lake now) now) icao24).map
      fun pos => pos.tsPolled).Nodup := List.pairwise_map.mpr hpairwise
  have hpolls : ∀ t ∈ (group (tickFrame libs ref (history.lake now) now) icao24).map
      fun pos => pos.tsPolled,
      now - minutes lookbackMinutes ≤ t ∧ t ≤ now ∧ ∃ k : ℤ, t = history.start + k * interval := by
    intro t ht
    obtain ⟨pos, hgroup, rfl⟩ := List.mem_map.mp ht
    have hread := toPositionSnapshot_mem (mem_group.mp hgroup).1
    obtain ⟨hlake, -, hcutoff⟩ := mem_readRecentPositions.mp hread
    obtain ⟨k, hk, hle⟩ := history.mem_lake hpos hlake
    exact ⟨hcutoff, hle, k, hk⟩
  have hspan : now - minutes lookbackMinutes ≤ now := by
    have hlookback : 0 ≤ minutes lookbackMinutes := by decide
    linarith
  have hbound := length_le_of_progression hpos hspan hnodup hpolls
  rwa [List.length_map, sub_sub_cancel] at hbound

/-- What a hold anomaly of the frame rests on. -/
lemma minSnapshots_le_of_mem {positions : List EnrichedPosition} {a : Anomaly}
    (h : a ∈ excessiveHoldDetect libs positions) :
    ∃ icao24, minSnapshots ≤ (group positions icao24).length := by
  obtain ⟨icao24, -, hsome⟩ := List.mem_filterMap.mp h
  refine ⟨icao24, ?_⟩
  rw [holdAnomaly] at hsome
  split_ifs at hsome with hfew
  exact (not_lt.mp hfew).trans (List.length_filter_le _ _)

/-- No tick emits a hold: ten polls take longer than a tick looks back. -/
lemma not_emitsHold (history : PollHistory openskyPollInterval) (icao24 : String) (now : Instant) :
    ¬EmitsHold libs ref history icao24 now := by
  rintro ⟨a, ha, -⟩
  obtain ⟨id, hmin⟩ := minSnapshots_le_of_mem ha
  have hseven : ((group (tickFrame libs ref (history.lake now) now) id).length : ℤ) ≤ 7 :=
    length_group_le (by decide) id
  have hten : minSnapshots = 10 := rfl
  omega

/-! ### An hour of holding -/

/-- A snapshot of a commercial aircraft in scope that is airborne, low and near the airport. -/
structure InHold (libs : Libraries) (site : WatchedSite) (row : PositionSnapshot) : Prop where
  inScope : row.customerRegion.isSome
  airborne : row.onGround = false
  low : row.altitudeFt.any (· ≤ holdCeilingFt)
  near : distanceNm libs row site ≤ holdRadiusNm
  commercial : isGeneralAviationCallsign libs row.callsign = false

/-- The headings of the aircraft's snapshots between two instants visit enough sectors. -/
def VisitsSectors (history : PollHistory interval) (icao24 : String) (begins ends : Instant) :
    Prop :=
  ∃ sectors : List ℤ, sectors.Nodup ∧ minDistinctSectors ≤ sectors.length ∧ ∀ s ∈ sectors,
    ∃ k, ∃ row ∈ history.rows k, row.icao24 = icao24 ∧ begins ≤ row.tsPolled ∧ row.tsPolled ≤ ends ∧
      row.headingDeg.map headingSector = some s

/-- The aircraft holds at the airport for an hour, as far as the polls show. -/
structure HoldsForAnHour (libs : Libraries) (history : PollHistory interval) (site : WatchedSite)
    (icao24 : String) (begins : Instant) : Prop where
  holds : ∀ k : ℕ, begins ≤ history.start + k * interval →
    history.start + k * interval ≤ begins + minutes 60 →
      ∃ row ∈ history.rows k, row.icao24 = icao24 ∧ InHold libs site row
  circles : ∀ t, begins ≤ t → t + minutes 30 ≤ begins + minutes 60 →
    VisitsSectors history icao24 t (t + minutes 30)

/-- One of the ticks of the hour emits the anomaly; they are five minutes apart. -/
def HoldDetected (libs : Libraries) (ref : Reference) (history : PollHistory interval)
    (icao24 : String) (begins firstTick : Instant) : Prop :=
  ∃ j : ℤ, begins ≤ firstTick + j * minutes 5 ∧ firstTick + j * minutes 5 ≤ begins + minutes 60 ∧
    EmitsHold libs ref history icao24 (firstTick + j * minutes 5)

/-- At the interval of the feed no hold is detected, whatever the polls show and wherever the ticks
stand. -/
theorem hold_never_detected (libs : Libraries) (ref : Reference)
    (history : PollHistory openskyPollInterval) (icao24 : String) (begins firstTick : Instant) :
    ¬HoldDetected libs ref history icao24 begins firstTick := by
  rintro ⟨j, -, -, hemits⟩
  exact not_emitsHold history icao24 _ hemits

/-- A snapshot over the field; the heading turns by a sector from one poll to the next. -/
def circlingRow (k : ℕ) : PositionSnapshot :=
  sampleSnapshot "a00001" "DAL123" 8000 (45 * (k % 8)) (0 + k * openskyPollInterval)

def circlingHistory : PollHistory openskyPollInterval where
  start := 0
  rows k := [circlingRow k]
  tsPolled k row hrow := by rw [List.mem_singleton.mp hrow]; rfl
  distinct k := List.nodup_singleton _

lemma headingSector_circling (k : ℕ) : headingSector (45 * (k % 8)) = (k : ℤ) % 8 := by
  rw [headingSector]
  omega

/-- Half an hour has six polls in a row. -/
lemma exists_six_polls {t : ℤ} (ht : 0 ≤ t) : ∃ n : ℕ, ∀ i < 6,
    t ≤ (circlingRow (n + i)).tsPolled ∧ (circlingRow (n + i)).tsPolled ≤ t + minutes 30 := by
  obtain ⟨n, hn⟩ := Int.eq_ofNat_of_zero_le (show 0 ≤ (t + 299999999) / 300000000 by omega)
  refine ⟨n, fun i hi => ?_⟩
  change t ≤ 0 + ((n + i : ℕ) : ℤ) * (300 * 1000000) ∧
    (0 + ((n + i : ℕ) : ℤ) * (300 * 1000000) : ℤ) ≤ t + 30 * 60000000
  omega

lemma circlingHistory_holds : HoldsForAnHour planarLibs circlingHistory kjfk "a00001" 0 where
  holds k _ _ := by
    refine ⟨circlingRow k, List.mem_singleton_self _, rfl, rfl, rfl, rfl, ?_, rfl⟩
    have hzero : distanceNm planarLibs (circlingRow k) kjfk = 0 := by
      simp [distanceNm, planarLibs, circlingRow, sampleSnapshot]
    rw [hzero]
    decide
  circles t ht _ := by
    obtain ⟨n, hnext⟩ := exists_six_polls ht
    refine ⟨(List.range 6).map fun i => ((n + i : ℕ) : ℤ) % 8, ?_, by simp [minDistinctSectors], ?_⟩
    · refine List.pairwise_map.mpr (List.nodup_range.imp_of_mem fun {i j} hi hj hne heq => hne ?_)
      rw [List.mem_range] at hi hj
      omega
    · intro s hs
      obtain ⟨i, hi, rfl⟩ := List.mem_map.mp hs
      obtain ⟨hfirst, hlast⟩ := hnext i (List.mem_range.mp hi)
      refine ⟨n + i, circlingRow (n + i), List.mem_singleton_self _, rfl, hfirst, hlast, ?_⟩
      exact congrArg some (headingSector_circling _)

/-- An hour of holding is not detected. -/
theorem circlingHistory_undetected :
    ¬∀ (libs : Libraries) (ref : Reference) (history : PollHistory openskyPollInterval)
      (site : WatchedSite) (icao24 : String) (begins firstTick : Instant),
      site ∈ ref.watchedCoords → HoldsForAnHour libs history site icao24 begins →
        HoldDetected libs ref history icao24 begins firstTick := by
  intro h
  obtain ⟨j, -, -, hemits⟩ := h planarLibs kjfkReference circlingHistory kjfk "a00001" 0 0
    List.mem_cons_self circlingHistory_holds
  exact not_emitsHold circlingHistory "a00001" _ hemits

end FleetMonitor
