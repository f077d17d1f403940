import FleetMonitor.Cases.Schema
import FleetMonitor.Library.Rounding
import FleetMonitor.Positions.CurrentPositions
import Mathlib.Data.List.Dedup
import Mathlib.Data.List.MinMax
import Mathlib.Data.List.Sort
import Mathlib.Data.String.Basic

/-!
# Enriched positions

The frame the rules run on: what the lake holds of the last `LOOKBACK_MINUTES`, without the
out-of-scope rows, each with the flight plan of its aircraft, the watched airport nearest to it and
the newest snapshot of its aircraft in the whole feed. The helpers with which the rules read a frame
follow.
-/

namespace FleetMonitor

open Library

/-- What the detector takes from its libraries: the distance of two positions in numpy's floating
point, `isoformat` of a pandas timestamp, and `str.isdigit` of one character. -/
structure Libraries where
  haversineNm : ℚ × ℚ → ℚ × ℚ → ℚ
  isoformat : Instant → String
  isdigit : Char → Bool

/-! ### Reading the lake -/

/-- `LOOKBACK_MINUTES`. -/
def lookbackMinutes : ℤ := 30

def minutes (n : ℤ) : Instant := n * 60000000

/-- The hour partition of an instant, as hours since the epoch. -/
def hourOf (t : Instant) : ℤ := t / 3600000000

/-- `read_recent_positions`: the partitions from the hour of the cutoff to that of `now`, and of
their rows those from the cutoff on. -/
def readRecentPositions (lake : List PositionSnapshot) (lookback : ℤ) (now : Instant) :
    List PositionSnapshot :=
  let cutoff := now - minutes lookback
  lake.filter fun row =>
    hourOf cutoff ≤ hourOf row.tsPolled ∧ hourOf row.tsPolled ≤ hourOf now ∧ cutoff ≤ row.tsPolled

/-! ### Enrichment -/

/-- A row of `app.flight_plans` whose fetch succeeded. -/
structure FlightPlan where
  icao24 : String
  originIcao : Option String
  destinationIcao : Option String
  departureTime : Option Instant
  deriving DecidableEq, Repr

abbrev FlightPlans := Table FlightPlan.icao24

/-- An entry of `watched_coords`. -/
structure WatchedSite where
  icao : String
  lat : ℚ
  lon : ℚ
  deriving DecidableEq, Repr

/-- A row of the frame. -/
structure EnrichedPosition extends PositionSnapshot where
  originIcao : Option String
  destinationIcao : Option String
  departureTime : Option Instant
  nearestSiteIcao : Option String
  nearestSiteDistanceNm : Option ℚ
  feedLastTs : Option Instant
  deriving DecidableEq, Repr

/-- The reference tables a tick reads. -/
structure Reference where
  flightPlans : FlightPlans
  watchedCoords : List WatchedSite

variable (libs : Libraries) (ref : Reference)

/-- The distance of a row from a watched airport. -/
def distanceNm (row : PositionSnapshot) (site : WatchedSite) : ℚ :=
  libs.haversineNm (row.lat, row.lon) (site.lat, site.lon)

/-- `_nearest_sites` at one row; `argmin` takes the first of several. -/
def nearestSite (row : PositionSnapshot) : Option WatchedSite :=
  ref.watchedCoords.argmin (distanceNm libs row)

/-- `enrich_positions` at one row, with the column the detector adds. -/
def enrichPosition (feedLastTs : Option Instant) (row : PositionSnapshot) : EnrichedPosition :=
  let plan := ref.flightPlans.lookup row.icao24
  let site := nearestSite libs ref row
  { row with
    originIcao := plan.bind FlightPlan.originIcao
    destinationIcao := plan.bind FlightPlan.destinationIcao
    departureTime := plan.bind FlightPlan.departureTime
    nearestSiteIcao := site.map WatchedSite.icao
    nearestSiteDistanceNm := site.map (distanceNm libs row)
    feedLastTs }

/-- `feed_last_seen`: the newest snapshot of an aircraft, in or out of scope. -/
def feedLastSeen (positions : List PositionSnapshot) (icao24 : String) : Option Instant :=
  ((positions.filter fun row => row.icao24 = icao24).map PositionSnapshot.tsPolled).max?

/-- The frame `run_case_detection` makes of the positions it has read. -/
def detectorFrame (positions : List PositionSnapshot) : List EnrichedPosition :=
  (positions.filter fun row => row.customerRegion.isSome).map fun row =>
    enrichPosition libs ref (feedLastSeen positions row.icao24) row

/-- The frame of the tick at `now`. -/
def tickFrame (lake : List PositionSnapshot) (now : Instant) : List EnrichedPosition :=
  detectorFrame libs ref (readRecentPositions lake lookbackMinutes now)

/-! ### Reading a frame -/

/-- The keys of `groupby("icao24")`, in its order. -/
def groupKeys (positions : List EnrichedPosition) : List String :=
  (positions.map fun row => row.icao24).dedup.insertionSort (· ≤ ·)

/-- The rows of one group. -/
def group (positions : List EnrichedPosition) (icao24 : String) : List EnrichedPosition :=
  positions.filter fun row => row.icao24 = icao24

/-- `latest_row`: `idxmax` takes the first of several. -/
def latestRow (rows : List EnrichedPosition) : Option EnrichedPosition :=
  rows.foldl
    (fun best row =>
      match best with
      | none      => some row
      | some best => if best.tsPolled < row.tsPolled then some row else some best)
    none

/-- `max - min` of the snapshot times. -/
def timeSpan (rows : List EnrichedPosition) : Instant :=
  let times := rows.map fun row => row.tsPolled
  times.max?.getD 0 - times.min?.getD 0

/-- `Series.mode().iloc[0]`: the first in order of the most frequent values. -/
def mode (values : List String) : Option String :=
  ((values.dedup.filter fun v => ∀ w ∈ values, values.count w ≤ values.count v).insertionSort
    (· ≤ ·)).head?

/-- `opt_str`. -/
def optStr (value : Option String) : Option String := value.filter (· ≠ "")

/-- `region_of`. -/
def regionOf (row : EnrichedPosition) : CustomerRegion :=
  match row.customerRegion with
  | some region => if region = .other "" then .all else region
  | none        => .all

/-- `is_general_aviation_callsign`. -/
def isGeneralAviationCallsign (callsign : Option String) : Bool :=
  match callsign.map String.toList with
  | some (c :: d :: _) => c = 'N' && libs.isdigit d
  | _                  => false

/-- `Timedelta.total_seconds`. -/
def totalSeconds (gap : Instant) : ℚ := double (gap / 1000000)

/-- `round(gap.total_seconds() / 60, 1)`, as its JSON text reads. -/
def roundedMinutes (gap : Instant) : ℚ := roundTenth (double (totalSeconds gap / 60))

/-! ### Lemmas -/

variable {libs ref} {lake : List PositionSnapshot} {now : Instant} {row : PositionSnapshot}
  {positions : List EnrichedPosition} {pos : EnrichedPosition}

/-- The partitions lose nothing that the cutoff keeps. -/
lemma mem_readRecentPositions {lookback : ℤ} :
    row ∈ readRecentPositions lake lookback now ↔
      row ∈ lake ∧ hourOf row.tsPolled ≤ hourOf now ∧ now - minutes lookback ≤ row.tsPolled := by
  simp only [readRecentPositions, List.mem_filter, decide_eq_true_eq]
  constructor
  · rintro ⟨hmem, -, hhour, hcutoff⟩
    exact ⟨hmem, hhour, hcutoff⟩
  · rintro ⟨hmem, hhour, hcutoff⟩
    exact ⟨hmem, Int.ediv_le_ediv (by decide) hcutoff, hhour, hcutoff⟩

lemma readRecentPositions_sublist {lookback : ℤ} :
    (readRecentPositions lake lookback now).Sublist lake := List.filter_sublist

/-- The rows of a tick's frame are snapshots the tick has read. -/
lemma toPositionSnapshot_mem (h : pos ∈ tickFrame libs ref lake now) :
    pos.toPositionSnapshot ∈ readRecentPositions lake lookbackMinutes now := by
  obtain ⟨row, hrow, rfl⟩ := List.mem_map.mp h
  exact List.mem_of_mem_filter hrow

lemma mem_group {icao24 : String} :
    pos ∈ group positions icao24 ↔ pos ∈ positions ∧ pos.icao24 = icao24 := by
  simp [group]

/-- The first of the newest rows. -/
def IsNewest {ρ : Type*} (time : ρ → Instant) (rows : List ρ) (last : ρ) : Prop :=
  ∃ earlier later, rows = earlier ++ last :: later ∧
    (∀ row ∈ earlier, time row < time last) ∧ ∀ row ∈ later, time row ≤ time last

lemma IsNewest.mem {ρ : Type*} {time : ρ → Instant} {rows : List ρ} {last : ρ}
    (h : IsNewest time rows last) : last ∈ rows := by
  obtain ⟨earlier, later, rfl, -⟩ := h
  simp

lemma isNewest_map {ρ σ : Type*} {time : σ → Instant} {f : ρ → σ} {rows : List ρ} {last : σ} :
    IsNewest time (rows.map f) last ↔
      ∃ row, f row = last ∧ IsNewest (fun row => time (f row)) rows row := by
  constructor
  · rintro ⟨earlier, later, heq, hearlier, hlater⟩
    obtain ⟨earlier, rest, rfl, rfl, hrest⟩ := List.map_eq_append_iff.mp heq
    obtain ⟨row, later, rfl, rfl, rfl⟩ := List.map_eq_cons_iff.mp hrest
    exact ⟨row, rfl, earlier, later, rfl, by simpa using hearlier, by simpa using hlater⟩
  · rintro ⟨row, rfl, earlier, later, rfl, hearlier, hlater⟩
    exact ⟨earlier.map f, later.map f, by simp, by simpa using hearlier, by simpa using hlater⟩

lemma latestRow_concat {rows : List EnrichedPosition} :
    latestRow (rows ++ [pos]) =
      match latestRow rows with
      | none      => some pos
      | some best => if best.tsPolled < pos.tsPolled then some pos else some best := by
  rw [latestRow, List.foldl_concat]
  rfl

lemma exists_latestRow {rows : List EnrichedPosition} (h : rows ≠ []) :
    ∃ last, latestRow rows = some last := by
  obtain ⟨init, row, rfl⟩ := (List.eq_nil_or_concat rows).resolve_left h
  rw [List.concat_eq_append, latestRow_concat]
  split
  · exact ⟨row, rfl⟩
  · split_ifs
    exacts [⟨_, rfl⟩, ⟨_, rfl⟩]

lemma isNewest_of_latestRow {rows : List EnrichedPosition} {last : EnrichedPosition}
    (h : latestRow rows = some last) : IsNewest (fun row => row.tsPolled) rows last := by
  induction rows using List.reverseRecOn generalizing last with
  | nil => cases h
  | append_singleton rows row ih =>
    rw [latestRow_concat] at h
    cases hbest : latestRow rows with
    | none =>
      rw [hbest] at h
      obtain rfl := Option.some.inj h
      have hnil : rows = [] := by
        by_contra hne
        obtain ⟨best, hsome⟩ := exists_latestRow hne
        rw [hbest] at hsome
        cases hsome
      exact ⟨[], [], by rw [hnil], by simp, by simp⟩
    | some best =>
      rw [hbest] at h
      obtain ⟨earlier, later, rfl, hearlier, hlater⟩ := ih hbest
      dsimp only at h hearlier hlater
      split_ifs at h with hnewer
      · obtain rfl := Option.some.inj h
        refine ⟨earlier ++ best :: later, [], rfl, fun r hr => ?_, by simp⟩
        rcases List.mem_append.mp hr with hr | hr
        · exact (hearlier r hr).trans hnewer
        · rcases List.mem_cons.mp hr with rfl | hr
          · exact hnewer
          · exact (hlater r hr).trans_lt hnewer
      · obtain rfl := Option.some.inj h
        refine ⟨earlier, later ++ [row], by simp, hearlier, fun r hr => ?_⟩
        rcases List.mem_append.mp hr with hr | hr
        · exact hlater r hr
        · rw [List.mem_singleton.mp hr]
          exact not_lt.mp hnewer

/-- `latest_row` is the first of the newest rows. -/
lemma latestRow_eq_some_iff {rows : List EnrichedPosition} {last : EnrichedPosition} :
    latestRow rows = some last ↔ IsNewest (fun row => row.tsPolled) rows last := by
  refine ⟨isNewest_of_latestRow, ?_⟩
  rintro ⟨earlier, later, rfl, hearlier, hlater⟩
  induction later using List.reverseRecOn with
  | nil =>
    rw [latestRow_concat]
    cases hbest : latestRow earlier with
    | none => rfl
    | some best => exact if_pos (hearlier best (isNewest_of_latestRow hbest).mem)
  | append_singleton later row ih =>
    have hlast := ih fun r hr => hlater r (List.mem_append_left _ hr)
    have hrow : ¬last.tsPolled < row.tsPolled := not_lt.mpr (hlater row (by simp))
    rw [← List.cons_append, ← List.append_assoc, latestRow_concat, hlast]
    exact if_neg hrow

/-! ### Rules that go through the aircraft -/

/-- The groups come in order, each once. -/
lemma groupKeys_pairwise : (groupKeys positions).Pairwise (· < ·) := by
  have hsorted : (groupKeys positions).Pairwise (· ≤ ·) := List.pairwise_insertionSort _ _
  have hnodup : (groupKeys positions).Nodup :=
    (List.perm_insertionSort _ _).nodup_iff.mpr (List.nodup_dedup _)
  exact (hsorted.and hnodup).imp fun h => lt_of_le_of_ne h.1 h.2

lemma mem_groupKeys {icao24 : String} :
    icao24 ∈ groupKeys positions ↔ ∃ pos ∈ positions, pos.icao24 = icao24 := by
  simp [groupKeys]

variable (positions) (body : String → List EnrichedPosition → Option Anomaly)

/-- A rule whose loop body reports the aircraft of its group reports one after the other. -/
lemma map_icao24_groups (hbody : ∀ id grp a, body id grp = some a → a.icao24 = some id)
    (ids : List String) :
    (ids.filterMap fun id => body id (group positions id)).map Anomaly.icao24 =
      (ids.filter fun id => (body id (group positions id)).isSome).map some := by
  induction ids with
  | nil => rfl
  | cons id ids ih =>
    cases ha : body id (group positions id) with
    | none => simp [ha, ih]
    | some a => simp [ha, ih, hbody id _ a ha]

lemma exists_anomaly_iff (hbody : ∀ id grp a, body id grp = some a → a.icao24 = some id)
    (hnil : ∀ id, body id [] = none) (icao24 : String) :
    (∃ a ∈ (groupKeys positions).filterMap fun id => body id (group positions id),
        a.icao24 = some icao24) ↔
      (body icao24 (group positions icao24)).isSome := by
  have hmem : (∃ a ∈ (groupKeys positions).filterMap fun id => body id (group positions id),
      a.icao24 = some icao24) ↔
      some icao24 ∈ ((groupKeys positions).filterMap fun id => body id (group positions id)).map
        Anomaly.icao24 := by
    simp [List.mem_map]
  rw [hmem, map_icao24_groups positions body hbody]
  constructor
  · intro h
    obtain ⟨id, hid, heq⟩ := List.mem_map.mp h
    obtain rfl := Option.some.inj heq
    exact (List.mem_filter.mp hid).2
  · intro h
    refine List.mem_map.mpr ⟨icao24, List.mem_filter.mpr ⟨mem_groupKeys.mpr ?_, h⟩, rfl⟩
    by_contra hnone
    have hgroup : group positions icao24 = [] := by
      rw [group, List.filter_eq_nil_iff]
      exact fun pos hpos heq => hnone ⟨pos, hpos, by simpa using heq⟩
    rw [hgroup, hnil] at h
    cases h

/-! ### Rounding -/

/-- Between two numbers of minutes, rounding stays between them. -/
lemma roundedMinutes_mem {gap : Instant} {m n : ℤ} (hm : 0 ≤ m) (hn : n ≤ 1440)
    (hlow : minutes m ≤ gap) (hhigh : gap ≤ minutes n) :
    m ≤ roundedMinutes gap ∧ roundedMinutes gap ≤ n := by
  have hlow' : ((m * 60 : ℤ) : ℚ) ≤ (gap : ℚ) / 1000000 := by
    have hcast : ((m * 60000000 : ℤ) : ℚ) ≤ (gap : ℚ) := by exact_mod_cast hlow
    push_cast at hcast ⊢
    linarith
  have hhigh' : (gap : ℚ) / 1000000 ≤ ((n * 60 : ℤ) : ℚ) := by
    have hcast : (gap : ℚ) ≤ ((n * 60000000 : ℤ) : ℚ) := by exact_mod_cast hhigh
    push_cast at hcast ⊢
    linarith
  have hm' : (0 : ℚ) ≤ m := by exact_mod_cast hm
  have hn' : (n : ℚ) ≤ 1440 := by exact_mod_cast hn
  have hsmall : |(gap : ℚ) / 1000000| < 2 ^ 53 := by
    push_cast at hlow' hhigh'
    rw [abs_lt]
    constructor <;> linarith
  have hseconds : ((m * 60 : ℤ) : ℚ) ≤ totalSeconds gap ∧ totalSeconds gap ≤ ((n * 60 : ℤ) : ℚ) :=
    ⟨le_double hsmall hlow', double_le hsmall hhigh'⟩
  push_cast at hseconds
  have hsmall' : |totalSeconds gap / 60| < 2 ^ 53 := by
    rw [abs_lt]
    constructor <;> linarith
  constructor
  · apply le_roundTenth
    apply le_double hsmall'
    linarith
  · apply roundTenth_le
    apply double_le hsmall'
    linarith

/-! ### One airport -/

/-- The libraries where it matters that points coincide, and for texts of ASCII characters. -/
def planarLibs : Libraries where
  haversineNm p q := 60 * (|p.1 - q.1| + |p.2 - q.2|)
  isoformat t := if t = 0 then "1970-01-01T00:00:00+00:00" else toString t
  isdigit := Char.isDigit

def kjfk : WatchedSite := ⟨"KJFK", 406398 / 10000, -737789 / 10000⟩

def kjfkReference : Reference where
  flightPlans := ⟨[], by decide⟩
  watchedCoords := [kjfk]

/-- A snapshot over the airport, in the eastern region. -/
def sampleSnapshot (icao24 callsign : String) (altitudeFt headingDeg : ℤ) (tsPolled : Instant) :
    PositionSnapshot where
  icao24 := icao24
  callsign := some callsign
  originCountry := none
  lat := kjfk.lat
  lon := kjfk.lon
  altitudeFt := some altitudeFt
  speedKt := none
  headingDeg := some headingDeg
  verticalRateFpm := some 0
  onGround := false
  squawk := none
  tsPolled := tsPolled
  tsPosition := none
  customerRegion := some .east

end FleetMonitor
