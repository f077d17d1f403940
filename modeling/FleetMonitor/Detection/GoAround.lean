import FleetMonitor.Detection.EnrichedPositions
import FleetMonitor.Detection.Rules
import FleetMonitor.Library.Valleys

/-!
# Go-arounds

`GoAroundRule`: an aircraft near a field descends to a low point and climbs out again. The rule
looks for the valley at the first lowest of the airborne snapshots near a field, so it misses one
that lies elsewhere, and it does not see a landing between the descent and the climb.
-/

namespace FleetMonitor

open Library

/-! ### The rule -/

/-- `GO_AROUND_RADIUS_NM`. -/
def goAroundRadiusNm : ℚ := 10

/-- `GO_AROUND_FLOOR_FT`. -/
def goAroundFloorFt : ℤ := 3000

/-- `DESCENT_THRESHOLD_FT`. -/
def descentThresholdFt : ℤ := 1000

/-- `CLIMB_THRESHOLD_FT`. -/
def climbThresholdFt : ℤ := 1000

/-- `MIN_SNAPSHOTS` of this rule. -/
def goAroundMinSnapshots : ℕ := 3

/-- The filter of `near`: a comparison with a missing value fails. -/
def nearGoAround (pos : EnrichedPosition) : Bool :=
  pos.nearestSiteDistanceNm.any (· ≤ goAroundRadiusNm) && !pos.onGround

/-- `near`, in order of time. -/
def nearRows (grp : List EnrichedPosition) : List EnrichedPosition :=
  (grp.filter nearGoAround).insertionSort fun a b => a.tsPolled ≤ b.tsPolled

/-- `near["altitude_ft"].dropna()`, with the snapshot times. -/
def knownAltitudes (near : List EnrichedPosition) : List (Instant × ℤ) :=
  near.filterMap fun pos => pos.altitudeFt.map fun alt => (pos.tsPolled, alt)

/-- The low point of a valley. -/
structure LowPoint where
  minAlt : ℤ
  descent : ℤ
  climb : ℤ
  deriving DecidableEq, Repr

/-- `idxmin`, which takes the first of several. -/
def idxmin {α β : Type} [LinearOrder β] (f : α → β) (l : List α) : Option α := l.argmin f

/-- What the loop body finds at the first minimum of the altitudes. -/
def lowPoint (near : List EnrichedPosition) : Option LowPoint :=
  if near.length < goAroundMinSnapshots then none
  else
    let alts := knownAltitudes near
    (idxmin Prod.snd alts).bind fun low =>
      if goAroundFloorFt < low.2 then none
      else
        let before := (alts.filter fun fix => fix.1 < low.1).map Prod.snd
        let after := (alts.filter fun fix => low.1 < fix.1).map Prod.snd
        before.max?.bind fun highBefore =>
          after.max?.bind fun highAfter =>
            let descent := highBefore - low.2
            let climb := highAfter - low.2
            if descent < descentThresholdFt ∨ climb < climbThresholdFt then none
            else some ⟨low.2, descent, climb⟩

variable (libs : Libraries)

/-- The loop body of `GoAroundRule.detect`. -/
def goAroundAnomaly (icao24 : String) (grp : List EnrichedPosition) : Option Anomaly :=
  let near := nearRows grp
  (lowPoint near).bind fun low =>
    (latestRow near).bind fun last =>
      if isGeneralAviationCallsign libs (optStr last.callsign) then none
      else some
        { rule := .goAround
          icao24 := some icao24
          siteIcao := optStr (mode (near.filterMap fun pos => pos.nearestSiteIcao))
          customerRegion := regionOf last
          severityHint := some .medium
          detectionFacts :=
            [("callsign", optText (optStr last.callsign)),
             ("min_altitude_ft", .number low.minAlt),
             ("descent_ft", .number low.descent),
             ("climb_ft", .number low.climb)] }

/-- `GoAroundRule.detect`. -/
def goAroundDetect (positions : List EnrichedPosition) : List Anomaly :=
  (groupKeys positions).filterMap fun icao24 => goAroundAnomaly libs icao24 (group positions icao24)

/-! ### What it detects -/

/-- The fixes of known altitude. -/
def track (near : List EnrichedPosition) : Set (Instant × ℤ) := {fix | fix ∈ knownAltitudes near}

variable {libs} {near positions : List EnrichedPosition} {icao24 : String} {low : LowPoint}

lemma exists_max? {l : List ℤ} {x : ℤ} (h : x ∈ l) : ∃ m, l.max? = some m ∧ m ∈ l ∧ x ≤ m := by
  cases hmax : l.max? with
  | none => simp [List.max?_eq_none_iff.mp hmax] at h
  | some m => exact ⟨m, rfl, List.max?_mem hmax, (List.max?_eq_some_iff.mp hmax).2 x h⟩

/-- In a list in order of time, an item that comes first is not later. -/
lemma le_of_idxOf_le {β : Type*} [DecidableEq β] {time : β → Instant} {l : List β} {a b : β}
    (hsorted : l.Pairwise fun a b => time a ≤ time b) (ha : a ∈ l) (hb : b ∈ l)
    (h : l.idxOf a ≤ l.idxOf b) : time a ≤ time b := by
  have hia := List.idxOf_lt_length_of_mem ha
  have hib := List.idxOf_lt_length_of_mem hb
  rcases h.eq_or_lt with heq | hlt
  · rw [(List.idxOf_inj ha).mp heq]
  · have hle := List.pairwise_iff_getElem.mp hsorted _ _ hia hib hlt
    rwa [List.getElem_idxOf, List.getElem_idxOf] at hle

/-- The first minimum is the first lowest fix. -/
lemma idxmin_eq_some_iff_isFirstLowest (hsorted : near.Pairwise fun a b => a.tsPolled ≤ b.tsPolled)
    {m : Instant × ℤ} :
    idxmin Prod.snd (knownAltitudes near) = some m ↔ IsFirstLowest (track near) m := by
  have halts : (knownAltitudes near).Pairwise fun a b => a.1 ≤ b.1 := by
    refine List.pairwise_filterMap.mpr (hsorted.imp fun {p q} hle a ha b hb => ?_)
    obtain ⟨alt, -, rfl⟩ := Option.map_eq_some_iff.mp ha
    obtain ⟨alt', -, rfl⟩ := Option.map_eq_some_iff.mp hb
    exact hle
  rw [idxmin, List.argmin_eq_some_iff]
  constructor
  · rintro ⟨hmem, hlow, hfirst⟩
    exact ⟨hmem, hlow, fun x hx heq => le_of_idxOf_le halts hmem hx (hfirst x hx heq.le)⟩
  · rintro ⟨hmem, hlow, hfirst⟩
    refine ⟨hmem, hlow, fun x hx hle => ?_⟩
    by_contra hbefore
    have hheight : x.2 = m.2 := le_antisymm hle (hlow x hx)
    have htime : x.1 = m.1 :=
      le_antisymm (le_of_idxOf_le halts hx hmem (not_le.mp hbefore).le) (hfirst x hx hheight)
    exact hbefore (Prod.ext htime hheight ▸ le_rfl)

/-- A valley takes three fixes. -/
lemma goAroundMinSnapshots_le {p q r : Instant × ℤ}
    (h : IsValley (track near) goAroundFloorFt descentThresholdFt climbThresholdFt p q r) :
    goAroundMinSnapshots ≤ near.length := by
  have hnodup : [p, q, r].Nodup := by
    have hpq : p ≠ q := fun heq => h.before.ne (congrArg Prod.fst heq)
    have hqr : q ≠ r := fun heq => h.after.ne (congrArg Prod.fst heq)
    have hpr : p ≠ r := fun heq => (h.before.trans h.after).ne (congrArg Prod.fst heq)
    simp [hpq, hqr, hpr]
  have hsubset : [p, q, r] ⊆ knownAltitudes near := by
    intro x hx
    simp only [List.mem_cons, List.not_mem_nil, or_false] at hx
    rcases hx with rfl | rfl | rfl
    exacts [h.left_mem, h.bottom_mem, h.right_mem]
  have hlength := (hnodup.subperm hsubset).length_le
  exact hlength.trans (List.length_filterMap_le _ _)

/-- The loop body finds a low point when the first lowest fix is the bottom of a valley. -/
lemma lowPoint_isSome_iff (hsorted : near.Pairwise fun a b => a.tsPolled ≤ b.tsPolled) :
    (lowPoint near).isSome ↔ ∃ m, IsFirstLowest (track near) m ∧
      IsBottom (track near) goAroundFloorFt descentThresholdFt climbThresholdFt m := by
  constructor
  · intro h
    obtain ⟨low, hlow⟩ := Option.isSome_iff_exists.mp h
    obtain ⟨-, hlow⟩ := Option.ite_none_left_eq_some.mp hlow
    obtain ⟨m, hm, hlow⟩ := Option.bind_eq_some_iff.mp hlow
    obtain ⟨hfloor, hlow⟩ := Option.ite_none_left_eq_some.mp hlow
    obtain ⟨highBefore, hbefore, hlow⟩ := Option.bind_eq_some_iff.mp hlow
    obtain ⟨highAfter, hafter, hlow⟩ := Option.bind_eq_some_iff.mp hlow
    obtain ⟨hthresholds, -⟩ := Option.ite_none_left_eq_some.mp hlow
    obtain ⟨hdescent, hclimb⟩ := not_or.mp hthresholds
    have hfirst := (idxmin_eq_some_iff_isFirstLowest hsorted).mp hm
    obtain ⟨p, hp, rfl⟩ := List.mem_map.mp (List.max?_mem hbefore)
    obtain ⟨r, hr, rfl⟩ := List.mem_map.mp (List.max?_mem hafter)
    obtain ⟨hp, hpm⟩ := List.mem_filter.mp hp
    obtain ⟨hr, hmr⟩ := List.mem_filter.mp hr
    exact ⟨m, hfirst, p, r, hp, hfirst.mem, hr, by simpa using hpm, by simpa using hmr,
      not_lt.mp hfloor, not_lt.mp hdescent, not_lt.mp hclimb⟩
  · rintro ⟨m, hm, p, r, hvalley⟩
    have hlength : ¬near.length < goAroundMinSnapshots := not_lt.mpr (goAroundMinSnapshots_le hvalley)
    have hfloor : ¬goAroundFloorFt < m.2 := not_lt.mpr hvalley.low
    have hp : p.2 ∈ ((knownAltitudes near).filter fun fix => fix.1 < m.1).map Prod.snd :=
      List.mem_map_of_mem (List.mem_filter.mpr ⟨hvalley.left_mem, by simpa using hvalley.before⟩)
    have hr : r.2 ∈ ((knownAltitudes near).filter fun fix => m.1 < fix.1).map Prod.snd :=
      List.mem_map_of_mem (List.mem_filter.mpr ⟨hvalley.right_mem, by simpa using hvalley.after⟩)
    obtain ⟨highBefore, hbefore, -, hple⟩ := exists_max? hp
    obtain ⟨highAfter, hafter, -, hrle⟩ := exists_max? hr
    have hthresholds : ¬(highBefore - m.2 < descentThresholdFt ∨
        highAfter - m.2 < climbThresholdFt) := by
      have hfalls := hvalley.falls
      have hrises := hvalley.rises
      omega
    simp [lowPoint, hlength, (idxmin_eq_some_iff_isFirstLowest hsorted).mpr hm, hfloor, hbefore,
      hafter, hthresholds]

lemma nearRows_sorted (grp : List EnrichedPosition) :
    (nearRows grp).Pairwise fun a b => a.tsPolled ≤ b.tsPolled :=
  List.pairwise_insertionSort _ _

lemma goAroundAnomaly_icao24 {grp : List EnrichedPosition} {a : Anomaly}
    (h : goAroundAnomaly libs icao24 grp = some a) : a.icao24 = some icao24 := by
  obtain ⟨low, -, h⟩ := Option.bind_eq_some_iff.mp h
  obtain ⟨last, -, h⟩ := Option.bind_eq_some_iff.mp h
  obtain ⟨-, h⟩ := Option.ite_none_left_eq_some.mp h
  obtain rfl := Option.some.inj h
  rfl

/-- For an aircraft without a general aviation callsign, the low point decides. -/
lemma goAroundAnomaly_isSome_iff {grp : List EnrichedPosition}
    (hcommercial : ∀ pos ∈ grp, isGeneralAviationCallsign libs (optStr pos.callsign) = false) :
    (goAroundAnomaly libs icao24 grp).isSome ↔ (lowPoint (nearRows grp)).isSome := by
  rw [goAroundAnomaly]
  cases hlow : lowPoint (nearRows grp) with
  | none => simp
  | some low =>
    have hne : nearRows grp ≠ [] := by
      intro hnil
      rw [hnil] at hlow
      cases hlow
    obtain ⟨last, hlast⟩ := exists_latestRow hne
    have hmem : last ∈ nearRows grp := (latestRow_eq_some_iff.mp hlast).mem
    rw [nearRows, List.mem_insertionSort] at hmem
    simp [hlast, hcommercial last (List.mem_of_mem_filter hmem)]

/-! ### Aborted landings -/

/-- The airborne fixes of an aircraft near a field, with known altitudes. -/
def nearFixes (positions : List EnrichedPosition) (icao24 : String) : Set (Instant × ℤ) :=
  {fix | ∃ pos ∈ positions, pos.icao24 = icao24 ∧ pos.onGround = false ∧
    (∃ distance, pos.nearestSiteDistanceNm = some distance ∧ distance ≤ goAroundRadiusNm) ∧
    pos.tsPolled = fix.1 ∧ pos.altitudeFt = some fix.2}

/-- The aircraft is on the ground at some time in between. -/
def LandsBetween (positions : List EnrichedPosition) (icao24 : String) (t₁ t₃ : Instant) : Prop :=
  ∃ pos ∈ positions, pos.icao24 = icao24 ∧ pos.onGround = true ∧
    t₁ < pos.tsPolled ∧ pos.tsPolled < t₃

/-- The rule emits an anomaly for the aircraft. -/
def EmitsGoAround (libs : Libraries) (positions : List EnrichedPosition) (icao24 : String) : Prop :=
  ∃ a ∈ goAroundDetect libs positions, a.icao24 = some icao24

/-- The aircraft shows no general aviation callsign. -/
def Commercial (libs : Libraries) (positions : List EnrichedPosition) (icao24 : String) : Prop :=
  ∀ pos ∈ positions, pos.icao24 = icao24 →
    isGeneralAviationCallsign libs (optStr pos.callsign) = false

instance (libs : Libraries) (positions : List EnrichedPosition) (icao24 : String) :
    Decidable (EmitsGoAround libs positions icao24) :=
  inferInstanceAs (Decidable (∃ a ∈ _, _))

instance (libs : Libraries) (positions : List EnrichedPosition) (icao24 : String) :
    Decidable (Commercial libs positions icao24) :=
  inferInstanceAs (Decidable (∀ pos ∈ _, _ → _))

instance (positions : List EnrichedPosition) (icao24 : String) (t₁ t₃ : Instant) :
    Decidable (LandsBetween positions icao24 t₁ t₃) :=
  inferInstanceAs (Decidable (∃ pos ∈ _, _ ∧ _))

/-- Three fixes of the aircraft trace a valley. -/
def TracesValley (positions : List EnrichedPosition) (icao24 : String) (p q r : Instant × ℤ) :
    Prop :=
  IsValley (nearFixes positions icao24) goAroundFloorFt descentThresholdFt climbThresholdFt p q r

/-- The aircraft traces a valley near a field without a landing. -/
def AbortsLanding (positions : List EnrichedPosition) (icao24 : String) : Prop :=
  ∃ p q r, TracesValley positions icao24 p q r ∧ ¬LandsBetween positions icao24 p.1 r.1

/-- The aircraft aborts a landing, and its first lowest fix lies before the valley with no descent
to it, or after it with no climb from it. -/
def LowestElsewhere (positions : List EnrichedPosition) (icao24 : String) : Prop :=
  ∃ m p q r, IsFirstLowest (nearFixes positions icao24) m ∧ TracesValley positions icao24 p q r ∧
    ¬LandsBetween positions icao24 p.1 r.1 ∧
    Outside (nearFixes positions icao24) descentThresholdFt climbThresholdFt p r m

/-- The first lowest fix is the bottom of a valley, and the aircraft lands in every valley. -/
def LandsInValley (positions : List EnrichedPosition) (icao24 : String) : Prop :=
  ∃ m, IsFirstLowest (nearFixes positions icao24) m ∧ (∃ p r, TracesValley positions icao24 p m r) ∧
    ∀ p q r, TracesValley positions icao24 p q r → LandsBetween positions icao24 p.1 r.1

lemma track_nearRows (positions : List EnrichedPosition) (icao24 : String) :
    track (nearRows (group positions icao24)) = nearFixes positions icao24 := by
  ext fix
  simp only [track, nearRows, knownAltitudes, nearFixes, Set.mem_ofPred_eq, List.mem_filterMap,
    List.mem_insertionSort, List.mem_filter, mem_group, nearGoAround, Bool.and_eq_true,
    Option.any_eq_true, decide_eq_true_eq, Bool.not_eq_true', Option.map_eq_some_iff]
  constructor
  · rintro ⟨pos, ⟨⟨hpos, hid⟩, hdistance, hground⟩, alt, halt, rfl⟩
    exact ⟨pos, hpos, hid, hground, hdistance, rfl, halt⟩
  · rintro ⟨pos, hpos, hid, hground, hdistance, hts, halt⟩
    exact ⟨pos, ⟨⟨hpos, hid⟩, hdistance, hground⟩, fix.2, halt, Prod.ext hts rfl⟩

lemma finite_nearFixes (positions : List EnrichedPosition) (icao24 : String) :
    (nearFixes positions icao24).Finite := by
  rw [← track_nearRows]
  exact List.finite_toSet _

/-- What the rule looks for. -/
lemma emitsGoAround_iff (hcommercial : Commercial libs positions icao24) :
    EmitsGoAround libs positions icao24 ↔
      ∃ m, IsFirstLowest (nearFixes positions icao24) m ∧
        IsBottom (nearFixes positions icao24) goAroundFloorFt descentThresholdFt climbThresholdFt
          m := by
  have hgroup : ∀ pos ∈ group positions icao24,
      isGeneralAviationCallsign libs (optStr pos.callsign) = false := by
    intro pos hpos
    obtain ⟨hpos, hid⟩ := mem_group.mp hpos
    exact hcommercial pos hpos hid
  have hemits := exists_anomaly_iff positions (goAroundAnomaly libs)
    (fun id grp a ha => goAroundAnomaly_icao24 ha) (fun id => rfl) icao24
  rw [EmitsGoAround, goAroundDetect, hemits, goAroundAnomaly_isSome_iff hgroup,
    lowPoint_isSome_iff (nearRows_sorted _), track_nearRows]

/-- For a commercial aircraft the rule emits an anomaly exactly when the aircraft aborts a landing,
unless its first lowest fix lies elsewhere or it lands in every valley. -/
theorem go_around_iff (libs : Libraries) (positions : List EnrichedPosition) (icao24 : String)
    (hcommercial : Commercial libs positions icao24) :
    (EmitsGoAround libs positions icao24 ↔ AbortsLanding positions icao24) ↔
      ¬LowestElsewhere positions icao24 ∧ ¬LandsInValley positions icao24 := by
  have hfinds := firstLowest_finds_iff (finite_nearFixes positions icao24) goAroundFloorFt
    descentThresholdFt climbThresholdFt fun t₁ t₃ => ¬LandsBetween positions icao24 t₁ t₃
  simp only [not_not] at hfinds
  rw [emitsGoAround_iff hcommercial]
  exact hfinds

/-! ### Two approaches -/

/-- A fix four miles from the airport. -/
def fieldFix (altitudeFt minute : ℤ) : EnrichedPosition :=
  { sampleSnapshot "a00001" "ASA12" altitudeFt 0 (minutes minute) with
    originIcao := none
    destinationIcao := none
    departureTime := none
    nearestSiteIcao := some "KJFK"
    nearestSiteDistanceNm := some 4
    feedLastTs := none }

/-- The aircraft comes in, climbs away and goes round again. -/
def goAroundFixes : List EnrichedPosition := [fieldFix 4000 0, fieldFix 1500 2, fieldFix 4000 4]

/-- The aircraft has taken off just before. -/
def returningFixes : List EnrichedPosition :=
  [fieldFix 500 0, fieldFix 4000 2, fieldFix 1500 4, fieldFix 4000 6]

lemma commercial_goAroundFixes : Commercial planarLibs goAroundFixes "a00001" := by
  decide

lemma commercial_returningFixes : Commercial planarLibs returningFixes "a00001" := by
  decide

lemma mem_nearFixes {positions : List EnrichedPosition} {altitudeFt minute : ℤ}
    (h : fieldFix altitudeFt minute ∈ positions) :
    (minutes minute, altitudeFt) ∈ nearFixes positions "a00001" :=
  ⟨_, h, rfl, rfl, ⟨4, rfl, by decide⟩, rfl, rfl⟩

lemma abortsLanding_goAroundFixes : AbortsLanding goAroundFixes "a00001" := by
  refine ⟨(minutes 0, 4000), (minutes 2, 1500), (minutes 4, 4000),
    ⟨mem_nearFixes (by simp [goAroundFixes]), mem_nearFixes (by simp [goAroundFixes]),
      mem_nearFixes (by simp [goAroundFixes]), by decide, by decide, by decide, by decide,
      by decide⟩, ?_⟩
  decide

lemma abortsLanding_returningFixes : AbortsLanding returningFixes "a00001" := by
  refine ⟨(minutes 2, 4000), (minutes 4, 1500), (minutes 6, 4000),
    ⟨mem_nearFixes (by simp [returningFixes]), mem_nearFixes (by simp [returningFixes]),
      mem_nearFixes (by simp [returningFixes]), by decide, by decide, by decide, by decide,
      by decide⟩, ?_⟩
  decide

theorem goAroundFixes_found :
    ¬LowestElsewhere goAroundFixes "a00001" ∧ ¬LandsInValley goAroundFixes "a00001" := by
  have hemits : EmitsGoAround planarLibs goAroundFixes "a00001" := by decide
  exact (go_around_iff planarLibs goAroundFixes "a00001" commercial_goAroundFixes).mp
    (iff_of_true hemits abortsLanding_goAroundFixes)

/-- An aborted landing soon after a takeoff is missed. -/
theorem returningFixes_missed :
    ¬∀ (libs : Libraries) (positions : List EnrichedPosition) (icao24 : String),
      Commercial libs positions icao24 →
      ((group positions icao24).map fun pos => pos.tsPolled).Nodup →
        (EmitsGoAround libs positions icao24 ↔ AbortsLanding positions icao24) := by
  intro h
  have hsilent : ¬EmitsGoAround planarLibs returningFixes "a00001" := by decide
  exact hsilent ((h planarLibs returningFixes "a00001" commercial_returningFixes (by decide)).mpr
    abortsLanding_returningFixes)

end FleetMonitor
