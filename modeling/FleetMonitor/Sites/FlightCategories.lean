import FleetMonitor.Library.LeastElement
import FleetMonitor.Sites.Metar
import Mathlib.Data.Int.ConditionallyCompleteOrder

/-!
# Flight categories

The category of a row is computed of the lowest ceiling. It is the worst of the categories of the
visibility and of each ceiling layer alone, so it depends on which ceiling layers there are and not
on how they are listed, and it gets no better when one is added or lowered.
-/

namespace FleetMonitor

open Library

/-! ### The order of the categories -/

lemma FlightCategory.rank_injective : Function.Injective FlightCategory.rank := by
  intro c d h
  cases c <;> cases d <;> first | rfl | cases h

/-- The worse category is the smaller one, by `FLIGHT_CATEGORY_RANK`. -/
instance : LinearOrder FlightCategory :=
  LinearOrder.lift' FlightCategory.rank FlightCategory.rank_injective

lemma FlightCategory.le_iff {c d : FlightCategory} : c ≤ d ↔ c.rank ≤ d.rank := Iff.rfl

lemma FlightCategory.le_vfr (c : FlightCategory) : c ≤ .vfr := by
  rw [le_iff]
  cases c <;> decide

/-- `min(…, key=FLIGHT_CATEGORY_RANK.__getitem__)` is the worse of the two. -/
lemma ite_rank_eq_min (c v : FlightCategory) : (if v.rank < c.rank then v else c) = min c v := by
  rw [min_comm, min_def_lt]
  rfl

/-! ### One layer -/

/-- The base of a layer that counts as a ceiling. -/
def ceilingBase (layer : JsonObject) : Option JsonNumber :=
  match layer.get "cover", (layer.get "base").number? with
  | .str cover, some base => if cover ∈ ceilingCovers then some base else none
  | _, _                  => none

/-- The category of one ceiling, by its base as it is reported. -/
def baseCategory (base : JsonNumber) : FlightCategory :=
  if base.value.lt 500 then .lifr
  else if base.value.lt 1000 then .ifr
  else if base.value.lt 3000 then .mvfr
  else .vfr

/-- The categories of the ceiling layers. -/
def layerCategories (clouds : List JsonObject) : Set FlightCategory :=
  {c | ∃ layer ∈ clouds, ∃ base, ceilingBase layer = some base ∧ baseCategory base = c}

/-- The categories of the visibility, if there is one, and of every ceiling layer. -/
def reportCategories (report : NoaaMetarReport) : Set FlightCategory :=
  {c | report.visibilitySm.map (fun x => visibilityCategory (some x)) = some c} ∪
    layerCategories report.clouds

/-- Two reports with one visibility and the same ceiling layers, in whatever order and number, with
whatever other layers. -/
structure SameCeilings (report report' : NoaaMetarReport) : Prop where
  visibilitySm : report'.visibilitySm = report.visibilitySm
  clouds : ∀ layer, ceilingBase layer ≠ none → (layer ∈ report'.clouds ↔ layer ∈ report.clouds)

/-- The second report has at most the visibility of the first, and for every ceiling layer of the
first one with at most its base. -/
structure Worsened (report report' : NoaaMetarReport) : Prop where
  visibilitySm : ∀ x ∈ report.visibilitySm, ∃ x' ∈ report'.visibilitySm, x'.AtMost x
  clouds : ∀ layer ∈ report.clouds, ∀ base ∈ ceilingBase layer,
    ∃ layer' ∈ report'.clouds, ∃ base' ∈ ceilingBase layer', base'.value.AtMost base.value

/-! ### Thresholds -/

variable {clouds : List JsonObject} {ceiling result : Option ℤ} {report report' : NoaaMetarReport}
  {tafMap : String → Option String} {row row' : ConditionsRow}

/-- A base that is cut to an integer is below a threshold exactly when it is itself. -/
lemma truncate_lt_iff {base : JsonNumber} {baseFt bound : ℤ} (h : truncate base = .ok baseFt)
    (hbound : 0 < bound) : baseFt < bound ↔ base.value.lt bound = true := by
  cases base with
  | int n =>
    obtain rfl := Except.ok.inj h
    simp [JsonNumber.value, FloatValue.lt]
  | float x =>
    cases x with
    | finite x =>
      obtain rfl := Except.ok.inj h
      rw [tdiv_lt_iff hbound]
      simp [JsonNumber.value, FloatValue.lt]
    | infinite negative => cases h
    | nan => cases h

/-- The category of a ceiling is that of its base. -/
lemma ceilingCategory_of_truncate {base : JsonNumber} {baseFt : ℤ}
    (h : truncate base = .ok baseFt) : ceilingCategory (some baseFt) = baseCategory base := by
  have h500 := truncate_lt_iff h (show (0 : ℤ) < 500 by decide)
  have h1000 := truncate_lt_iff h (show (0 : ℤ) < 1000 by decide)
  have h3000 := truncate_lt_iff h (show (0 : ℤ) < 3000 by decide)
  simp only [ceilingCategory, baseCategory, h500, h1000, h3000]
  norm_cast

/-- A category given by thresholds gets no better below them. -/
lemma thresholds_mono {low mid high low' mid' high' : Prop} [Decidable low] [Decidable mid]
    [Decidable high] [Decidable low'] [Decidable mid'] [Decidable high'] (hlow : low → low')
    (hmid : mid → mid') (hhigh : high → high') :
    (if low' then FlightCategory.lifr else if mid' then .ifr else if high' then .mvfr else .vfr) ≤
      if low then FlightCategory.lifr else if mid then .ifr else if high then .mvfr else .vfr := by
  rw [FlightCategory.le_iff]
  split_ifs <;> first | decide | tauto

lemma ceilingCategory_mono : Monotone fun n : ℤ => ceilingCategory (some n) := by
  intro m n h
  exact thresholds_mono h.trans_lt h.trans_lt h.trans_lt

lemma baseCategory_mono {base base' : JsonNumber} (h : base'.value.AtMost base.value) :
    baseCategory base' ≤ baseCategory base :=
  thresholds_mono h.lt h.lt h.lt

lemma visibilityCategory_mono {x x' : FloatValue} (h : x'.AtMost x) :
    visibilityCategory (some x') ≤ visibilityCategory (some x) :=
  thresholds_mono h.lt h.lt h.le

/-! ### The lowest ceiling -/

/-- A lower ceiling takes the place of the one so far. -/
lemma extractCeilingFt_cons (layer : JsonObject) :
    extractCeilingFt (layer :: clouds) ceiling =
      match ceilingBase layer with
      | none      => extractCeilingFt clouds ceiling
      | some base =>
        (truncate base).bind fun baseFt => extractCeilingFt clouds (ceiling.merge min (some baseFt)) := by
  have hlower : ∀ baseFt : ℤ, (if ∀ lowest ∈ ceiling, baseFt < lowest then some baseFt else ceiling) =
      ceiling.merge min (some baseFt) := by
    intro baseFt
    cases ceiling with
    | none => simp
    | some lowest => simp [min_comm lowest, min_def_lt, apply_ite some]
  rw [extractCeilingFt]
  split
  next cover base hcover hbase =>
    simp only [ceilingBase, hcover, hbase, hlower]
    split_ifs
    · show _ = (truncate base).bind _
      cases truncate base <;> rfl
    · rfl
  next hnot =>
    have hnone : ceilingBase layer = none := by
      unfold ceilingBase
      split
      next cover base hcover hbase => exact (hnot cover base hcover hbase).elim
      next => rfl
    rw [hnone]

/-- A ceiling comes out unless a base cannot be cut to an integer. -/
lemma exists_extractCeilingFt_iff : (∃ result, extractCeilingFt clouds ceiling = .ok result) ↔
    ∀ layer ∈ clouds, ∀ base ∈ ceilingBase layer, ∃ n, truncate base = .ok n := by
  induction clouds generalizing ceiling with
  | nil => exact iff_of_true ⟨ceiling, rfl⟩ (by simp)
  | cons layer clouds ih =>
    rw [extractCeilingFt_cons, List.forall_mem_cons]
    cases hbase : ceilingBase layer with
    | none => simp [ih]
    | some base =>
      cases hcut : truncate base with
      | error e => simp [Except.bind, hcut]
      | ok baseFt => simp [Except.bind, ih, hcut]

/-- The ceilings of some layers, cut to integers. -/
def ceilingsFt (clouds : List JsonObject) : Set ℤ :=
  {n | ∃ layer ∈ clouds, ∃ base ∈ ceilingBase layer, truncate base = .ok n}

lemma ceilingsFt_cons_of_none {layer : JsonObject} (h : ceilingBase layer = none) :
    ceilingsFt (layer :: clouds) = ceilingsFt clouds := by
  ext n
  simp [ceilingsFt, h]

lemma ceilingsFt_cons_of_some {layer : JsonObject} {base : JsonNumber} {baseFt : ℤ}
    (h : ceilingBase layer = some base) (hcut : truncate base = .ok baseFt) :
    ceilingsFt (layer :: clouds) = {n | some baseFt = some n} ∪ ceilingsFt clouds := by
  ext n
  simp [ceilingsFt, h, hcut, eq_comm]

/-- The ceiling that comes out is the least of the one so far and those of the layers. -/
lemma extractCeilingFt_isLeastOf {so : Set ℤ} (hso : IsLeastOf so ceiling)
    (h : extractCeilingFt clouds ceiling = .ok result) :
    IsLeastOf (so ∪ ceilingsFt clouds) result := by
  induction clouds generalizing ceiling so with
  | nil =>
    obtain rfl := Except.ok.inj h
    have hnone : ceilingsFt [] = ∅ := by simp [ceilingsFt]
    rwa [hnone, Set.union_empty]
  | cons layer clouds ih =>
    rw [extractCeilingFt_cons] at h
    cases hbase : ceilingBase layer with
    | none =>
      rw [hbase] at h
      rw [ceilingsFt_cons_of_none hbase]
      exact ih hso h
    | some base =>
      rw [hbase] at h
      obtain ⟨baseFt, hcut, h⟩ := bind_eq_ok_iff.mp h
      rw [ceilingsFt_cons_of_some hbase hcut, ← Set.union_assoc]
      exact ih (hso.union (IsLeastOf.toSet (some baseFt))) h

/-! ### The category of a row -/

/-- The categories of the ceiling layers are those of their ceilings. -/
lemma layerCategories_eq_image
    (h : ∀ layer ∈ clouds, ∀ base ∈ ceilingBase layer, ∃ n, truncate base = .ok n) :
    layerCategories clouds = (fun n => ceilingCategory (some n)) '' ceilingsFt clouds := by
  ext c
  constructor
  · rintro ⟨layer, hlayer, base, hbase, rfl⟩
    obtain ⟨n, hn⟩ := h layer hlayer base hbase
    exact ⟨n, ⟨layer, hlayer, base, hbase, hn⟩, ceilingCategory_of_truncate hn⟩
  · rintro ⟨n, ⟨layer, hlayer, base, hbase, hn⟩, rfl⟩
    exact ⟨layer, hlayer, base, hbase, (ceilingCategory_of_truncate hn).symm⟩

/-- What is computed is the worse of the two categories there are. -/
lemma computeFlightCategory_eq_merge (ceilingFt : Option ℤ) (visibilitySm : Option FloatValue) :
    computeFlightCategory ceilingFt visibilitySm =
      (visibilitySm.map fun x => visibilityCategory (some x)).merge min
        (ceilingFt.map fun n => ceilingCategory (some n)) := by
  simp only [computeFlightCategory, ite_rank_eq_min]
  cases ceilingFt with
  | none =>
    cases visibilitySm with
    | none => rfl
    | some x => simp [ceilingCategory, FlightCategory.le_vfr]
  | some n =>
    cases visibilitySm with
    | none => simp [visibilityCategory, FlightCategory.le_vfr]
    | some x => simp [min_comm]

/-- The category of a row is the worst there is. -/
lemma flightCategory_isLeastOf (h : conditionsRow tafMap report = .ok row) :
    IsLeastOf (reportCategories report) row.flightCategory := by
  obtain ⟨ceilingFt, hceiling, hrow⟩ := bind_eq_ok_iff.mp h
  obtain rfl := Except.ok.inj hrow
  have hempty : IsLeastOf (∅ : Set ℤ) none := rfl
  have hceilings := extractCeilingFt_isLeastOf hempty hceiling
  rw [Set.empty_union] at hceilings
  have hlayers := hceilings.map ceilingCategory_mono
  rw [← layerCategories_eq_image (exists_extractCeilingFt_iff.mp ⟨_, hceiling⟩)] at hlayers
  show IsLeastOf _ (computeFlightCategory ceilingFt report.visibilitySm)
  rw [computeFlightCategory_eq_merge]
  exact (IsLeastOf.toSet _).union hlayers

variable (tafMap) in
/-- A row is built unless a base cannot be cut to an integer. -/
lemma exists_conditionsRow_iff : (∃ row, conditionsRow tafMap report = .ok row) ↔
    ∀ layer ∈ report.clouds, ∀ base ∈ ceilingBase layer, ∃ n, truncate base = .ok n := by
  have hceilings : (∃ ceilingFt, extractCeilingFt report.clouds none = .ok ceilingFt) ↔ _ :=
    exists_extractCeilingFt_iff
  rw [← hceilings]
  constructor
  · rintro ⟨row, h⟩
    obtain ⟨ceilingFt, hceiling, -⟩ := bind_eq_ok_iff.mp h
    exact ⟨ceilingFt, hceiling⟩
  · rintro ⟨ceilingFt, hceiling⟩
    exact ⟨_, bind_eq_ok_iff.mpr ⟨ceilingFt, hceiling, rfl⟩⟩

lemma SameCeilings.reportCategories_eq (h : SameCeilings report report') :
    reportCategories report' = reportCategories report := by
  have hlayers : layerCategories report'.clouds = layerCategories report.clouds := by
    ext c
    constructor
    · rintro ⟨layer, hlayer, base, hbase, hc⟩
      exact ⟨layer, (h.clouds layer (by simp [hbase])).mp hlayer, base, hbase, hc⟩
    · rintro ⟨layer, hlayer, base, hbase, hc⟩
      exact ⟨layer, (h.clouds layer (by simp [hbase])).mpr hlayer, base, hbase, hc⟩
  rw [reportCategories, h.visibilitySm, hlayers, reportCategories]

/-- Reports with the same ceilings are both built, and have one category. -/
lemma SameCeilings.exists_row (h : SameCeilings report report')
    (hrow : conditionsRow tafMap report = .ok row) :
    ∃ row', conditionsRow tafMap report' = .ok row' ∧ row'.flightCategory = row.flightCategory := by
  have hbuilt := (exists_conditionsRow_iff tafMap).mp ⟨row, hrow⟩
  obtain ⟨row', hrow'⟩ : ∃ row', conditionsRow tafMap report' = .ok row' := by
    refine (exists_conditionsRow_iff tafMap).mpr fun layer hlayer base hbase => ?_
    have hceiling := Option.ne_none_iff_exists'.mpr ⟨base, hbase⟩
    exact hbuilt layer ((h.clouds layer hceiling).mp hlayer) base hbase
  have hleast := flightCategory_isLeastOf hrow'
  rw [h.reportCategories_eq] at hleast
  exact ⟨row', hrow', hleast.unique (flightCategory_isLeastOf hrow)⟩

/-- Whatever category a report has, the worsened one has a category that is no better. -/
lemma Worsened.exists_le (h : Worsened report report') {c : FlightCategory}
    (hc : c ∈ reportCategories report) : ∃ c' ∈ reportCategories report', c' ≤ c := by
  rcases hc with hc | ⟨layer, hlayer, base, hbase, rfl⟩
  · obtain ⟨x, hx, rfl⟩ := Option.map_eq_some_iff.mp hc
    obtain ⟨x', hx', hle⟩ := h.visibilitySm x hx
    exact ⟨_, .inl (Option.map_eq_some_iff.mpr ⟨x', hx', rfl⟩), visibilityCategory_mono hle⟩
  · obtain ⟨layer', hlayer', base', hbase', hle⟩ := h.clouds layer hlayer base hbase
    exact ⟨_, .inr ⟨layer', hlayer', base', hbase', rfl⟩, baseCategory_mono hle⟩

/-- The flight category of a row is the worst of the categories of the visibility and of every
ceiling layer. It does not depend on the order or the number of the ceiling layers or on other
layers, and it does not improve when a layer is added, a base lowered or the visibility reduced. -/
theorem flightCategory_worst (tafMap : String → Option String) (report : NoaaMetarReport)
    (row : ConditionsRow) (hrow : conditionsRow tafMap report = .ok row) :
    IsLeastOf (reportCategories report) row.flightCategory ∧
      (∀ report', SameCeilings report report' → ∃ row', conditionsRow tafMap report' = .ok row' ∧
        row'.flightCategory = row.flightCategory) ∧
      ∀ report' row', Worsened report report' → conditionsRow tafMap report' = .ok row' →
        ∀ c ∈ row.flightCategory, ∃ c' ∈ row'.flightCategory, c' ≤ c := by
  refine ⟨flightCategory_isLeastOf hrow, fun report' h => h.exists_row hrow, ?_⟩
  intro report' row' h hrow' c hc
  have hleast := flightCategory_isLeastOf hrow
  rw [show row.flightCategory = some c from hc] at hleast
  exact hleast.exists_le (flightCategory_isLeastOf hrow') fun d hd => h.exists_le hd

/-- A low overcast under a higher broken layer. -/
def overcastReport : NoaaMetarReport where
  icao := "KSFO"
  rawText := none
  observedAt := none
  windKt := none
  windDirDeg := none
  visibilitySm := some (.finite 4)
  temperatureC := none
  altimeterInHg := none
  clouds := [[("cover", .str "BKN"), ("base", .int 2500)],
    [("cover", .str "OVC"), ("base", .int 800)]]
  rawJson := []

/-- Its ceiling is worse than its visibility. -/
theorem overcast_is_worst : IsLeastOf (reportCategories overcastReport) (some .ifr) :=
  (flightCategory_worst (fun _ => none) overcastReport _ rfl).1

end FleetMonitor
