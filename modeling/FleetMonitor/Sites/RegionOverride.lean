import FleetMonitor.Cases.CaseQuery
import FleetMonitor.Sites.SiteQuery

/-!
# The region override

The list endpoints take a region beside the scope of the caller. Live positions and cases are
filtered by the effective region of the two. Sites are filtered by the override alone, which is
compared with the tags of each airport: there `all` is a tag like the others, and the watchlist
gives it to no airport.
-/

namespace FleetMonitor

open Library

/-! ### What an override may mean -/

/-- A list endpoint over fixed tables: the scope of the caller and the region asked for. -/
abbrev RegionEndpoint (ε α : Type) := Scope → Option Region → Except ε α

variable {ε α : Type} (violation : ScopeViolation → ε) (endpoint : RegionEndpoint ε α)

/-- To a caller of all regions, asking for all of them is asking for nothing. -/
def AllIsDefault : Prop :=
  ∀ scope, scope.region = .all → endpoint scope (some .all) = endpoint scope none

/-- A caller of all regions who asks for one gets what a caller of that region gets. -/
def OverrideIsScope : Prop :=
  ∀ scope scope', scope.region = .all → endpoint scope (some scope'.region) = endpoint scope' none

/-- A narrower caller is refused every other region. -/
def RefusesOthers : Prop :=
  ∀ scope region, scope.region ≠ .all → region ≠ scope.region →
    ∃ e, endpoint scope (some region) = .error (violation e)

/-- The endpoint reads the effective region, and nothing else of the caller. -/
def ReadsEffective : Prop :=
  ∃ answer : Region → Except ε α, ∀ scope region, endpoint scope region =
    match effectiveRegion scope region with
    | .error e      => .error (violation e)
    | .ok effective => answer effective

variable {violation endpoint} {scope : Scope} {region : Region}

@[simp] lemma effectiveRegion_none : effectiveRegion scope none = .ok scope.region := rfl

lemma effectiveRegion_of_all (hall : scope.region = .all) :
    effectiveRegion scope (some region) = .ok region := by
  simp [effectiveRegion, hall]

lemma effectiveRegion_refused (hnarrow : scope.region ≠ .all) (hne : region ≠ scope.region) :
    ∃ e, effectiveRegion scope (some region) = .error e := by
  simp [effectiveRegion, hnarrow, hne]

lemma ReadsEffective.overrideIsScope (h : ReadsEffective violation endpoint) :
    OverrideIsScope endpoint := by
  intro scope scope' hall
  obtain ⟨answer, hendpoint⟩ := h
  rw [hendpoint, hendpoint, effectiveRegion_of_all hall, effectiveRegion_none]

lemma OverrideIsScope.allIsDefault (h : OverrideIsScope endpoint) : AllIsDefault endpoint := by
  intro scope hall
  have hself := h scope scope hall
  rwa [hall] at hself

lemma ReadsEffective.refusesOthers (h : ReadsEffective violation endpoint) :
    RefusesOthers violation endpoint := by
  intro scope region hnarrow hne
  obtain ⟨answer, hendpoint⟩ := h
  obtain ⟨e, he⟩ := effectiveRegion_refused hnarrow hne
  exact ⟨e, by rw [hendpoint, he]⟩

/-! ### The endpoints -/

lemma readLivePositions_readsEffective (bbox : Option BoundingBox) (now : Instant)
    (positions : CurrentPositions) (order : List CurrentPosition) :
    ReadsEffective .scopeViolation
      fun scope region => readLivePositions scope bbox region now positions order :=
  ⟨_, fun _ _ => rfl⟩

lemma listCases_readsEffective (upper : String → String) (instanceUrl : Option String)
    (filter : CaseFilter) (cases : CaseTable) :
    ReadsEffective id
      fun scope region => listCases upper instanceUrl scope { filter with region } cases := by
  refine ⟨fun effective => .ok (caseListResponse instanceUrl
    (caseListRows upper effective filter cases)), fun scope region => ?_⟩
  simp only [listCases]
  cases effectiveRegion scope region <;> rfl

lemma listSites_refusesOthers (airports : Airports) :
    RefusesOthers .scopeViolation fun scope region => listSites scope region airports := by
  intro scope region hnarrow hne
  obtain ⟨e, he⟩ := effectiveRegion_refused hnarrow hne
  exact ⟨e, by simp only [listSites, he]⟩

/-- The watched airports, as `list_sites` fetches them. -/
def watchedSites (airports : Airports) : List Airport :=
  orderedQuery airports Airport.isWatched Airport.icao

lemma listSites_none (scope : Scope) (airports : Airports) : listSites scope none airports =
    .ok ⟨(watchedSites airports).map (·.listItem scope), (watchedSites airports).length⟩ := by
  simp [listSites, watchedSites]

lemma listSites_all (hall : scope.region = .all) (airports : Airports) :
    listSites scope (some .all) airports =
      let kept := (watchedSites airports).filter fun a => "all" ∈ a.customerRegions
      .ok ⟨kept.map (·.listItem scope), kept.length⟩ := by
  simp [listSites, watchedSites, effectiveRegion_of_all hall, Region.text]

/-- The override keeps every site only when every site has the tag. -/
lemma listSites_all_eq_iff (hall : scope.region = .all) (airports : Airports) :
    listSites scope (some .all) airports = listSites scope none airports ↔
      ∀ a ∈ watchedSites airports, "all" ∈ a.customerRegions := by
  rw [listSites_all hall, listSites_none]
  constructor
  · intro h a ha
    have hcount := congrArg SiteListResponse.count (Except.ok.inj h)
    simp only [List.length_filter_eq_length_iff] at hcount
    exact of_decide_eq_true (hcount a ha)
  · intro h
    have hkept : (watchedSites airports).filter (fun a => "all" ∈ a.customerRegions) =
        watchedSites airports :=
      List.filter_eq_self.mpr fun a ha => decide_eq_true (h a ha)
    simp only [hkept]

lemma listSites_allIsDefault_iff (airports : Airports) :
    (AllIsDefault fun scope region => listSites scope region airports) ↔
      ∀ a ∈ airports.rows, a.isWatched = true → "all" ∈ a.customerRegions := by
  constructor
  · intro h a ha hwatched
    exact (listSites_all_eq_iff rfl airports).mp (h (getScope []) rfl) a
      (mem_orderedQuery.mpr ⟨ha, hwatched⟩)
  · intro h scope hall
    refine (listSites_all_eq_iff hall airports).mpr fun a ha => ?_
    obtain ⟨hrow, hwatched⟩ := mem_orderedQuery.mp ha
    exact h a hrow hwatched

/-! ### One meaning -/

/-- The override means the same thing to the three endpoints over these tables. -/
structure OneMeaning (positions : CurrentPositions) (cases : CaseTable) (airports : Airports) :
    Prop where
  live_all : ∀ bbox now order, AllIsDefault fun scope region =>
    readLivePositions scope bbox region now positions order
  cases_all : ∀ upper instanceUrl (filter : CaseFilter), AllIsDefault fun scope region =>
    listCases upper instanceUrl scope { filter with region } cases
  sites_all : AllIsDefault fun scope region => listSites scope region airports
  live_region : ∀ bbox now order, OverrideIsScope fun scope region =>
    readLivePositions scope bbox region now positions order
  cases_region : ∀ upper instanceUrl (filter : CaseFilter), OverrideIsScope fun scope region =>
    listCases upper instanceUrl scope { filter with region } cases
  live_refused : ∀ bbox now order, RefusesOthers .scopeViolation fun scope region =>
    readLivePositions scope bbox region now positions order
  cases_refused : ∀ upper instanceUrl (filter : CaseFilter), RefusesOthers id fun scope region =>
    listCases upper instanceUrl scope { filter with region } cases
  sites_refused : RefusesOthers .scopeViolation fun scope region => listSites scope region airports

/-- The override has one meaning exactly when every watched airport is tagged `all`. -/
theorem oneMeaning_iff_tagged (positions : CurrentPositions) (cases : CaseTable)
    (airports : Airports) : OneMeaning positions cases airports ↔
      ∀ a ∈ airports.rows, a.isWatched = true → "all" ∈ a.customerRegions := by
  have hlive := fun bbox now order => readLivePositions_readsEffective bbox now positions order
  have hcases := fun upper instanceUrl filter =>
    listCases_readsEffective upper instanceUrl filter cases
  constructor
  · intro h
    exact (listSites_allIsDefault_iff airports).mp h.sites_all
  · intro h
    exact
      { live_all := fun bbox now order => (hlive bbox now order).overrideIsScope.allIsDefault
        cases_all := fun upper url filter => (hcases upper url filter).overrideIsScope.allIsDefault
        sites_all := (listSites_allIsDefault_iff airports).mpr h
        live_region := fun bbox now order => (hlive bbox now order).overrideIsScope
        cases_region := fun upper url filter => (hcases upper url filter).overrideIsScope
        live_refused := fun bbox now order => (hlive bbox now order).refusesOthers
        cases_refused := fun upper url filter => (hcases upper url filter).refusesOthers
        sites_refused := listSites_refusesOthers airports }

/-- Asked for all regions, the list of sites is empty. -/
theorem sanFrancisco_not_listed :
    ¬OneMeaning Table.empty Table.empty ⟨[sanFrancisco], List.nodup_singleton _⟩ := by
  intro h
  have hlist := h.sites_all (getScope []) rfl
  have hcount := congrArg (fun list => list.toOption.map SiteListResponse.count) hlist
  exact absurd hcount (by decide)

end FleetMonitor
