import FleetMonitor.Foundry.SiteSync

/-!
# The flight category of a site

`site_to_site` prefers the category of the scorecard to that of the weather, and the scorecard
always has one: `get_site_sla` answers `VFR` for a site without a category. A site whose category is
unknown is written as `VFR` unless its scorecard is not fetched.
-/

namespace FleetMonitor

open Library

/-! ### What is written -/

/-- A client for which the scorecards of some sites are not fetched. -/
def AfmApiClient.withoutSla (client : AfmApiClient) (slaFailure : String → Option HttpError) :
    AfmApiClient where
  fetchSites := client.fetchSites
  fetchSite := client.fetchSite
  fetchSiteSla := fun icao =>
    match slaFailure icao with
    | some e => .error e
    | none   => client.fetchSiteSla icao

/-- `noaa_weather` has stored the category for the site. -/
def HasCategory (conditions : AirportConditionsTable) (icao : String) (category : FlightCategory) :
    Prop :=
  ∃ row ∈ conditions.lookup icao, row.flightCategory = some category

/-- Every category that is written is the one that is stored for its site. -/
def CategoriesStored (client : AfmApiClient) (conditions : AirportConditionsTable) : Prop :=
  ∀ sites, writtenSites client = .ok sites →
    ∀ site ∈ sites, ∀ category ∈ site.flightCategory, HasCategory conditions site.icao category

/-! ### One site -/

variable {py : TextFunctions} {statusText : ℕ → String} {airports : Airports}
  {counts : FlightCounts} {conditions : AirportConditionsTable}
  {slaFailure : String → Option HttpError} {a : Airport} {site : Site}

variable (py statusText airports counts conditions) in
/-- The category of a scorecard: what is stored, or `VFR`. -/
lemma exists_fetchSiteSla (hwatched : a.isWatched = true) :
    ∃ sla, (siteApi py statusText airports counts conditions).fetchSiteSla a.icao = .ok sla ∧
      sla.flightCategory = ((conditions.lookup a.icao).bind (·.flightCategory)).getD .vfr := by
  obtain ⟨sla, hsla, hcategory⟩ : ∃ sla, getSiteSla py
      (getScope ((watchedAirports airports).map Airport.icao)) a.icao .last24h conditions = .ok sla ∧
      sla.flightCategory = ((conditions.lookup a.icao).bind (·.flightCategory)).getD .vfr := by
    simp [getSiteSla, upper_icao hwatched, includesSite_getScope]
  refine ⟨sla, ?_, hcategory⟩
  simp only [siteApi, getJson_eq_ok_iff]
  exact ⟨hsla, trivial⟩

/-- The weather that is read has the category of the row. -/
lemma readWeather_category {weather : SiteWeather}
    (h : readWeather (conditions.lookup a.icao) = .ok (some weather)) :
    HasCategory conditions a.icao weather.flightCategory := by
  unfold readWeather at h
  split at h
  next => cases h
  next row hrow =>
    split at h
    next => cases h
    next raw hraw =>
      split_ifs at h
      · cases h
      · rw [siteWeather] at h
        split at h
        next category observedAt hcategory hobserved =>
          obtain rfl := Option.some.inj (Except.ok.inj h)
          exact ⟨row, hrow, hcategory⟩
        next => cases h

variable (py statusText airports counts conditions slaFailure) in
/-- The client of the sync. -/
abbrev siteClient : AfmApiClient :=
  (siteApi py statusText airports counts conditions).withoutSla slaFailure

/-- The object of a site with its category: that of the scorecard, if it is fetched. -/
lemma fetchSiteObject_category {scope : Scope} (ha : a ∈ airports.rows)
    (hwatched : a.isWatched = true)
    (h : fetchSiteObject (siteClient py statusText airports counts conditions slaFailure)
      (a.listItem scope) = .ok site) :
    site.icao = a.icao ∧
      (slaFailure a.icao = none → site.flightCategory =
        some (((conditions.lookup a.icao).bind (·.flightCategory)).getD .vfr)) ∧
      (slaFailure a.icao ≠ none → ∀ category ∈ site.flightCategory,
        HasCategory conditions a.icao category) := by
  rw [fetchSiteObject] at h
  split at h
  next => cases h
  next detail hdetail =>
    have hfetched :
        (siteApi py statusText airports counts conditions).fetchSite a.icao = .ok detail :=
      hdetail
    obtain rfl := Except.ok.inj h
    refine ⟨fetchSite_icao ha hwatched hfetched, fun hnone => ?_,
      fun hfailed category hcategory => ?_⟩
    · obtain ⟨sla, hsla, hslaCategory⟩ :=
        exists_fetchSiteSla py statusText airports counts conditions hwatched
      have hclient : (siteClient py statusText airports counts conditions slaFailure).fetchSiteSla
          a.icao = .ok sla := by
        show (match slaFailure a.icao with
          | some e => Except.error e
          | none => (siteApi py statusText airports counts conditions).fetchSiteSla a.icao) = _
        rw [hnone]
        exact hsla
      simp only [Airport.listItem, hclient, siteToSite, hslaCategory]
    · obtain ⟨e, he⟩ := Option.ne_none_iff_exists'.mp hfailed
      have hclient : (siteClient py statusText airports counts conditions slaFailure).fetchSiteSla
          a.icao = .error e := by
        show (match slaFailure a.icao with
          | some e => Except.error e
          | none => (siteApi py statusText airports counts conditions).fetchSiteSla a.icao) = _
        rw [he]
      simp only [Airport.listItem, hclient, siteToSite] at hcategory
      obtain ⟨weather, hweather, rfl⟩ := Option.map_eq_some_iff.mp hcategory
      obtain ⟨read, hread, hbuilt, -⟩ := (fetchSite_eq_ok_iff ha hwatched).mp hfetched
      obtain ⟨detail', hdetail', -, rfl⟩ := siteDetail_ok counts a read
      rw [hbuilt] at hdetail'
      obtain rfl := Except.ok.inj hdetail'
      rw [hweather] at hread
      exact readWeather_category hread

/-- A written category is that of the site exactly when its scorecard is missing or the category is
known. -/
lemma fetchSiteObject_stored_iff {scope : Scope} (ha : a ∈ airports.rows)
    (hwatched : a.isWatched = true)
    (h : fetchSiteObject (siteClient py statusText airports counts conditions slaFailure)
      (a.listItem scope) = .ok site) :
    (∀ category ∈ site.flightCategory, HasCategory conditions site.icao category) ↔
      slaFailure a.icao ≠ none ∨ ∃ category, HasCategory conditions a.icao category := by
  obtain ⟨hicao, hfetched, hmissing⟩ := fetchSiteObject_category ha hwatched h
  rw [hicao]
  by_cases hnone : slaFailure a.icao = none
  · rw [hfetched hnone]
    constructor
    · intro hstored
      exact .inr ⟨_, hstored _ rfl⟩
    · rintro (hfailed | ⟨category, row, hrow, hcategory⟩)
      · exact absurd hnone hfailed
      · have hlookup : conditions.lookup a.icao = some row := hrow
        rintro c hc
        rw [hlookup, Option.bind_some, hcategory, Option.getD_some] at hc
        obtain rfl := Option.some.inj hc
        exact ⟨row, hrow, hcategory⟩
  · exact iff_of_true (hmissing hnone) (.inl hnone)

/-! ### All sites -/

variable (py statusText airports counts conditions slaFailure) in
/-- Every written category is stored exactly when a row cannot be read, so that nothing is written,
or every watched site has a stored category or a scorecard that is not fetched. -/
theorem categoriesStored_iff :
    CategoriesStored (siteClient py statusText airports counts conditions slaFailure) conditions ↔
      (∃ a ∈ watchedAirports airports, ∃ row ∈ conditions.lookup a.icao, ¬row.IsReadable) ∨
      ∀ a ∈ watchedAirports airports,
        slaFailure a.icao ≠ none ∨ ∃ category, HasCategory conditions a.icao category := by
  obtain ⟨scope, hlisting⟩ := fetchSites_items py statusText airports counts conditions
  have hsites : writtenSites (siteClient py statusText airports counts conditions slaFailure) =
      ((watchedAirports airports).map (·.listItem scope)).mapM
        (fetchSiteObject (siteClient py statusText airports counts conditions slaFailure)) := by
    show (siteApi py statusText airports counts conditions).fetchSites >>= _ = _
    rw [hlisting]
    rfl
  have hread : (∃ sites, writtenSites (siteClient py statusText airports counts conditions slaFailure) =
      .ok sites) ↔ ∀ a ∈ watchedAirports airports, ∀ row ∈ conditions.lookup a.icao,
        row.IsReadable := by
    rw [hsites, exists_mapM_ok_iff, List.forall_mem_map]
    refine forall₂_congr fun a hmem => ?_
    obtain ⟨ha, hwatched⟩ := mem_watchedAirports.mp hmem
    rw [exists_fetchSiteObject_iff]
    exact exists_fetchSite_iff py statusText counts ha hwatched
  by_cases hall : ∀ a ∈ watchedAirports airports, ∀ row ∈ conditions.lookup a.icao, row.IsReadable
  · obtain ⟨sites, hok⟩ := hread.mpr hall
    have hnot :
        ¬∃ a ∈ watchedAirports airports, ∃ row ∈ conditions.lookup a.icao, ¬row.IsReadable := by
      rintro ⟨a, ha, row, hrow, hunreadable⟩
      exact hunreadable (hall a ha row hrow)
    have hmapM := hsites.symm.trans hok
    rw [or_iff_right hnot, CategoriesStored]
    simp only [hok, Except.ok.injEq, forall_eq']
    constructor
    · intro hstored a hmem
      obtain ⟨ha, hwatched⟩ := mem_watchedAirports.mp hmem
      obtain ⟨site, hsite⟩ := exists_mapM_ok_iff.mp ⟨sites, hmapM⟩ _ (List.mem_map_of_mem hmem)
      have hwritten := (mem_of_mapM_ok hmapM).mpr ⟨_, List.mem_map_of_mem hmem, hsite⟩
      exact (fetchSiteObject_stored_iff ha hwatched hsite).mp (hstored site hwritten)
    · intro hknown site hwritten
      obtain ⟨item, hitem, hsite⟩ := (mem_of_mapM_ok hmapM).mp hwritten
      obtain ⟨a, hmem, rfl⟩ := List.mem_map.mp hitem
      obtain ⟨ha, hwatched⟩ := mem_watchedAirports.mp hmem
      exact (fetchSiteObject_stored_iff ha hwatched hsite).mpr (hknown a hmem)
  · have hnone : ∀ sites,
        writtenSites (siteClient py statusText airports counts conditions slaFailure) ≠ .ok sites :=
      fun sites hok => hall (hread.mp ⟨sites, hok⟩)
    refine iff_of_true (fun sites hok => absurd hok (hnone sites)) (.inl ?_)
    push Not at hall
    exact hall

/-- A site for which no METAR has been stored is written as `VFR`. -/
theorem unreported_site_is_vfr :
    ¬∀ (py : TextFunctions) (statusText : ℕ → String) (airports : Airports) (counts : FlightCounts)
      (conditions : AirportConditionsTable) (slaFailure : String → Option HttpError),
      CategoriesStored (siteClient py statusText airports counts conditions slaFailure) conditions := by
  intro h
  have hstored := h asciiText (fun _ => "") ⟨[sanFrancisco], by simp⟩ ⟨fun _ => 0, fun _ => 0⟩
    Table.empty fun _ => none
  obtain ⟨sites, hsites, hvfr⟩ : ∃ sites, writtenSites (siteClient asciiText (fun _ => "")
      ⟨[sanFrancisco], by simp⟩ ⟨fun _ => 0, fun _ => 0⟩ Table.empty fun _ => none) = .ok sites ∧
        sites.map Site.flightCategory = [some .vfr] := ⟨_, rfl, rfl⟩
  obtain ⟨site, hsite, hcategory⟩ : ∃ site ∈ sites, site.flightCategory = some .vfr := by
    rw [← List.mem_map, hvfr]
    exact List.mem_singleton_self _
  obtain ⟨row, hrow, -⟩ := hstored sites hsites site hsite .vfr hcategory
  cases hrow

end FleetMonitor
