import FleetMonitor.Foundry.SyncErrors
import FleetMonitor.Sites.SiteQuery

/-!
# The sync of the sites

`full_sync_sites` reads every watched site from the API and upserts them all. The scorecard of a
site may be missing, but a site that cannot be read ends the run: whether it can is decided by the
METARs `noaa_weather` has stored.
-/

namespace FleetMonitor

open Library

/-! ### The API -/

/-- The status the exception handlers give; a `ValidationError` has none and becomes a 500. -/
def QueryError.status : QueryError → ℕ
  | .scopeViolation _      => 403
  | .notFound _            => 404
  | .validation _          => 500
  | .upstreamUnavailable _ => 503

/-- `JSONResponse` renders no infinite number and no `nan`. -/
def SiteDetail.isRendered (detail : SiteDetail) : Bool :=
  ∀ weather ∈ detail.weather, ∀ x ∈ weather.visibilitySm, x.isFinite

/-- What the sync reads. -/
structure AfmApiClient where
  fetchSites : Except HttpError SiteListResponse
  fetchSite : String → Except HttpError SiteDetail
  fetchSiteSla : String → Except HttpError SiteSla

variable (py : TextFunctions) (statusText : ℕ → String) (airports : Airports)
  (counts : FlightCounts) (conditions : AirportConditionsTable)

/-- `_get_json`, of an answer that is the same in every attempt. -/
def getJson {α : Type} (renders : α → Bool) (answer : Except QueryError α) : Except HttpError α :=
  retry shouldRetry (fun _ =>
    match answer with
    | .error e => .error (.status e.status (statusText e.status))
    | .ok a    => if renders a then .ok a else .error (.status 500 (statusText 500))) 3

/-- The watched airports in the order of their codes. -/
def watchedAirports : List Airport := orderedQuery airports Airport.isWatched Airport.icao

/-- The client of an API that is reached, in the scope of `get_scope`. -/
def siteApi : AfmApiClient :=
  let scope := getScope ((watchedAirports airports).map Airport.icao)
  { fetchSites := getJson statusText (fun _ => true) (listSites scope none airports)
    fetchSite := fun icao =>
      getJson statusText SiteDetail.isRendered (getSite py scope icao airports conditions counts)
    fetchSiteSla := fun icao =>
      getJson statusText (fun _ => true) (getSiteSla py scope icao .last24h conditions) }

/-! ### The job -/

/-- `Site`, without the metrics and the trend, which are null and empty. -/
structure Site where
  icao : String
  iata : Option String
  name : String
  city : Option String
  state : String
  lat : ℚ
  lon : ℚ
  elevationFt : Option ℤ
  timezone : Option String
  customerRegions : List String
  inboundCount60m : ℕ
  outboundCount60m : ℕ
  activeCaseCount : ℕ
  metarRaw : Option String
  metarPlainEnglish : Option String
  windKt : Option ℤ
  visibilitySm : Option FloatValue
  ceilingFt : Option ℤ
  weatherObservedAt : Option Instant
  flightCategory : Option FlightCategory
  slaPeriod : Option SlaPeriod
  slaInboundCount : Option ℕ
  slaOutboundCount : Option ℕ
  weatherImpact : Option WeatherImpact
  deriving DecidableEq, Repr

/-- `site_to_site`. -/
def siteToSite (detail : SiteDetail) (sla : Option SiteSla) : Site where
  icao := detail.icao
  iata := detail.iata
  name := detail.name
  city := detail.city
  state := detail.state
  lat := detail.lat
  lon := detail.lon
  elevationFt := detail.elevationFt
  timezone := detail.timezone
  customerRegions := detail.customerRegions
  inboundCount60m := detail.inboundCount60m
  outboundCount60m := detail.outboundCount60m
  activeCaseCount := detail.activeCaseCount
  metarRaw := detail.weather.map (·.metarRaw)
  metarPlainEnglish := detail.weather.bind (·.metarPlainEnglish)
  windKt := detail.weather.bind (·.windKt)
  visibilitySm := detail.weather.bind (·.visibilitySm)
  ceilingFt := detail.weather.bind (·.ceilingFt)
  weatherObservedAt := detail.weather.map (·.observedAt)
  flightCategory :=
    match sla with
    | some sla => some sla.flightCategory
    | none     => detail.weather.map (·.flightCategory)
  slaPeriod := sla.map (·.period)
  slaInboundCount := sla.map (·.inboundCount)
  slaOutboundCount := sla.map (·.outboundCount)
  weatherImpact := sla.map (·.weatherImpact)

/-- One turn of the loop: a scorecard that cannot be fetched is left out, a site is not. -/
def fetchSiteObject (client : AfmApiClient) (item : SiteListItem) : Except HttpError Site :=
  match client.fetchSite item.icao with
  | .error e   => .error e
  | .ok detail =>
    .ok (siteToSite detail
      (match client.fetchSiteSla item.icao with
        | .ok sla  => some sla
        | .error _ => none))

/-- The sites `full_sync_sites` gives to the upsert. -/
def writtenSites (client : AfmApiClient) : Except HttpError (List Site) := do
  let listing ← client.fetchSites
  listing.items.mapM (fetchSiteObject client)

/-- `full_sync_sites`. -/
def fullSyncSites (client : AfmApiClient) (upsert : List Site → Except HttpError BatchResult) :
    Except HttpError SyncResult := do
  let sites ← writtenSites client
  let batch ← upsert sites
  return { attempted := batch.attempted, succeeded := batch.succeeded, failed := batch.failed }

/-! ### What is read back -/

/-- Every watched site is read without a validation error, and the sync gets to the upsert of all of
them. -/
structure SitesReadable : Prop where
  read : ∀ (scope : Scope), ∀ a ∈ airports.rows, a.isWatched = true → ∀ e,
    getSite py scope a.icao airports conditions counts ≠ .error (.validation e)
  synced : ∃ sites : List Site, sites.map Site.icao = (watchedAirports airports).map Airport.icao ∧
    ∀ upsert, fullSyncSites (siteApi py statusText airports counts conditions) upsert =
      (upsert sites).map fun batch =>
        { attempted := batch.attempted, succeeded := batch.succeeded, failed := batch.failed }

/-- A METAR whose row can be read: it has no text, or a time of observation and a visibility, or a
ceiling instead of the visibility. -/
def IsReadable (item : JsonObject) : Prop :=
  strOrNone (item.get "rawOb") = none ∨
    IsObserved item ∧
      (∀ x, parseVisibility py (item.get "visib") = .ok (some x) → x.isFinite = true) ∧
      (parseVisibility py (item.get "visib") = .ok none → HasCeiling item)

/-- The columns `SiteWeather` and its rendering need. -/
def ConditionsRow.IsReadable (row : ConditionsRow) : Prop :=
  ∀ raw, row.metarRaw = some raw → raw ≠ "" →
    row.flightCategory ≠ none ∧ row.metarObservedAt ≠ none ∧
      ∀ x ∈ row.visibilitySm, x.isFinite = true

/-! ### One site -/

variable {py statusText airports counts conditions} {a : Airport} {row : ConditionsRow}
  {scope : Scope}

lemma getJson_eq_ok_iff {α : Type} {renders : α → Bool} {answer : Except QueryError α} {r : α} :
    getJson statusText renders answer = .ok r ↔ answer = .ok r ∧ renders r = true := by
  unfold getJson
  rw [retry_const]
  cases answer with
  | error e => simp
  | ok r' =>
    simp only [Except.ok.injEq]
    split_ifs with hrenders
    · constructor
      · intro h
        obtain rfl := Except.ok.inj h
        exact ⟨rfl, hrenders⟩
      · rintro ⟨rfl, -⟩
        rfl
    · refine iff_of_false (fun h => nomatch h) ?_
      rintro ⟨rfl, h⟩
      exact hrenders h

/-- The weather that is read, if the row can be. -/
lemma readWeather_iff :
    (∃ weather, readWeather (some row) = .ok weather ∧
      ∀ w ∈ weather, ∀ x ∈ w.visibilitySm, x.isFinite = true) ↔ row.IsReadable := by
  rw [readWeather]
  cases hraw : row.metarRaw with
  | none =>
    refine iff_of_true ⟨none, rfl, by simp⟩ fun raw h => ?_
    rw [hraw] at h
    cases h
  | some raw =>
    have hreadable : row.IsReadable ↔ (raw ≠ "" → row.flightCategory ≠ none ∧
        row.metarObservedAt ≠ none ∧ ∀ x ∈ row.visibilitySm, x.isFinite = true) := by
      rw [ConditionsRow.IsReadable, hraw]
      simp
    rw [hreadable]
    by_cases hempty : raw = ""
    · simp [hempty]
    · simp only [if_neg hempty, siteWeather]
      split
      next category observedAt hcategory hobserved =>
        simp [hcategory, hobserved, hempty, Except.map]
      next hnot =>
        refine iff_of_false (by simp [Except.map]) fun h => ?_
        obtain ⟨hcategory, hobserved, -⟩ := h hempty
        obtain ⟨category, hcategory⟩ := Option.ne_none_iff_exists'.mp hcategory
        obtain ⟨observedAt, hobserved⟩ := Option.ne_none_iff_exists'.mp hobserved
        exact hnot category observedAt hcategory hobserved

/-- The coordinates of an airport pass the checks of its model. -/
lemma siteDetail_ok (counts : FlightCounts) (a : Airport) (weather : Option SiteWeather) :
    ∃ detail, siteDetail counts a weather = .ok detail ∧ detail.icao = a.icao ∧
      detail.weather = weather := by
  refine ⟨_, buildModel_eq_ok ?_, rfl, rfl⟩
  rw [siteErrors, List.append_eq_nil_iff, boundErrors_eq_nil_iff, boundErrors_eq_nil_iff]
  exact ⟨by exact_mod_cast a.lat_bounds, by exact_mod_cast a.lon_bounds⟩

lemma upper_icao (hwatched : a.isWatched = true) : py.upper a.icao = a.icao :=
  py.upper_of_isUpper a.icao (a.isUpper_of_watched hwatched)

/-- A watched site that is in scope is read with the weather of its row. -/
lemma getSite_eq (ha : a ∈ airports.rows) (hwatched : a.isWatched = true)
    (hscope : scope.includesSite a.icao = true) :
    getSite py scope a.icao airports conditions counts =
      match readWeather (conditions.lookup a.icao) with
      | .error e    => .error (.validation e)
      | .ok weather => (siteDetail counts a weather).mapError .validation := by
  have hlookup : (airports.lookup a.icao).filter Airport.isWatched = some a := by
    rw [Table.lookup_of_mem ha]
    simp [Option.filter, hwatched]
  cases hweather : readWeather (conditions.lookup a.icao) with
  | error e => simp [getSite, upper_icao hwatched, hscope, hlookup, hweather]
  | ok weather => simp [getSite, upper_icao hwatched, hscope, hlookup, hweather]

/-- A site out of scope is refused, and nothing is validated. -/
lemma getSite_ne_validation_of_out_of_scope (hwatched : a.isWatched = true)
    (hscope : ¬scope.includesSite a.icao = true) (e : ValidationError) :
    getSite py scope a.icao airports conditions counts ≠ .error (.validation e) := by
  simp [getSite, upper_icao hwatched, hscope]

/-- The scope of the stub includes every site. -/
lemma includesSite_getScope (icaos : List String) (icao : String) :
    (getScope icaos).includesSite icao = true := by
  simp [Scope.includesSite, getScope]

/-- A site is rendered when its visibility is. -/
lemma isRendered_iff {detail : SiteDetail} :
    detail.isRendered = true ↔ ∀ w ∈ detail.weather, ∀ x ∈ w.visibilitySm, x.isFinite = true := by
  simp [SiteDetail.isRendered]

/-- The weather of a site the API answers with. -/
lemma fetchSite_eq_ok_iff (ha : a ∈ airports.rows) (hwatched : a.isWatched = true)
    {detail : SiteDetail} :
    (siteApi py statusText airports counts conditions).fetchSite a.icao = .ok detail ↔
      ∃ weather, readWeather (conditions.lookup a.icao) = .ok weather ∧
        siteDetail counts a weather = .ok detail ∧ detail.isRendered = true := by
  simp only [siteApi, getJson_eq_ok_iff, getSite_eq ha hwatched (includesSite_getScope _ _)]
  cases readWeather (conditions.lookup a.icao) with
  | error e => simp
  | ok weather => simp [mapError_eq_ok_iff]

lemma fetchSite_icao (ha : a ∈ airports.rows) (hwatched : a.isWatched = true)
    {detail : SiteDetail}
    (h : (siteApi py statusText airports counts conditions).fetchSite a.icao = .ok detail) :
    detail.icao = a.icao := by
  obtain ⟨weather, -, hdetail, -⟩ := (fetchSite_eq_ok_iff ha hwatched).mp h
  obtain ⟨detail', hdetail', hicao, -⟩ := siteDetail_ok counts a weather
  rw [hdetail'] at hdetail
  obtain rfl := Except.ok.inj hdetail
  exact hicao

variable (py statusText counts) in
/-- The API answers with a site exactly when its row can be read. -/
lemma exists_fetchSite_iff (ha : a ∈ airports.rows) (hwatched : a.isWatched = true) :
    (∃ detail, (siteApi py statusText airports counts conditions).fetchSite a.icao = .ok detail) ↔
      ∀ row ∈ conditions.lookup a.icao, row.IsReadable := by
  have hread : (∃ detail,
        (siteApi py statusText airports counts conditions).fetchSite a.icao = .ok detail) ↔
      ∃ weather, readWeather (conditions.lookup a.icao) = .ok weather ∧
        ∀ w ∈ weather, ∀ x ∈ w.visibilitySm, x.isFinite = true := by
    simp only [fetchSite_eq_ok_iff ha hwatched]
    constructor
    · rintro ⟨detail, weather, hweather, hdetail, hrendered⟩
      obtain ⟨detail', hdetail', -, rfl⟩ := siteDetail_ok counts a weather
      rw [hdetail'] at hdetail
      obtain rfl := Except.ok.inj hdetail
      exact ⟨_, hweather, isRendered_iff.mp hrendered⟩
    · rintro ⟨weather, hweather, hfinite⟩
      obtain ⟨detail, hdetail, -, rfl⟩ := siteDetail_ok counts a weather
      exact ⟨detail, _, hweather, hdetail, isRendered_iff.mpr hfinite⟩
  rw [hread]
  cases conditions.lookup a.icao with
  | none =>
    refine iff_of_true ⟨none, rfl, ?_⟩ ?_
    · intro w hw
      cases hw
    · intro row hrow
      cases hrow
  | some row =>
    rw [readWeather_iff]
    simp

/-! ### All sites -/

lemma mem_watchedAirports : a ∈ watchedAirports airports ↔ a ∈ airports.rows ∧ a.isWatched = true :=
  mem_orderedQuery

variable (py statusText airports counts conditions) in
/-- The API lists the watched airports. -/
lemma fetchSites_items :
    ∃ scope, (siteApi py statusText airports counts conditions).fetchSites =
      .ok ⟨(watchedAirports airports).map (·.listItem scope),
        (watchedAirports airports).length⟩ := by
  refine ⟨getScope ((watchedAirports airports).map Airport.icao), ?_⟩
  rw [siteApi, getJson_eq_ok_iff]
  refine ⟨?_, rfl⟩
  simp [listSites, effectiveRegion, watchedAirports]

/-- The object of a site is built once its detail is fetched. -/
lemma exists_fetchSiteObject_iff {client : AfmApiClient} {item : SiteListItem} :
    (∃ site, fetchSiteObject client item = .ok site) ↔
      ∃ detail, client.fetchSite item.icao = .ok detail := by
  rw [fetchSiteObject]
  cases client.fetchSite item.icao with
  | error e => simp
  | ok detail => simp

lemma fetchSiteObject_icao (ha : a ∈ airports.rows) (hwatched : a.isWatched = true) {site : Site}
    (h : fetchSiteObject (siteApi py statusText airports counts conditions) (a.listItem scope) =
      .ok site) : site.icao = a.icao := by
  rw [fetchSiteObject, show (a.listItem scope).icao = a.icao from rfl] at h
  split at h
  next => cases h
  next detail hdetail =>
    obtain rfl := Except.ok.inj h
    exact fetchSite_icao ha hwatched hdetail

variable (py statusText counts scope) in
/-- The loop gets to its end exactly when every row can be read. -/
lemma exists_sites_iff :
    (∃ sites, ((watchedAirports airports).map (·.listItem scope)).mapM
        (fetchSiteObject (siteApi py statusText airports counts conditions)) = .ok sites) ↔
      ∀ a ∈ airports.rows, a.isWatched = true →
        ∀ row ∈ conditions.lookup a.icao, row.IsReadable := by
  rw [exists_mapM_ok_iff]
  simp only [exists_fetchSiteObject_iff]
  constructor
  · intro h a ha hwatched
    exact (exists_fetchSite_iff py statusText counts ha hwatched).mp
      (h _ (List.mem_map_of_mem (mem_watchedAirports.mpr ⟨ha, hwatched⟩)))
  · intro h item hitem
    obtain ⟨a, ha, rfl⟩ := List.mem_map.mp hitem
    obtain ⟨ha, hwatched⟩ := mem_watchedAirports.mp ha
    exact (exists_fetchSite_iff py statusText counts ha hwatched).mpr (h a ha hwatched)

/-- The sites are those of the watched airports. -/
lemma map_icao_of_sites {sites : List Site}
    (h : ((watchedAirports airports).map (·.listItem scope)).mapM
      (fetchSiteObject (siteApi py statusText airports counts conditions)) = .ok sites) :
    sites.map Site.icao = (watchedAirports airports).map Airport.icao := by
  have hicaos : sites.map Site.icao =
      ((watchedAirports airports).map (·.listItem scope)).map SiteListItem.icao := by
    refine map_eq_of_mapM_ok h fun item hitem site hsite => ?_
    obtain ⟨a, ha, rfl⟩ := List.mem_map.mp hitem
    obtain ⟨ha, hwatched⟩ := mem_watchedAirports.mp ha
    exact fetchSiteObject_icao ha hwatched hsite
  rw [hicaos, List.map_map]
  rfl

/-- What can be read is read, in every scope. -/
lemma getSite_ne_validation (ha : a ∈ airports.rows) (hwatched : a.isWatched = true)
    (h : ∀ row ∈ conditions.lookup a.icao, row.IsReadable) (e : ValidationError) :
    getSite py scope a.icao airports conditions counts ≠ .error (.validation e) := by
  by_cases hscope : scope.includesSite a.icao = true
  · obtain ⟨detail, hdetail⟩ :=
      (exists_fetchSite_iff py (fun _ => "") counts ha hwatched).mpr h
    obtain ⟨weather, hweather, hbuilt, -⟩ := (fetchSite_eq_ok_iff ha hwatched).mp hdetail
    rw [getSite_eq ha hwatched hscope, hweather]
    simp [hbuilt, Except.mapError]
  · exact getSite_ne_validation_of_out_of_scope hwatched hscope e

/-- Every site can be read exactly when the row of every site can. -/
lemma sitesReadable_iff :
    SitesReadable py statusText airports counts conditions ↔
      ∀ a ∈ airports.rows, a.isWatched = true →
        ∀ row ∈ conditions.lookup a.icao, row.IsReadable := by
  obtain ⟨scope, hlisting⟩ := fetchSites_items py statusText airports counts conditions
  constructor
  · intro h
    obtain ⟨_, -, hsync⟩ := h.synced
    have hrun := hsync fun _ => .ok ⟨0, 0, 0⟩
    obtain ⟨sites, hwritten, -⟩ := bind_eq_ok_iff.mp hrun
    obtain ⟨listing, hfetched, hsites⟩ := bind_eq_ok_iff.mp hwritten
    rw [hlisting] at hfetched
    obtain rfl := Except.ok.inj hfetched
    exact (exists_sites_iff py statusText counts scope).mp ⟨sites, hsites⟩
  · intro h
    obtain ⟨sites, hsites⟩ := (exists_sites_iff py statusText counts scope).mpr h
    refine ⟨fun scope a ha hwatched => getSite_ne_validation ha hwatched (h a ha hwatched),
      sites, map_icao_of_sites hsites, fun upsert => ?_⟩
    rw [fullSyncSites, writtenSites, hlisting]
    simp only [bind, Except.bind, hsites]
    cases upsert sites with
    | error e => rfl
    | ok batch => rfl

/-! ### Runs of the weather -/

variable {columns : ConditionColumns} {item : JsonObject} {poll : WeatherPoll}
  {polls : List WeatherPoll}

lemma strOrNone_ne_empty {value : Json} {s : String} (h : strOrNone value = some s) : s ≠ "" := by
  unfold strOrNone at h
  split at h
  next s' =>
    split_ifs at h with hempty
    obtain rfl := Option.some.inj h
    exact hempty
  next => cases h

/-- A stored row can be read exactly when its METAR says so. -/
lemma IsRowOf.isReadable_store_iff (h : IsRowOf py item row) :
    (columns.store row).IsReadable ↔ IsReadable py item := by
  have hraw : (columns.store row).metarRaw = strOrNone (item.get "rawOb") := h.metarRaw
  have hfinite : (∀ x ∈ (columns.store row).visibilitySm, x.isFinite = true) ↔
      ∀ x ∈ row.visibilitySm, x.isFinite = true := by
    simp [ConditionColumns.store]
  rw [ConditionsRow.IsReadable, hraw, IsReadable, h.visibilitySm]
  cases htext : strOrNone (item.get "rawOb") with
  | none => simp
  | some raw =>
    have hne : raw ≠ "" := strOrNone_ne_empty htext
    have hcategory : (columns.store row).flightCategory ≠ none ↔
        (row.visibilitySm = none → HasCeiling item) := by
      rw [Ne, show (columns.store row).flightCategory = row.flightCategory from rfl,
        h.flightCategory]
      tauto
    have hobserved : (columns.store row).metarObservedAt ≠ none ↔ IsObserved item := by
      rw [Ne, show (columns.store row).metarObservedAt = row.metarObservedAt from rfl,
        h.metarObservedAt, not_not]
    rw [hfinite, hcategory, hobserved]
    simp only [Option.some.injEq, forall_eq', hne, ne_eq, not_false_eq_true, forall_true_left,
      reduceCtorEq, false_or, Except.ok.injEq, Option.mem_def]
    tauto

lemma conditionsAfter_append (poll : WeatherPoll) :
    conditionsAfter py columns (polls ++ [poll]) =
      noaaWeather py columns (conditionsAfter py columns polls) poll := by
  simp [conditionsAfter]

/-- A run leaves every site readable whose METAR is. -/
lemma noaaWeather_isReadable {icao : String}
    (hbefore : ∀ row ∈ conditions.lookup icao, row.IsReadable)
    (hpoll : poll.IsStored py columns → ∀ item, poll.reportOf py icao = some item →
      IsReadable py item) :
    ∀ row ∈ (noaaWeather py columns conditions poll).lookup icao, row.IsReadable := by
  by_cases hstored : poll.IsStored py columns
  · rcases noaaWeather_lookup conditions hstored icao with
      ⟨item, row, hitem, hrow, hlookup⟩ | ⟨-, hlookup⟩
    · rw [hlookup]
      intro row' hrow'
      obtain rfl := Option.some.inj hrow'
      exact hrow.isReadable_store_iff.mpr (hpoll hstored item hitem)
    · rwa [hlookup]
  · rwa [noaaWeather_of_not_stored hstored]

lemma conditionsAfter_isReadable {icao : String}
    (h : ∀ poll ∈ polls, poll.IsStored py columns → ∀ item, poll.reportOf py icao = some item →
      IsReadable py item) :
    ∀ row ∈ (conditionsAfter py columns polls).lookup icao, row.IsReadable := by
  induction polls using List.reverseRecOn with
  | nil =>
    intro row hrow
    simp [conditionsAfter, Table.empty, Table.lookup] at hrow
  | append_singleton polls poll ih =>
    rw [conditionsAfter_append]
    exact noaaWeather_isReadable (ih fun p hp => h p (List.mem_append_left _ hp))
      (h poll (List.mem_append_right _ List.mem_cons_self))

/-- Throughout a sequence of weather runs every site can be read and synced, exactly when no run
stores a METAR of a watched site that has a text but lacks the time of observation, or lacks both a
visibility and a ceiling. -/
theorem sites_stay_readable_iff (py : TextFunctions) (columns : ConditionColumns)
    (statusText : ℕ → String) (airports : Airports) (counts : FlightCounts)
    (polls : List WeatherPoll) :
    (∀ before, before <+: polls →
        SitesReadable py statusText airports counts (conditionsAfter py columns before)) ↔
      ∀ poll ∈ polls, poll.IsStored py columns → ∀ a ∈ airports.rows, a.isWatched = true →
        ∀ item, poll.reportOf py a.icao = some item → IsReadable py item := by
  simp only [sitesReadable_iff]
  constructor
  · intro h poll hpoll hstored a ha hwatched item hitem
    obtain ⟨before, after, rfl⟩ := List.append_of_mem hpoll
    have hread := h (before ++ [poll]) ⟨after, by simp⟩ a ha hwatched
    rw [conditionsAfter_append] at hread
    rcases noaaWeather_lookup _ hstored a.icao with ⟨item', row, hitem', hrow, hlookup⟩ | ⟨hnone, -⟩
    · rw [hitem] at hitem'
      obtain rfl := Option.some.inj hitem'
      exact hrow.isReadable_store_iff.mp (hread _ hlookup)
    · rw [hitem] at hnone
      cases hnone
  · intro h before hbefore a ha hwatched
    exact conditionsAfter_isReadable fun poll hpoll hstored =>
      h poll (hbefore.subset hpoll) hstored a ha hwatched

/-- Columns that take every row as it is. -/
def wideColumns : ConditionColumns where
  accepts _ := true
  numeric _ x := x

/-- A run that is answered with a METAR without visibility and clouds. -/
def bareMetarPoll : WeatherPoll where
  icaos := ["KSFO"]
  metars := .ok (.arr [.obj
    [("icaoId", .str "KSFO"), ("rawOb", .str "KSFO 011156Z 00000KT"), ("obsTime", .int 1704110160)]])
  tafs := .ok (.arr [])

/-- A METAR without visibility and ceiling makes its site unreadable. -/
theorem bare_metar_unreadable :
    ¬∀ (py : TextFunctions) (columns : ConditionColumns) (statusText : ℕ → String)
      (airports : Airports) (counts : FlightCounts) (polls before : List WeatherPoll),
      before <+: polls →
        SitesReadable py statusText airports counts (conditionsAfter py columns before) := by
  intro h
  have hread : getSite asciiText (getScope ["KSFO"]) "KSFO" ⟨[sanFrancisco], by simp⟩
      (conditionsAfter asciiText wideColumns [bareMetarPoll]) ⟨fun _ => 0, fun _ => 0⟩ =
        .error (.validation ⟨"SiteWeather",
          [⟨"flight_category", "Input should be 'VFR', 'MVFR', 'IFR' or 'LIFR'"⟩]⟩) := by
    decide +kernel
  exact (h asciiText wideColumns (fun _ => "") ⟨[sanFrancisco], by simp⟩ ⟨fun _ => 0, fun _ => 0⟩
    [bareMetarPoll] [bareMetarPoll] List.prefix_rfl).read (getScope ["KSFO"]) sanFrancisco
      List.mem_cons_self rfl _ hread

end FleetMonitor
