import FleetMonitor.Library.OrderedQuery
import FleetMonitor.Positions.FlightQuery
import FleetMonitor.Sites.Conditions

/-!
# Reading sites

The list of the watched airports, one site with its weather, and its scorecard. The weather of a
site is the row `noaa_weather` has stored; its model requires the flight category and the time of
the observation, which the row may lack.
-/

namespace FleetMonitor

open Library

/-! ### Reference data -/

/-- A row of `ref.airports`. Its coordinates are those of an airport; the codes of the watchlist are
capital letters. -/
structure Airport where
  icao : String
  iata : Option String
  name : String
  city : Option String
  state : Option String
  lat : ℚ
  lon : ℚ
  elevationFt : Option ℤ
  timezone : Option String
  isWatched : Bool
  customerRegions : List String
  lat_bounds : -90 ≤ lat ∧ lat ≤ 90
  lon_bounds : -180 ≤ lon ∧ lon ≤ 180
  isUpper_of_watched : isWatched = true → ∀ c ∈ icao.toList, c.isUpper

abbrev Airports := Table Airport.icao

/-- One watched airport. -/
def sanFrancisco : Airport where
  icao := "KSFO"
  iata := some "SFO"
  name := "San Francisco International Airport"
  city := some "San Francisco"
  state := some "CA"
  lat := 38
  lon := -122
  elevationFt := some 13
  timezone := none
  isWatched := true
  customerRegions := ["west"]
  lat_bounds := by decide
  lon_bounds := by decide
  isUpper_of_watched _ := by simp

/-- `_count_flights`, in the two directions. -/
structure FlightCounts where
  inbound : String → ℕ
  outbound : String → ℕ

/-! ### The list -/

structure SiteListItem where
  icao : String
  iata : Option String
  name : String
  state : String
  customerRegions : List String
  isInScope : Bool
  deriving DecidableEq, Repr

structure SiteListResponse where
  items : List SiteListItem
  count : ℕ
  deriving DecidableEq, Repr

/-- `is_in_scope`. -/
def siteInScope (scope : Scope) (siteRegions : List String) : Bool :=
  scope.region = .all ∨
    ∃ r ∈ siteRegions, r ∈ ["west", "east", "all"] ∧ r = scope.region.text

/-- An item of `list_sites`. -/
def Airport.listItem (scope : Scope) (a : Airport) : SiteListItem where
  icao := a.icao
  iata := a.iata
  name := a.name
  state := a.state.getD ""
  customerRegions := a.customerRegions
  isInScope := siteInScope scope a.customerRegions

/-- `QueryService.list_sites`; a region is refused as in a query of positions. -/
def listSites (scope : Scope) (region : Option Region) (airports : Airports) :
    Except QueryError SiteListResponse :=
  match effectiveRegion scope region with
  | .error e => .error (.scopeViolation e)
  | .ok _    =>
    let rows := orderedQuery airports Airport.isWatched Airport.icao
    let items := (rows.filter fun a => ∀ r ∈ region, r.text ∈ a.customerRegions).map
      (·.listItem scope)
    .ok ⟨items, items.length⟩

/-! ### One site -/

structure SiteWeather where
  metarRaw : String
  metarPlainEnglish : Option String
  flightCategory : FlightCategory
  windKt : Option ℤ
  visibilitySm : Option FloatValue
  ceilingFt : Option ℤ
  observedAt : Instant
  deriving DecidableEq, Repr

structure SiteDetail where
  icao : String
  iata : Option String
  name : String
  city : Option String
  state : String
  lat : ℚ
  lon : ℚ
  elevationFt : Option ℤ
  timezone : Option String
  weather : Option SiteWeather
  inboundCount60m : ℕ
  outboundCount60m : ℕ
  activeCaseCount : ℕ
  customerRegions : List String
  deriving DecidableEq, Repr

/-- `Scope.includes_site`. -/
def Scope.includesSite (scope : Scope) (icao : String) : Bool :=
  scope.region = .all ∨ icao ∈ scope.sitesInScope

/-- The errors of a `SiteWeather`. -/
def weatherErrors (row : ConditionsRow) : List FieldError :=
  literalErrors "flight_category" "'VFR', 'MVFR', 'IFR' or 'LIFR'" row.flightCategory.isSome ++
    if row.metarObservedAt.isSome then []
    else [⟨"observed_at", "Input should be a valid datetime"⟩]

/-- `SiteWeather(…)`. -/
def siteWeather (metarRaw : String) (row : ConditionsRow) : Except ValidationError SiteWeather :=
  match row.flightCategory, row.metarObservedAt with
  | some flightCategory, some observedAt =>
    .ok
      { metarRaw
        metarPlainEnglish := none
        flightCategory
        windKt := row.windKt
        visibilitySm := row.visibilitySm
        ceilingFt := row.ceilingFt
        observedAt }
  | _, _ => .error ⟨"SiteWeather", weatherErrors row⟩

/-- The weather of a joined row; a row without a METAR has none. -/
def readWeather (conditions : Option ConditionsRow) :
    Except ValidationError (Option SiteWeather) :=
  match conditions with
  | none     => .ok none
  | some row =>
    match row.metarRaw with
    | none          => .ok none
    | some metarRaw => if metarRaw = "" then .ok none else (siteWeather metarRaw row).map some

/-- The errors of a `SiteDetail`. -/
def siteErrors (a : Airport) : List FieldError :=
  boundErrors "lat" (-90) 90 a.lat ++ boundErrors "lon" (-180) 180 a.lon

/-- `SiteDetail(…)`. -/
def siteDetail (counts : FlightCounts) (a : Airport) (weather : Option SiteWeather) :
    Except ValidationError SiteDetail :=
  buildModel "SiteDetail" (siteErrors a)
    { icao := a.icao
      iata := a.iata
      name := a.name
      city := a.city
      state := a.state.getD ""
      lat := a.lat
      lon := a.lon
      elevationFt := a.elevationFt
      timezone := a.timezone
      weather
      inboundCount60m := counts.inbound a.icao
      outboundCount60m := counts.outbound a.icao
      activeCaseCount := 0
      customerRegions := a.customerRegions }

variable (py : TextFunctions)

/-- `QueryService.get_site`. -/
def getSite (scope : Scope) (icao : String) (airports : Airports)
    (conditions : AirportConditionsTable) (counts : FlightCounts) : Except QueryError SiteDetail :=
  let icaoUpper := py.upper icao
  if scope.includesSite icaoUpper then
    match (airports.lookup icaoUpper).filter Airport.isWatched with
    | none   => .error (.notFound ("Site '" ++ icaoUpper ++ "' not found or not watched"))
    | some a =>
      match readWeather (conditions.lookup a.icao) with
      | .error e    => .error (.validation e)
      | .ok weather => (siteDetail counts a weather).mapError .validation
  else
    .error (.scopeViolation
      { message := "User scope cannot access site '" ++ icaoUpper ++ "'" })

/-! ### The scorecard -/

inductive SlaPeriod where
  | last24h
  | last7d
  deriving DecidableEq, Repr

inductive WeatherImpact where
  | low
  | medium
  | high
  deriving DecidableEq, Repr

/-- `SiteSla`, without the metrics and the trend, which are null and empty. -/
structure SiteSla where
  icao : String
  period : SlaPeriod
  inboundCount : ℕ
  outboundCount : ℕ
  weatherImpact : WeatherImpact
  flightCategory : FlightCategory
  activeCases : ℕ
  deriving DecidableEq, Repr

/-- `_compute_weather_impact`. -/
def computeWeatherImpact : FlightCategory → WeatherImpact
  | .lifr => .high
  | .ifr  => .medium
  | _     => .low

/-- `QueryService.get_site_sla`; a site without a category counts as `VFR`. -/
def getSiteSla (scope : Scope) (icao : String) (period : SlaPeriod)
    (conditions : AirportConditionsTable) : Except QueryError SiteSla :=
  let icaoUpper := py.upper icao
  if scope.includesSite icaoUpper then
    let flightCategory := ((conditions.lookup icaoUpper).bind (·.flightCategory)).getD .vfr
    .ok
      { icao := icaoUpper
        period
        inboundCount := 0
        outboundCount := 0
        weatherImpact := computeWeatherImpact flightCategory
        flightCategory
        activeCases := 0 }
  else
    .error (.scopeViolation
      { message := "User scope cannot access site '" ++ icaoUpper ++ "'" })

end FleetMonitor
