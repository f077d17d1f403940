import FleetMonitor.Foundry.Ontology
import FleetMonitor.Positions.CurrentPositions
import FleetMonitor.Sites.Metar

/-!
# The ingestion of positions

`opensky_positions` polls `/states/all`, drops the aircraft of the denylist and those without
coordinates, writes the rows that are left to the lake and then upserts them page by page. Postgres
aborts a page that has an aircraft twice.
-/

namespace FleetMonitor

open Library

/-! ### Values -/

/-- What the conversion of a value raises. -/
inductive StateError where
  | typeError
  | conversion (e : ConversionError)
  deriving DecidableEq, Repr

/-- `bool(value)`. -/
def jsonBool : Json → Bool
  | .null              => false
  | .bool b            => b
  | .int n             => n ≠ 0
  | .float (.finite x) => x ≠ 0
  | .float _           => true
  | .str s             => s ≠ ""
  | .arr items         => !items.isEmpty
  | .obj fields        => !fields.isEmpty

/-- `int(value)`. -/
def jsonInt : Json → Except StateError ℤ
  | .str s =>
    match pyInt s.toList with
    | some n => .ok n
    | none   => .error (.conversion .valueError)
  | value  =>
    match value.number? with
    | some n => (truncate n).mapError .conversion
    | none   => .error .typeError

variable (py : TextFunctions)

/-- `float(value)`. -/
def jsonFloat : Json → Except StateError FloatValue
  | .str s =>
    match py.float s with
    | some x => .ok x
    | none   => .error (.conversion .valueError)
  | value  =>
    match value.number? with
    | some n => (toFloat n).mapError .conversion
    | none   => .error .typeError

def isNull : Json → Bool
  | .null => true
  | _     => false

/-- `convert(value) if value is not None else None`. -/
def unlessNull {α : Type} (convert : Json → Except StateError α) (value : Json) :
    Except StateError (Option α) :=
  if isNull value then .ok none else (convert value).map some

/-! ### State vectors -/

/-- `OpenSkyState`. -/
structure OpenSkyState where
  icao24 : String
  callsign : Option String
  originCountry : String
  timePosition : Option ℤ
  lastContact : ℤ
  lon : Option FloatValue
  lat : Option FloatValue
  baroAltitudeM : Option FloatValue
  onGround : Bool
  velocityMs : Option FloatValue
  trueTrackDeg : Option FloatValue
  verticalRateMs : Option FloatValue
  geoAltitudeM : Option FloatValue
  squawk : Option String
  spi : Bool
  positionSource : ℤ
  deriving DecidableEq, Repr

/-- `row[k]`, of a row that is long enough. -/
def cell (row : List Json) (k : ℕ) : Json := row.getD k .null

/-- The address a row begins with, before it is lowercased. -/
def address (row : List Json) : String :=
  match cell row 0 with
  | .str s => s
  | _      => ""

/-- The callsign, trimmed; blank is none. -/
def callsignOf (row : List Json) : Option String :=
  match cell row 1 with
  | .str s => stripOrNone s
  | _      => none

def squawkOf (row : List Json) : Option String := strOrNone (cell row 14)

/-- `_row_to_state`. -/
def rowToState (row : List Json) : Except StateError OpenSkyState := do
  let positionSource ← unlessNull jsonInt (cell row 16)
  let timePosition ← unlessNull jsonInt (cell row 3)
  let lastContact ← jsonInt (cell row 4)
  let lon ← unlessNull (jsonFloat py) (cell row 5)
  let lat ← unlessNull (jsonFloat py) (cell row 6)
  let baroAltitudeM ← unlessNull (jsonFloat py) (cell row 7)
  let velocityMs ← unlessNull (jsonFloat py) (cell row 9)
  let trueTrackDeg ← unlessNull (jsonFloat py) (cell row 10)
  let verticalRateMs ← unlessNull (jsonFloat py) (cell row 11)
  let geoAltitudeM ← unlessNull (jsonFloat py) (cell row 13)
  return {
    icao24 := py.lower (address row)
    callsign := callsignOf row
    originCountry := if isNull (cell row 2) then "" else py.str (cell row 2)
    timePosition
    lastContact
    lon
    lat
    baroAltitudeM
    onGround := jsonBool (cell row 8)
    velocityMs
    trueTrackDeg
    verticalRateMs
    geoAltitudeM
    squawk := squawkOf row
    spi := jsonBool (cell row 15)
    positionSource := positionSource.getD 0 }

/-- The items of `states` that are state vectors: lists of at least 17 values that begin with an
address. -/
def stateRows (rawStates : List Json) : List (List Json) :=
  rawStates.filterMap fun
    | .arr row => if 17 ≤ row.length ∧ address row ≠ "" then some row else none
    | _        => none

/-- `OpenSkyResponse`. -/
structure OpenSkyResponse where
  apiTime : ℤ
  states : List OpenSkyState
  creditsUsed : ℕ := 4
  rateLimitRemaining : Option ℤ
  deriving DecidableEq, Repr

/-- What `_parse_response` raises: an `OpenSkyParseError`, or what a conversion raises. -/
inductive ParseFailure where
  | parseError (text : String)
  | raised (e : StateError)
  deriving DecidableEq, Repr

/-- `payload["time"]`; an `OverflowError` is not caught. -/
def parseTime (value : Json) : Except ParseFailure ℤ :=
  match jsonInt value with
  | .ok n                               => .ok n
  | .error (.conversion .overflowError) => .error (.raised (.conversion .overflowError))
  | .error _                            =>
    .error (.parseError ("Invalid 'time' field: " ++ py.repr value))

/-- `payload.get("states") or []`. -/
def parseStates (value : Json) : Except ParseFailure (List Json) :=
  match value with
  | .arr items => .ok items
  | value      =>
    if jsonBool value then .error (.parseError ("'states' is not a list: " ++ typeName value))
    else .ok []

/-- The header `X-Rate-Limit-Remaining`. -/
def parseRateLimit (header : Option String) : Except ParseFailure (Option ℤ) :=
  match header with
  | none      => .ok none
  | some text =>
    if py.isDigit (String.ofList (text.toList.dropWhile (· = '-'))) then
      match pyInt text.toList with
      | some n => .ok (some n)
      | none   => .error (.raised (.conversion .valueError))
    else .ok none

/-- `_parse_response`; a body that is no JSON is given by the text of its error. -/
def parseResponse (body : Except String Json) (rateLimit : Option String) :
    Except ParseFailure OpenSkyResponse :=
  match body with
  | .error text => .error (.parseError ("Non-JSON response: " ++ text))
  | .ok (.obj payload) => do
    if payload.any (·.1 = "time") then
      let apiTime ← parseTime py (JsonObject.get payload "time")
      let rawStates ← parseStates (JsonObject.get payload "states")
      let states ← ((stateRows rawStates).mapM (rowToState py)).mapError .raised
      let rateLimitRemaining ← parseRateLimit py rateLimit
      return { apiTime, states, rateLimitRemaining }
    else .error (.parseError "Unexpected payload shape: dict")
  | .ok value => .error (.parseError ("Unexpected payload shape: " ++ typeName value))

/-! ### Rows -/

/-- A row of a poll: `POSITIONS_COLUMNS`, with coordinates as they are polled. -/
structure PolledRow where
  icao24 : String
  callsign : Option String
  originCountry : String
  lat : FloatValue
  lon : FloatValue
  altitudeFt : Option ℤ
  speedKt : Option ℤ
  headingDeg : Option ℤ
  verticalRateFpm : Option ℤ
  onGround : Bool
  squawk : Option String
  tsPolled : Instant
  tsPosition : Option Instant
  customerRegion : Option CustomerRegion
  deriving DecidableEq, Repr

/-- `METERS_TO_FEET`. -/
def metersToFeet : ℚ := double (3280839895 / 1000000000)

/-- `MPS_TO_KNOTS`. -/
def mpsToKnots : ℚ := double (1943844492 / 1000000000)

/-- `MPS_TO_FPM`. -/
def mpsToFpm : ℚ := double (196850393701 / 1000000000)

/-- `int(round(value * factor))`. -/
def roundScaled (factor : ℚ) : FloatValue → Except StateError ℤ
  | .finite x   =>
    if 2 ^ 1024 - 2 ^ 970 ≤ |x * factor| then .error (.conversion .overflowError)
    else .ok (Library.roundHalfEven (double (x * factor)))
  | .infinite _ => .error (.conversion .overflowError)
  | .nan        => .error (.conversion .valueError)

def scaledOrNone (factor : ℚ) : Option FloatValue → Except StateError (Option ℤ)
  | none   => .ok none
  | some x => (roundScaled factor x).map some

/-- `_denormalize_region`. -/
def denormalizeRegion : Option (List CustomerRegion) → Option CustomerRegion
  | none          => none
  | some []       => none
  | some [region] => some region
  | some _        => some .all

/-- `_is_denied`. -/
def isDenied (prefixes : List String) (icao24 : String) : Bool :=
  prefixes.any fun p => p.toList.isPrefixOf icao24.toList

/-- The time of the last contact; `0` is none. -/
def positionTime (lastContact : ℤ) : Except StateError (Option Instant) :=
  if lastContact = 0 then .ok none
  else ((fromTimestamp lastContact).mapError .conversion).map some

variable (inferRegion : FloatValue → FloatValue → Option (List CustomerRegion)) (polledAt : Instant)

/-- The row of one state, if it has coordinates. -/
def convertState (state : OpenSkyState) : Except StateError (Option PolledRow) :=
  match state.lat, state.lon with
  | some lat, some lon => do
    let altitudeFt ← scaledOrNone metersToFeet state.baroAltitudeM
    let speedKt ← scaledOrNone mpsToKnots state.velocityMs
    let headingDeg ← scaledOrNone 1 state.trueTrackDeg
    let verticalRateFpm ← scaledOrNone mpsToFpm state.verticalRateMs
    let tsPosition ← positionTime state.lastContact
    return some {
      icao24 := state.icao24
      callsign := state.callsign
      originCountry := state.originCountry
      lat
      lon
      altitudeFt
      speedKt
      headingDeg
      verticalRateFpm
      onGround := state.onGround
      squawk := state.squawk
      tsPolled := polledAt
      tsPosition
      customerRegion := denormalizeRegion (inferRegion lat lon) }
  | _, _ => .ok none

/-- `_convert_states_to_rows`. -/
def convertStatesToRows (states : List OpenSkyState) : Except StateError (List PolledRow) :=
  (states.mapM (convertState inferRegion polledAt)).map List.reduceOption

/-! ### The cycle -/

/-- The `page_size` of `execute_values`. -/
def upsertPageSize : ℕ := 1000

/-- What the lake and the database answer: an `OSError` or a database error, by its text. -/
structure CycleServices where
  writeSnapshot : List PolledRow → Option String
  fetchAircraftTypes : List String → Except String (Dict String)
  /-- Any error of a statement other than that it has an aircraft twice. -/
  refuses : List PolledRow → Option String

inductive CycleError where
  | parse (e : StateError)
  | convert (e : StateError)
  | snapshot (text : String)
  | database (text : String)
  /-- `ON CONFLICT DO UPDATE` cannot affect a row a second time. -/
  | affectedTwice
  deriving DecidableEq, Repr

/-- What a cycle has done: the snapshot it has written, the statements it has sent, and how many
rows it has upserted or what it has raised. -/
structure CycleRun where
  snapshot : Option (List PolledRow)
  statements : List (List PolledRow)
  result : Except CycleError ℕ

variable (services : CycleServices)

/-- The error of one statement. -/
def statementError (page : List PolledRow) : Option CycleError :=
  match services.refuses page with
  | some text => some (.database text)
  | none      => if (page.map PolledRow.icao24).Nodup then none else some .affectedTwice

/-- The pages in turn, until one fails; the row count is that of the last. -/
def upsertPages : List (List PolledRow) → List (List PolledRow) × Except CycleError ℕ
  | []            => ([], .ok 0)
  | page :: pages =>
    match statementError services page with
    | some e => ([page], .error e)
    | none   =>
      let (sent, result) := upsertPages pages
      (page :: sent, if pages.isEmpty then .ok page.length else result)

/-- `opensky_positions` with the states that are not denied. -/
def ingestStates (states : List OpenSkyState) : CycleRun :=
  match convertStatesToRows inferRegion polledAt states with
  | .error e => ⟨none, [], .error (.convert e)⟩
  | .ok rows =>
    if rows.isEmpty then ⟨none, [], .ok 0⟩
    else
      match services.writeSnapshot rows with
      | some text => ⟨none, [], .error (.snapshot text)⟩
      | none      =>
        match services.fetchAircraftTypes (rows.map PolledRow.icao24) with
        | .error text => ⟨some rows, [], .error (.database text)⟩
        | .ok _       =>
          let (statements, result) := upsertPages services (chunks upsertPageSize rows)
          ⟨some rows, statements, result⟩

/-- `opensky_positions`, when `/states/all` answers with status 200; a response that cannot be
parsed is skipped. -/
def openskyPositions (denylist : List String) (body : Except String Json)
    (rateLimit : Option String) : CycleRun :=
  match parseResponse py body rateLimit with
  | .error (.parseError _) => ⟨none, [], .ok 0⟩
  | .error (.raised e)     => ⟨none, [], .error (.parse e)⟩
  | .ok response =>
    ingestStates inferRegion polledAt services
      (response.states.filter fun s => !isDenied denylist s.icao24)

end FleetMonitor
