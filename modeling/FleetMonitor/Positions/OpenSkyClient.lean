import FleetMonitor.Library.Histories
import FleetMonitor.Positions.Ingestion

/-!
# The client of the positions API

`OpenSkyResource` asks the API for state vectors and for the flights of one aircraft. It exchanges
its credentials for a bearer token, keeps the token until shortly before it expires, repeats a
request once after a network error or a server error, and fetches a new token once when a request is
rejected.
-/

namespace FleetMonitor

open Library

/-! ### Exchanges -/

/-- A response; a body that is no JSON is given by the text of its error. -/
structure HttpResponse where
  status : ℕ
  text : String
  json : Except String Json
  rateLimitRemaining : Option String

/-- How a call of `requests` ends: with a `RequestException`, given by its text, or with a response.
-/
inductive HttpAnswer where
  | networkError (text : String)
  | response (r : HttpResponse)

/-- The request of a method of the client: its path and its parameters. -/
inductive ApiRequest where
  /-- `/states/all` -/
  | statesAll (lamin lomin lamax lomax : ℚ)
  /-- `/flights/aircraft` -/
  | flightsAircraft (icao24 : String) (first last : ℤ)
  deriving DecidableEq, Repr

/-- One call of `requests`, with the time that `_get_token` had read before it. -/
inductive Exchange where
  /-- The credentials are exchanged for a token. -/
  | post (now : ℚ) (answer : HttpAnswer)
  /-- A request is sent with a token. -/
  | get (now : ℚ) (request : ApiRequest) (token : String) (answer : HttpAnswer)

/-- The clock and the two hosts; what they answer may depend on all exchanges so far. -/
structure OpenSkyHosts where
  time : List Exchange → ℚ
  token : List Exchange → HttpAnswer
  api : List Exchange → ApiRequest → String → HttpAnswer

/-- The private attributes of the resource, and the exchanges it has made. -/
structure OpenSkyClient where
  cachedToken : Option String := none
  cachedTokenExpiresAt : FloatValue := .finite 0
  exchanges : List Exchange := []

/-- What a method raises: one of the `OpenSkyError`s, or an error that is none. -/
inductive OpenSkyError where
  | auth (text : String)
  | rateLimited (text : String)
  | server (text : String)
  | parse (text : String)
  | unexpected (text : String)
  | raised (e : StateError)
  /-- The payload of the token endpoint has no `get`. -/
  | attributeError
  deriving DecidableEq, Repr

/-- What is caught as an `OpenSkyError`. -/
def OpenSkyError.isCaught : OpenSkyError → Bool
  | .raised _       => false
  | .attributeError => false
  | _               => true

/-- `text[:n]`. -/
def textHead (n : ℕ) (text : String) : String := String.ofList (text.toList.take n)

/-! ### The token -/

/-- `TOKEN_REFRESH_LEEWAY_SECONDS`. -/
def tokenRefreshLeewaySeconds : ℚ := 60

/-- `max(0.0, expires_in - TOKEN_REFRESH_LEEWAY_SECONDS)`. -/
def tokenLifetime : FloatValue → FloatValue
  | .finite x       =>
    let remaining := double (x - tokenRefreshLeewaySeconds)
    .finite (if 0 < remaining then remaining else 0)
  | .infinite false => .infinite false
  | _               => .finite 0

/-- `now + lifetime`. -/
def tokenExpiry (now : ℚ) (expiresIn : FloatValue) : FloatValue :=
  match tokenLifetime expiresIn with
  | .finite x =>
    if 2 ^ 1024 - 2 ^ 970 ≤ |now + x| then .infinite (now + x < 0) else .finite (double (now + x))
  | x         => x

variable (py : TextFunctions)

/-- The token and its lifetime in the payload of the token endpoint. -/
def parseGrant (payload : Json) : Except OpenSkyError (String × FloatValue) :=
  match payload with
  | .obj fields =>
    match strOrNone (JsonObject.get fields "access_token") with
    | none       => .error (.parse ("Token endpoint missing access_token: " ++ py.repr payload))
    | some token =>
      match (JsonObject.get fields "expires_in").number? with
      | some n =>
        if n.value.le 0 then
          .error (.parse ("Token endpoint missing/invalid expires_in: " ++ py.repr payload))
        else ((toFloat n).mapError (.raised ∘ .conversion)).map (token, ·)
      | none   => .error (.parse ("Token endpoint missing/invalid expires_in: " ++ py.repr payload))
  | _           => .error .attributeError

/-- What `_fetch_token` makes of the answer. -/
def tokenOutcome (answer : HttpAnswer) : Except OpenSkyError (String × FloatValue) :=
  match answer with
  | .networkError text => .error (.server ("Token endpoint network error: " ++ text))
  | .response r =>
    if r.status = 400 ∨ r.status = 401 ∨ r.status = 403 then
      .error (.auth ("OpenSky token endpoint rejected credentials (HTTP " ++ toString r.status ++
        "). Check OPENSKY_CLIENT_ID and OPENSKY_CLIENT_SECRET. Body: " ++ textHead 300 r.text))
    else if r.status ≠ 200 then
      .error (.server ("Token endpoint returned HTTP " ++ toString r.status ++ ": " ++
        textHead 300 r.text))
    else
      match r.json with
      | .error text => .error (.parse ("Token endpoint returned non-JSON: " ++ text))
      | .ok payload => parseGrant py payload

variable (hosts : OpenSkyHosts)

namespace OpenSkyClient

def record (client : OpenSkyClient) (exchange : Exchange) : OpenSkyClient :=
  { client with exchanges := client.exchanges ++ [exchange] }

/-- Cache a token until it expires. -/
def cacheToken (client : OpenSkyClient) (token : String) (expiresAt : FloatValue) : OpenSkyClient :=
  { client with cachedToken := some token, cachedTokenExpiresAt := expiresAt }

/-- Drop the cached token. -/
def clearToken (client : OpenSkyClient) : OpenSkyClient :=
  { client with cachedToken := none, cachedTokenExpiresAt := .finite 0 }

/-- The cached token, unless it has run out. -/
def liveToken (client : OpenSkyClient) (now : ℚ) : Option String :=
  client.cachedToken.filter fun _ => client.cachedTokenExpiresAt.gt now

/-- `_get_token`, with the time it reads. -/
def getToken (client : OpenSkyClient) (now : ℚ) : Except OpenSkyError String × OpenSkyClient :=
  match client.liveToken now with
  | some token => (.ok token, client)
  | none       =>
    let answer := hosts.token client.exchanges
    let asked := client.record (.post now answer)
    match tokenOutcome py answer with
    | .error e               => (.error e, asked)
    | .ok (token, expiresIn) => (.ok token, asked.cacheToken token (tokenExpiry now expiresIn))

end OpenSkyClient

/-! ### Requests -/

/-- The request is worth another attempt: there was a network error or a server error. -/
def HttpAnswer.isRetried : HttpAnswer → Bool
  | .networkError _ => true
  | .response r     => 500 ≤ r.status && r.status < 600

/-- What `_get_with_retry` makes of an answer that it does not retry. -/
def apiOutcome (notFoundOk : Bool) (answer : HttpAnswer) : Except OpenSkyError HttpResponse :=
  match answer with
  | .networkError text => .error (.server ("Network error after retry: " ++ text))
  | .response r =>
    if r.status = 401 ∨ r.status = 403 then
      .error (.auth ("OpenSky rejected token (HTTP " ++ toString r.status ++
        "). Check OPENSKY_CLIENT_ID and OPENSKY_CLIENT_SECRET."))
    else if r.status = 429 then
      .error (.rateLimited "OpenSky rate limit hit (HTTP 429); skipping cycle.")
    else if 500 ≤ r.status ∧ r.status < 600 then
      .error (.server ("OpenSky HTTP " ++ toString r.status ++ " after retry."))
    else if r.status = 200 ∨ (r.status = 404 ∧ notFoundOk) then .ok r
    else .error (.unexpected ("Unexpected HTTP " ++ toString r.status ++ ": " ++ textHead 200 r.text))

namespace OpenSkyClient

variable (request : ApiRequest) (notFoundOk : Bool)

/-- The loop over the attempts, with that many left after this one. -/
def send (now : ℚ) (token : String) :
    ℕ → OpenSkyClient → Except OpenSkyError HttpResponse × OpenSkyClient
  | 0, client        =>
    let answer := hosts.api client.exchanges request token
    (apiOutcome notFoundOk answer, client.record (.get now request token answer))
  | left + 1, client =>
    let answer := hosts.api client.exchanges request token
    let sent := client.record (.get now request token answer)
    if answer.isRetried then send now token left sent else (apiOutcome notFoundOk answer, sent)

/-- `_get_with_retry`. -/
def getWithRetry (client : OpenSkyClient) : Except OpenSkyError HttpResponse × OpenSkyClient :=
  let now := hosts.time client.exchanges
  match client.getToken py hosts now with
  | (.error e, client)  => (.error e, client)
  | (.ok token, client) => client.send hosts request notFoundOk now token 1

/-- The part that the two methods share: a request that is rejected is made again with a new token.
-/
def fetch (client : OpenSkyClient) : Except OpenSkyError HttpResponse × OpenSkyClient :=
  match client.getWithRetry py hosts request notFoundOk with
  | (.error (.auth _), client) => client.clearToken.getWithRetry py hosts request notFoundOk
  | outcome                    => outcome

end OpenSkyClient

/-! ### Flights -/

/-- `OpenSkyFlight`. -/
structure OpenSkyFlight where
  icao24 : String
  firstSeen : ℤ
  lastSeen : ℤ
  callsign : Option String
  estDepartureAirport : Option String
  estArrivalAirport : Option String
  departureAirportCandidatesCount : ℤ
  arrivalAirportCandidatesCount : ℤ
  deriving DecidableEq, Repr

/-- `int(value) if isinstance(value, int | float) else 0`. -/
def countOf (value : Json) : Except OpenSkyError ℤ :=
  match value.number? with
  | some n => (truncate n).mapError (.raised ∘ .conversion)
  | none   => .ok 0

/-- The callsign of a flight, trimmed; blank is none. -/
def flightCallsign (value : Json) : Option String :=
  match value with
  | .str s => stripOrNone s
  | _      => none

/-- One row of `_parse_flights_response`; a row without an address or without times is skipped. -/
def parseFlightRow (row : JsonObject) : Except OpenSkyError (Option OpenSkyFlight) :=
  match strOrNone (row.get "icao24"), (row.get "firstSeen").number?, (row.get "lastSeen").number? with
  | some icao24, some firstSeen, some lastSeen => do
    let firstSeen ← (truncate firstSeen).mapError (.raised ∘ .conversion)
    let lastSeen ← (truncate lastSeen).mapError (.raised ∘ .conversion)
    let departures ← countOf (row.get "departureAirportCandidatesCount")
    let arrivals ← countOf (row.get "arrivalAirportCandidatesCount")
    return some {
      icao24 := py.lower icao24
      firstSeen
      lastSeen
      callsign := flightCallsign (row.get "callsign")
      estDepartureAirport := strOrNone (row.get "estDepartureAirport")
      estArrivalAirport := strOrNone (row.get "estArrivalAirport")
      departureAirportCandidatesCount := departures
      arrivalAirportCandidatesCount := arrivals }
  | _, _, _ => .ok none

/-- `_parse_flights_response`. -/
def parseFlightsResponse (body : Except String Json) : Except OpenSkyError (List OpenSkyFlight) :=
  match body with
  | .error text      => .error (.parse ("Non-JSON flights response: " ++ text))
  | .ok (.arr items) => ((Json.objects items).mapM (parseFlightRow py)).map List.reduceOption
  | .ok value        => .error (.parse ("Flights payload not a list: " ++ typeName value))

/-! ### The methods -/

/-- The contiguous US. -/
def usBbox : ApiRequest := .statesAll 24 (-125) 49 (-66)

def OpenSkyError.ofParseFailure : ParseFailure → OpenSkyError
  | .parseError text => .parse text
  | .raised e        => .raised e

namespace OpenSkyClient

/-- `fetch_states`. -/
def fetchStates (client : OpenSkyClient) : Except OpenSkyError OpenSkyResponse × OpenSkyClient :=
  match client.fetch py hosts usBbox false with
  | (.error e, client)     => (.error e, client)
  | (.ok response, client) =>
    ((parseResponse py response.json response.rateLimitRemaining).mapError .ofParseFailure, client)

/-- `fetch_flight_history`. -/
def fetchFlightHistory (icao24 : String) (first last : ℤ) (client : OpenSkyClient) :
    Except OpenSkyError (List OpenSkyFlight) × OpenSkyClient :=
  match client.fetch py hosts (.flightsAircraft (py.lower icao24) first last) true with
  | (.error e, client)     => (.error e, client)
  | (.ok response, client) =>
    (if response.status = 404 then .ok [] else parseFlightsResponse py response.json, client)

end OpenSkyClient

end FleetMonitor
