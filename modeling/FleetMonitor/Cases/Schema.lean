import FleetMonitor.Library.Table
import Mathlib.Data.List.DropRight
import Mathlib.Data.Rat.Defs

/-!
# The case table

The rows of `app.cases` with the columns the sync jobs read and write. The text columns that carry
a fixed vocabulary are enumerations; where the code has a fallback for a text outside of it, the
enumeration has a case for any other text.
-/

namespace FleetMonitor

open Library

/-- A point in time: microseconds since the epoch, the resolution of `timestamptz` and `datetime`.
-/
abbrev Instant := ℤ

/-- `cases.status`. -/
inductive CaseStatus where
  | «open»
  | acknowledged
  | inProgress
  | resolved
  | closed
  deriving DecidableEq, Repr

/-- `cases.severity`. -/
inductive Severity where
  | low
  | medium
  | high
  | critical
  | other (text : String)
  deriving DecidableEq, Repr

/-- `cases.customer_region`. -/
inductive CustomerRegion where
  | west
  | east
  | all
  | other (text : String)
  deriving DecidableEq, Repr

/-- `cases.case_type`: the rule that detected the case. -/
inductive CaseType where
  | lostSignal
  | diversion
  | excessiveHold
  | weatherImpact
  | goAround
  | delay
  | other (text : String)
  deriving DecidableEq, Repr

/-- `cases.sf_sync_status`. -/
inductive SfSyncStatus where
  | pending
  | synced
  | failed
  | skipped
  deriving DecidableEq, Repr

/-- A JSON value a rule puts into its facts. -/
inductive FactValue where
  | text (s : String)
  | number (x : ℚ)
  | null
  deriving DecidableEq, Repr

/-- The facts a rule attaches to a case: a JSON object. -/
abbrev DetectionFacts := List (String × FactValue)

/-- One row of `app.cases`. -/
@[ext] structure CaseRow where
  caseId : String
  salesforceId : Option String := none
  flightId : String
  siteIcao : String
  customerRegion : CustomerRegion
  caseType : CaseType
  status : CaseStatus := .open
  severity : Severity := .low
  summary : Option String := none
  severityJustification : Option String := none
  detectionFacts : DetectionFacts := []
  runbookRefs : List String := []
  createdAt : Instant
  updatedAt : Instant
  resolvedAt : Option Instant := none
  sfSyncStatus : SfSyncStatus := .pending
  sfSyncAttempts : ℕ := 0
  sfSyncLastError : Option String := none
  deriving DecidableEq, Repr

/-- `app.cases`: `case_id` is the primary key. -/
abbrev CaseTable := Table CaseRow.caseId

/-- A local-only case of rule `lost_signal`, written last at `updatedAt`; the runs on concrete
states start from rows of this kind. -/
def sampleCase (caseId : String) (updatedAt : Instant) : CaseRow where
  caseId := caseId
  flightId := "a1b2c3-1767225600"
  siteIcao := "KJFK"
  customerRegion := .east
  caseType := .lostSignal
  sfSyncStatus := .skipped
  createdAt := 0
  updatedAt := updatedAt

/-- Python's `facts.get(key) or fallback`: an absent, null or empty text gives the fallback. No rule
puts a number under a key that is read so. -/
def factOr (facts : DetectionFacts) (key fallback : String) : String :=
  match facts.lookup key with
  | some (.text v)   => if v = "" then fallback else v
  | some (.number x) => if x = 0 then fallback else toString x
  | some .null       => fallback
  | none             => fallback

/-- `_format_subject`: the human-readable subject of a case. -/
def formatSubject (caseType : CaseType) (siteIcao : String) (facts : DetectionFacts) : String :=
  let callsign := factOr facts "callsign" "unknown"
  let site := if siteIcao = "" then "unknown site" else siteIcao
  match caseType with
  | .lostSignal => "Lost signal during cruise — " ++ callsign ++ " near " ++ site
  | .diversion =>
    let origin := factOr facts "origin" "?"
    let alternate := factOr facts "alternate" "?"
    let was := factOr facts "expected_destination" "?"
    "Diversion — " ++ callsign ++ " " ++ origin ++ "→" ++ alternate ++ " (was " ++ was ++ ")"
  | .excessiveHold => "Excessive holding pattern — " ++ callsign ++ " near " ++ site
  | .weatherImpact =>
    let category := factOr facts "flight_category" "unknown"
    "Weather impact — " ++ site ++ " (" ++ category ++ ")"
  | .goAround => "Go-around — " ++ callsign ++ " at " ++ site
  | .delay =>
    let origin := factOr facts "origin" "?"
    let destination := factOr facts "destination" "?"
    "Delayed flight — " ++ callsign ++ " " ++ origin ++ "→" ++ destination
  | .other text => text ++ " — " ++ callsign ++ " near " ++ site

/-- `case_lightning_url`: the Lightning deeplink, or `None` when either part is unset or empty. -/
def caseLightningUrl (instanceUrl salesforceId : Option String) : Option String :=
  match instanceUrl, salesforceId with
  | some url, some id =>
    if url = "" ∨ id = "" then none
    else some (String.ofList (url.toList.rdropWhile (· = '/')) ++ "/lightning/r/Case/" ++ id ++ "/view")
  | _, _ => none

/-! ### The detector's insert -/

/-- `Anomaly`: what a rule reports. -/
structure Anomaly where
  rule : CaseType
  icao24 : Option String
  siteIcao : Option String
  customerRegion : CustomerRegion
  severityHint : Option Severity
  detectionFacts : DetectionFacts
  deriving DecidableEq, Repr

/-- Python's `value or fallback` for an optional text. -/
def orText (value : Option String) (fallback : String) : String :=
  match value with
  | some v => if v = "" then fallback else v
  | none   => fallback

/-- `SF_PUSH_SEVERITIES`. -/
def sfPushSeverities : List Severity := [.high]

/-- The row `_insert_case` writes in a transaction of time `now`. -/
def insertedRow (now : Instant) (anomaly : Anomaly) (caseId : String) (runbookRefs : List String) :
    CaseRow :=
  let severity := anomaly.severityHint.getD .low
  { caseId
    flightId := orText anomaly.icao24 ("WX-" ++ orText anomaly.siteIcao "UNKN")
    siteIcao := orText anomaly.siteIcao ""
    customerRegion := anomaly.customerRegion
    caseType := anomaly.rule
    severity
    detectionFacts := anomaly.detectionFacts
    runbookRefs
    createdAt := now
    updatedAt := now
    sfSyncStatus := if severity ∈ sfPushSeverities then .pending else .skipped }

end FleetMonitor
