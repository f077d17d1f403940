import FleetMonitor.Foundry.CaseFeed
import FleetMonitor.Foundry.FlightLifecycle

/-!
# State in materialization metadata

Two assets keep their state in the metadata of their own materializations: `foundry_positions_sync`
its cursor and the two maps of the flight detector, `foundry_cases_sync` its cursor. A tick reads
the latest materialization and writes a new one. A skipped tick writes one too, and it holds no
state.
-/

namespace FleetMonitor

/-! ### Metadata -/

/-- A value in a JSON object. -/
inductive JsonValue where
  | bool (b : Bool)
  | string (s : String)
  deriving DecidableEq, Repr

/-- A text in the metadata: `isoformat()` of an instant, `json.dumps` of a dict, or another text,
which neither `fromisoformat` nor `json.loads` reads. -/
inductive MetadataText where
  | isoformat (t : Instant)
  | json (fields : Dict JsonValue)
  | plain (s : String)

/-- `MetadataValue`. -/
inductive MetadataValue where
  | int (n : ℕ)
  | text (t : MetadataText)

/-- The metadata of one materialization. -/
abbrev Metadata := List (String × MetadataValue)

/-- `_CURSOR_KEY`. -/
def cursorKey : String := "cursor"

/-- `_DETECTOR_STATE_KEY`. -/
def detectorStateKey : String := "detector_state"

/-- `_OPEN_FLIGHT_STATE_KEY`. -/
def openFlightStateKey : String := "open_flight_state"

/-- The entry of the latest materialization under a key; a history has its newest element first. -/
def latestEntry (history : List Metadata) (key : String) : Option MetadataValue :=
  history.head?.bind fun metadata => metadata.lookup key

/-- `_prior_cursor`. -/
def priorCursor (history : List Metadata) : Option Instant :=
  match latestEntry history cursorKey with
  | some (.text (.isoformat t)) => some t
  | _                           => none

/-- Python's `bool(v)`. -/
def JsonValue.truth : JsonValue → Bool
  | .bool b   => b
  | .string s => s ≠ ""

/-- Python's `str(v)`. -/
def JsonValue.str : JsonValue → String
  | .bool b   => if b then "True" else "False"
  | .string s => s

/-- `_prior_detector_state`. -/
def priorDetectorState (history : List Metadata) : Option (Dict Bool) :=
  match latestEntry history detectorStateKey with
  | some (.text (.json fields)) => some fun k => (fields k).map JsonValue.truth
  | _                           => none

/-- `_prior_open_flight_state`. -/
def priorOpenFlightState (history : List Metadata) : Option (Dict String) :=
  match latestEntry history openFlightStateKey with
  | some (.text (.json fields)) => some fun k => (fields k).map JsonValue.str
  | _                           => none

/-- `_skipped`. -/
def skipped (reason : String) : Metadata :=
  [("attempted", .int 0), ("succeeded", .int 0), ("failed", .int 0),
   ("skip_reason", .text (.plain reason))]

/-- An entry that is written when there is a value for it. -/
def optionalEntry (key : String) (value : Option MetadataText) : Metadata :=
  (value.map fun v => (key, .text v)).toList

/-- `_result_metadata`. -/
def resultMetadata (result : SyncResult) : Metadata :=
  [("attempted", .int result.attempted), ("succeeded", .int result.succeeded),
   ("failed", .int result.failed), ("takeoffs_detected", .int result.takeoffsDetected),
   ("flights_written", .int result.flightsWritten),
   ("landings_detected", .int result.landingsDetected),
   ("flights_landed", .int result.flightsLanded)] ++
  optionalEntry cursorKey (result.cursor.map .isoformat) ++
  optionalEntry detectorStateKey
    (result.detectorState.map fun d => .json fun k => (d k).map .bool) ++
  optionalEntry openFlightStateKey
    (result.openFlightState.map fun d => .json fun k => (d k).map .string)

/-- `CaseSyncResult`. -/
structure CaseSyncResult where
  attempted : ℕ
  succeeded : ℕ
  failed : ℕ := 0
  cursor : Option Instant := none
  deriving DecidableEq, Repr

/-- `_cases_metadata`. -/
def casesMetadata (result : CaseSyncResult) : Metadata :=
  [("attempted", .int result.attempted), ("succeeded", .int result.succeeded),
   ("failed", .int result.failed)] ++
  optionalEntry cursorKey (result.cursor.map .isoformat)

/-! ### What is written is read back -/

variable {history : List Metadata}

@[simp] lemma priorCursor_nil : priorCursor [] = none := rfl

@[simp] lemma priorDetectorState_nil : priorDetectorState [] = none := rfl

@[simp] lemma priorOpenFlightState_nil : priorOpenFlightState [] = none := rfl

@[simp] lemma priorCursor_resultMetadata (result : SyncResult) :
    priorCursor (resultMetadata result :: history) = result.cursor := by
  cases hc : result.cursor <;> cases hd : result.detectorState <;>
    cases ho : result.openFlightState <;>
    simp [priorCursor, latestEntry, resultMetadata, optionalEntry, List.lookup_cons,
      List.lookup_nil, cursorKey, detectorStateKey, openFlightStateKey, hc, hd, ho]

@[simp] lemma priorDetectorState_resultMetadata (result : SyncResult) :
    priorDetectorState (resultMetadata result :: history) = result.detectorState := by
  cases hc : result.cursor <;> cases hd : result.detectorState <;>
    cases ho : result.openFlightState <;>
    simp [priorDetectorState, latestEntry, resultMetadata, optionalEntry, List.lookup_cons,
      List.lookup_nil, cursorKey, detectorStateKey, openFlightStateKey, JsonValue.truth,
      Function.comp_def, hc, hd, ho]

@[simp] lemma priorOpenFlightState_resultMetadata (result : SyncResult) :
    priorOpenFlightState (resultMetadata result :: history) = result.openFlightState := by
  cases hc : result.cursor <;> cases hd : result.detectorState <;>
    cases ho : result.openFlightState <;>
    simp [priorOpenFlightState, latestEntry, resultMetadata, optionalEntry, List.lookup_cons,
      List.lookup_nil, cursorKey, detectorStateKey, openFlightStateKey, JsonValue.str,
      Function.comp_def, hc, hd, ho]

@[simp] lemma priorCursor_casesMetadata (result : CaseSyncResult) :
    priorCursor (casesMetadata result :: history) = result.cursor := by
  cases hc : result.cursor <;>
    simp [priorCursor, latestEntry, casesMetadata, optionalEntry, List.lookup_cons,
      List.lookup_nil, cursorKey, hc]

@[simp] lemma priorCursor_skipped (reason : String) :
    priorCursor (skipped reason :: history) = none := by
  simp [priorCursor, latestEntry, skipped, List.lookup_cons, List.lookup_nil, cursorKey]

@[simp] lemma priorDetectorState_skipped (reason : String) :
    priorDetectorState (skipped reason :: history) = none := by
  simp [priorDetectorState, latestEntry, skipped, List.lookup_cons, List.lookup_nil,
    detectorStateKey]

@[simp] lemma priorOpenFlightState_skipped (reason : String) :
    priorOpenFlightState (skipped reason :: history) = none := by
  simp [priorOpenFlightState, latestEntry, skipped, List.lookup_cons, List.lookup_nil,
    openFlightStateKey]

end FleetMonitor
