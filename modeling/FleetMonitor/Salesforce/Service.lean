import FleetMonitor.Salesforce.Org

/-!
# The Salesforce service

`SalesforceService` up to the creation of a Case. What the REST client answers is not in the
repository: an `SfClient` gives the answer of the n-th token request, query and create, so a
statement about every client is one about every behaviour of Salesforce on every call. A failing
call keeps what it has changed in the service (the cached client, the record type id).
-/

namespace FleetMonitor

/-! ### Exceptions and answers -/

/-- The exceptions that meet in the push. -/
inductive PyException where
  /-- `UpstreamUnavailable`: transient. -/
  | upstreamUnavailable (message : String)
  /-- `BadRequest`: permanent. -/
  | badRequest (message : String)
  /-- A raw `SalesforceError`; `errorCodes` lists the `errorCode` of the entries of its content. -/
  | salesforceError (status : Option ℕ) (errorCodes : List String)
  /-- A transport or timeout exception of the HTTP library. -/
  | transport
  /-- pydantic's `ValidationError`. -/
  | validationError
  /-- The database rejects a statement. -/
  | integrityError
  deriving DecidableEq, Repr

/-- `isinstance(exc, AFMException)`. -/
def PyException.isAfm : PyException → Bool
  | .upstreamUnavailable _ => true
  | .badRequest _          => true
  | _                      => false

/-- How a call of the REST client fails. -/
inductive ClientError where
  | salesforceError (status : Option ℕ) (errorCodes : List String)
  | transport
  deriving DecidableEq, Repr

def ClientError.toPy : ClientError → PyException
  | .salesforceError status errorCodes => .salesforceError status errorCodes
  | .transport                         => .transport

/-- The result dict of `Case.create`. -/
structure CreateResult where
  success : Bool
  id : String
  deriving DecidableEq, Repr

/-- The answers of Salesforce, call by call: the token endpoint (`_fetch_client` turns every failure
into `UpstreamUnavailable` with a message), the queries (the Ids of the records) and `Case.create`.
-/
structure SfClient where
  token : ℕ → Except String Unit
  query : ℕ → Except ClientError (List String)
  create : ℕ → Except ClientError CreateResult

/-- The fields of `SalesforceService` that change, with the number of calls made so far. -/
structure SfService where
  hasClient : Bool := false
  caseRecordTypeId : Option String := none
  tokenCalls : ℕ := 0
  queryCalls : ℕ := 0
  createCalls : ℕ := 0
  deriving DecidableEq, Repr

/-- A method of the service: it returns or raises, and leaves the service changed. -/
abbrev SfM (α : Type) := SfService → Except PyException α × SfService

variable {α β : Type}

/-- First `x`, then `f` on what it returned. -/
def SfM.andThen (x : SfM α) (f : α → SfM β) : SfM β := fun s =>
  match x s with
  | (.ok a, s')    => f a s'
  | (.error e, s') => (.error e, s')

/-! ### Sessions -/

variable (sf : SfClient)

/-- `SalesforceService._client`: the cached client, else a token exchange. -/
def client : SfM Unit := fun s =>
  if s.hasClient then (.ok (), s)
  else
    match sf.token s.tokenCalls with
    | .ok _          => (.ok (), { s with hasClient := true, tokenCalls := s.tokenCalls + 1 })
    | .error message =>
      (.error (.upstreamUnavailable message), { s with tokenCalls := s.tokenCalls + 1 })

/-- `SalesforceService._reauth`. -/
def reauth : SfM Unit := fun s =>
  client sf { s with hasClient := false, caseRecordTypeId := none }

/-- `SalesforceService._with_session_retry`: one more try after a 401. -/
def withSessionRetry (fn : SfM α) : SfM α := fun s =>
  match fn s with
  | (.error (.salesforceError (some 401) _), s') => (reauth sf).andThen (fun _ => fn) s'
  | r => r

/-- `self._client().query(soql)`. -/
def queryCall : SfM (List String) :=
  (client sf).andThen fun _ s =>
    ((sf.query s.queryCalls).mapError ClientError.toPy, { s with queryCalls := s.queryCalls + 1 })

/-- `self._client().Case.create(sf_fields)`. -/
def createCall : SfM CreateResult :=
  (client sf).andThen fun _ s =>
    ((sf.create s.createCalls).mapError ClientError.toPy, { s with createCalls := s.createCalls + 1 })

/-- `SalesforceService._case_record_type`. -/
def caseRecordType : SfM String := fun s =>
  match s.caseRecordTypeId with
  | some id => (.ok id, s)
  | none =>
    match withSessionRetry sf (queryCall sf) s with
    | (.ok (id :: _), s') => (.ok id, { s' with caseRecordTypeId := some id })
    | (.ok [], s')        => (.error (.upstreamUnavailable "Case RecordType not found in org"), s')
    | (.error e, s')      => (.error e, s')

/-! ### Fields -/

/-- `Region`. -/
inductive Region where
  | west
  | east
  | all
  deriving DecidableEq, Repr

/-- `REGION_TO_SF`. -/
def regionToSf : Region → String
  | .west => "West"
  | .east => "East"
  | .all  => "All"

def SfStatus.text : SfStatus → String
  | .new        => "New"
  | .working    => "Working"
  | .escalated  => "Escalated"
  | .closed     => "Closed"
  | .other text => text

def SfPriority.text : SfPriority → String
  | .low        => "Low"
  | .medium     => "Medium"
  | .high       => "High"
  | .other text => text

def CaseType.text : CaseType → String
  | .lostSignal    => "lost_signal"
  | .diversion     => "diversion"
  | .excessiveHold => "excessive_hold"
  | .weatherImpact => "weather_impact"
  | .goAround      => "go_around"
  | .delay         => "delay"
  | .other text    => text

/-- `CaseCreateInput`. -/
structure CaseCreateInput where
  externalId : String
  subject : String
  status : SfStatus := .new
  priority : Option SfPriority := none
  flightId : Option String := none
  siteIcao : Option String := none
  customerRegion : Option Region := none
  caseType : Option CaseType := none
  detectionFacts : DetectionFacts := []
  severityJustification : Option String := none
  runbookRefs : List String := []
  internalUrl : Option String := none
  deriving DecidableEq, Repr

/-- A value sent to Salesforce: a text, or the JSON text of an object. -/
inductive SfValue where
  | text (value : String)
  | json (value : DetectionFacts)
  deriving DecidableEq, Repr

/-- The map `to_sf_fields` builds: the fields whose value is not None. A region outside of
`REGION_TO_SF` cannot occur, `CaseCreateInput` has no value for it. -/
def sfFields (payload : CaseCreateInput) (recordTypeId : String) : List (String × SfValue) :=
  [("Subject", some (SfValue.text payload.subject)),
   ("Status", some (.text payload.status.text)),
   ("RecordTypeId", some (.text recordTypeId)),
   ("AFM_External_Id__c", some (.text payload.externalId)),
   ("Priority", payload.priority.map fun p => .text p.text),
   ("AFM_Flight_Id__c", payload.flightId.map .text),
   ("AFM_Site_Icao__c", payload.siteIcao.map .text),
   ("AFM_Customer_Region__c", payload.customerRegion.map fun r => .text (regionToSf r)),
   ("AFM_Case_Type__c", payload.caseType.map fun t => .text t.text),
   ("AFM_Detection_Facts__c",
    if payload.detectionFacts = [] then none else some (.json payload.detectionFacts)),
   ("AFM_Severity_Justification__c", payload.severityJustification.map .text),
   ("AFM_Runbook_Refs__c",
    if payload.runbookRefs = [] then none else some (.text (",".intercalate payload.runbookRefs))),
   ("AFM_Internal_Url__c", payload.internalUrl.map .text)].filterMap
    fun field => field.2.map fun v => (field.1, v)

/-- `SalesforceService.to_sf_fields`. -/
def toSfFields (payload : CaseCreateInput) : SfM (List (String × SfValue)) :=
  (caseRecordType sf).andThen fun id s => (.ok (sfFields payload id), s)

/-! ### Creating a Case -/

/-- `SalesforceService._translate_sf_error`. -/
def translateSfError (status : Option ℕ) (message : String) : PyException :=
  match status with
  | some 401 => .upstreamUnavailable message
  | some n =>
    if 400 ≤ n ∧ n < 500 then .badRequest message else .upstreamUnavailable message
  | none => .upstreamUnavailable message

/-- `SalesforceService._is_duplicate_external_id`. -/
def isDuplicateExternalId (errorCodes : List String) : Bool := errorCodes.contains "DUPLICATE_VALUE"

/-- `SalesforceService._find_case_id_by_external_id_sync`. -/
def findCaseIdByExternalId : SfM (Option String) :=
  (withSessionRetry sf (queryCall sf)).andThen fun records s => (.ok records.head?, s)

/-- `SalesforceCaseRef`. -/
structure SalesforceCaseRef where
  salesforceId : String
  externalId : String
  deriving DecidableEq, Repr

/-- `SalesforceService._create_case_sync`, which `create_case` runs in a thread. -/
def createCase (payload : CaseCreateInput) : SfM SalesforceCaseRef :=
  (toSfFields sf payload).andThen fun _ s =>
    match withSessionRetry sf (createCall sf) s with
    | (.error (.salesforceError status errorCodes), s') =>
      if isDuplicateExternalId errorCodes then
        match findCaseIdByExternalId sf s' with
        | (.ok (some existing), s'') => (.ok ⟨existing, payload.externalId⟩, s'')
        | (.ok none, s'') =>
          (.error (translateSfError status "Salesforce Case create failed"), s'')
        | (.error e, s'') => (.error e, s'')
      else (.error (translateSfError status "Salesforce Case create failed"), s')
    | (.error e, s') => (.error e, s')
    | (.ok result, s') =>
      if result.success then (.ok ⟨result.id, payload.externalId⟩, s')
      else (.error (.badRequest "Salesforce Case create failed"), s')

variable {sf}

/-- A 401, a 5xx and a failure without a status are transient; every other 4xx is permanent. -/
theorem translateSfError_permanent_iff (status : Option ℕ) (message : String) :
    translateSfError status message = .badRequest message ↔
      ∃ n, status = some n ∧ 400 ≤ n ∧ n < 500 ∧ n ≠ 401 := by
  unfold translateSfError
  split
  next => simp
  next n hne =>
    by_cases hn : 400 ≤ n ∧ n < 500
    · have : n ≠ 401 := fun h => hne (h ▸ rfl)
      simp [hn, this]
    · rw [if_neg hn]
      constructor
      · intro h
        simp at h
      · rintro ⟨m, hm, h1, h2, -⟩
        obtain rfl := Option.some.inj hm
        exact absurd ⟨h1, h2⟩ hn
  next => simp

lemma translateSfError_cases (status : Option ℕ) (message : String) :
    translateSfError status message = .badRequest message ∨
      translateSfError status message = .upstreamUnavailable message := by
  unfold translateSfError
  split
  next => simp
  next => split_ifs <;> simp
  next => simp

end FleetMonitor
