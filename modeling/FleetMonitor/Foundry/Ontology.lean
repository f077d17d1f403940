import FleetMonitor.Foundry.CaseFeed
import FleetMonitor.Foundry.FlightModels
import FleetMonitor.Library.PartialUpdate
import FleetMonitor.Salesforce.Service

/-!
# Ontology objects

The tenant's objects and the Actions that write them. An upsert Action modifies the object its
locator names, or creates it; a property whose parameter is not sent keeps its value. Requests are
posted in chunks, each applied whole or not at all.
-/

namespace FleetMonitor

open Library

/-! ### Actions -/

/-- The value of a parameter, and of the property it writes. -/
inductive PropValue where
  | text (s : String)
  | instant (t : Instant)
  /-- A JSON-encoded object. -/
  | facts (facts : DetectionFacts)
  /-- A JSON-encoded list. -/
  | texts (items : List String)
  | flag (b : Bool)
  | integer (n : ℤ)
  | coordinate (x : ℚ)
  /-- A GeoJSON Point. -/
  | geopoint (lon lat : ℚ)
  /-- A GeoJSON LineString. -/
  | linestring (coordinates : List (ℚ × ℚ))
  /-- A JSON-encoded list of status events. -/
  | events (timeline : List FlightStatusEvent)
  /-- A JSON-encoded trail. -/
  | trail (points : List TrailPoint)
  deriving DecidableEq, Repr

/-- An object: its primary key and the properties that are set. -/
structure OntologyObject where
  pk : String
  props : List (String × PropValue)
  deriving DecidableEq, Repr

/-- `obj.get(key)`. -/
def OntologyObject.get (o : OntologyObject) (key : String) : Option PropValue := o.props.lookup key

/-- The objects of one type. -/
abbrev ObjectSet := Table OntologyObject.pk

/-- One request of an upsert Action: the locator and the other parameters. -/
structure UpsertRequest where
  locator : String
  params : List (String × PropValue)
  deriving DecidableEq, Repr

/-- The properties of an object that a request does not write. -/
def keptProps (req : UpsertRequest) (old : OntologyObject) : List (String × PropValue) :=
  old.props.filter fun prop => prop.1 ∉ req.params.map Prod.fst

/-- The object a request leaves: modified, or created. -/
def modifyOrCreate (req : UpsertRequest) : Option OntologyObject → OntologyObject
  | none     => ⟨req.locator, req.params⟩
  | some old => ⟨req.locator, req.params ++ keptProps req old⟩

def applyUpsert (objects : ObjectSet) (req : UpsertRequest) : ObjectSet :=
  objects.upsert (modifyOrCreate req (objects.lookup req.locator))

/-- `_MAX_BATCH`. -/
def maxBatch : ℕ := 100

/-- `_chunks`. -/
def chunks {α : Type} (size : ℕ) (items : List α) : List (List α) := go items.length items
where
  go : ℕ → List α → List (List α)
    | 0, _         => []
    | _, []        => []
    | fuel + 1, xs => xs.take size :: go fuel (xs.drop size)

/-- `sorted(ids)`. -/
def sortedIds (ids : List String) : List String := ids.insertionSort (· ≤ ·)

/-- `_put_optional`. -/
def putOptional (key : String) (value : Option PropValue) : List (String × PropValue) :=
  (value.map fun v => (key, v)).toList

/-- What happens to a call of an Action. A call that fails may have been applied; it is retried, or
it fails for good. -/
inductive PostOutcome where
  | posted
  | retried (applied : Bool)
  | failed (applied : Bool)
  deriving DecidableEq, Repr

def PostOutcome.applied : PostOutcome → Bool
  | .posted          => true
  | .retried applied => applied
  | .failed applied  => applied

/-- The phase after a call: the next one, the same once more, or none. -/
def PostOutcome.phase {φ : Type} (next same idle : φ) : PostOutcome → φ
  | .posted    => next
  | .retried _ => same
  | .failed _  => idle

variable {objects : ObjectSet} {req : UpsertRequest}

@[simp] lemma mem_sortedIds {ids : List String} {id : String} : id ∈ sortedIds ids ↔ id ∈ ids :=
  (List.perm_insertionSort _ ids).mem_iff

@[simp] lemma modifyOrCreate_pk (old : Option OntologyObject) :
    (modifyOrCreate req old).pk = req.locator := by
  cases old <;> rfl

lemma lookup_applyUpsert (k : String) : (applyUpsert objects req).lookup k =
    if req.locator = k then some (modifyOrCreate req (objects.lookup k)) else objects.lookup k := by
  rw [applyUpsert, Table.lookup_upsert, modifyOrCreate_pk]
  split_ifs with hk
  · rw [hk]
  · rfl

lemma mem_keys_applyUpsert {k : String} :
    k ∈ (applyUpsert objects req).keys ↔ k = req.locator ∨ k ∈ objects.keys := by
  rw [applyUpsert, Table.mem_keys_upsert, modifyOrCreate_pk]

/-- A request that writes every property of the old object leaves what it would create. -/
lemma modifyOrCreate_of_keptProps {old : Option OntologyObject}
    (h : ∀ o ∈ old, keptProps req o = []) : modifyOrCreate req old = ⟨req.locator, req.params⟩ := by
  cases old with
  | none => rfl
  | some o => rw [modifyOrCreate, h o rfl, List.append_nil]

lemma flatten_chunks_go {α : Type} {size : ℕ} (h : 0 < size) {fuel : ℕ} {xs : List α}
    (hfuel : xs.length ≤ fuel) : (chunks.go size fuel xs).flatten = xs := by
  induction fuel generalizing xs with
  | zero =>
    obtain rfl := List.length_eq_zero_iff.mp (Nat.le_zero.mp hfuel)
    rfl
  | succ fuel ih =>
    cases xs with
    | nil => rfl
    | cons x xs =>
      have hdrop : ((x :: xs).drop size).length ≤ fuel := by
        rw [List.length_drop]
        simp only [List.length_cons] at hfuel ⊢
        omega
      rw [chunks.go, List.flatten_cons, ih hdrop, List.take_append_drop]
      simp

lemma delete_nil : Table.delete objects [] = objects := by
  ext1
  simp [Table.delete]

lemma delete_delete (ids more : List String) :
    Table.delete (Table.delete objects ids) more = Table.delete objects (ids ++ more) := by
  ext1
  simp only [Table.delete, List.filter_filter]
  refine List.filter_congr fun o _ => ?_
  simp [Bool.and_comm]

/-- The chunks are the list, in order. -/
lemma flatten_chunks {α : Type} {size : ℕ} (h : 0 < size) (items : List α) :
    (chunks size items).flatten = items :=
  flatten_chunks_go h le_rfl

/-! ### Properties -/

/-- A property of the object with the given key. -/
def ObjectSet.prop (objects : ObjectSet) (id key : String) : Option PropValue :=
  (objects.lookup id).bind fun o => o.get key

variable {id key : String}

lemma modifyOrCreate_get (old : Option OntologyObject) :
    (modifyOrCreate req old).get key =
      (req.params.lookup key).or (old.bind fun o => o.get key) := by
  cases old with
  | none => simp [modifyOrCreate, OntologyObject.get]
  | some o => exact PartialUpdate.lookup_overlay

/-- A request writes what it sends to the object it names. -/
lemma prop_applyUpsert : ObjectSet.prop (applyUpsert objects req) id key =
    if req.locator = id then (req.params.lookup key).or (objects.prop id key)
    else objects.prop id key := by
  rw [ObjectSet.prop, lookup_applyUpsert]
  split_ifs
  · exact modifyOrCreate_get _
  · rfl

/-- No request clears a property. -/
lemma prop_applyUpsert_ne_none (h : objects.prop id key ≠ none) :
    ObjectSet.prop (applyUpsert objects req) id key ≠ none := by
  rw [prop_applyUpsert]
  split_ifs
  · intro hnone
    exact h (Option.or_eq_none_iff.mp hnone).2
  · exact h

lemma lookup_putOptional (name : String) (value : Option PropValue) :
    (putOptional name value).lookup key = if key = name then value else none := by
  cases value with
  | none => simp [putOptional]
  | some v =>
    simp only [putOptional, Option.map_some, Option.toList_some, List.lookup_cons, List.lookup_nil]
    by_cases hkey : key = name
    · simp [hkey]
    · have hne : (key == name) = false := by simpa using hkey
      simp [hkey, hne]

/-! ### Case objects -/

def CaseStatus.text : CaseStatus → String
  | .open         => "open"
  | .acknowledged => "acknowledged"
  | .inProgress   => "in_progress"
  | .resolved     => "resolved"
  | .closed       => "closed"

def Severity.text : Severity → String
  | .low        => "low"
  | .medium     => "medium"
  | .high       => "high"
  | .critical   => "critical"
  | .other text => text

def CustomerRegion.text : CustomerRegion → String
  | .west       => "west"
  | .east       => "east"
  | .all        => "all"
  | .other text => text

/-- The `Case` of the ontology. -/
structure FoundryCase where
  caseId : String
  salesforceId : Option String
  salesforceUrl : Option String
  caseType : CaseType
  status : CaseStatus
  severity : Severity
  customerRegion : CustomerRegion
  siteIcao : String
  flightId : String
  subject : Option String
  summary : Option String
  severityJustification : Option String
  detectionFacts : DetectionFacts
  runbookRefs : List String
  createdAt : Instant
  updatedAt : Instant
  resolvedAt : Option Instant
  deriving DecidableEq, Repr

/-- `case_for_sync_to_case`. -/
def caseForSyncToCase (item : CaseForSync) : FoundryCase where
  caseId := item.caseId
  salesforceId := item.salesforceId
  salesforceUrl := item.salesforceUrl
  caseType := item.caseType
  status := item.status
  severity := item.severity
  customerRegion := item.customerRegion
  siteIcao := item.siteIcao
  flightId := item.flightId
  subject := some item.subject
  summary := item.summary
  severityJustification := item.severityJustification
  detectionFacts := item.detectionFacts
  runbookRefs := item.runbookRefs
  createdAt := item.createdAt
  updatedAt := item.updatedAt
  resolvedAt := item.resolvedAt

/-- `case_params`, with the parameter names `_camel` gives. -/
def caseParams (c : FoundryCase) : UpsertRequest where
  locator := c.caseId
  params :=
    [("updatedAt", .instant c.updatedAt), ("caseType", .text c.caseType.text),
     ("status", .text c.status.text), ("severity", .text c.severity.text),
     ("customerRegion", .text c.customerRegion.text), ("siteIcao", .text c.siteIcao),
     ("flightId", .text c.flightId), ("detectionFacts", .facts c.detectionFacts),
     ("runbookRefs", .texts c.runbookRefs), ("createdAt", .instant c.createdAt)] ++
    putOptional "salesforceId" (c.salesforceId.map .text) ++
    putOptional "salesforceUrl" (c.salesforceUrl.map .text) ++
    putOptional "subject" (c.subject.map .text) ++
    putOptional "summary" (c.summary.map .text) ++
    putOptional "severityJustification" (c.severityJustification.map .text) ++
    putOptional "resolvedAt" (c.resolvedAt.map .instant)

/-- The Case the tenant should show for a row of `app.cases`. -/
def mirroredCase (instanceUrl : Option String) (row : CaseRow) : FoundryCase :=
  caseForSyncToCase (rowToCaseForSync instanceUrl row)

/-- The object a Case is created as. -/
def caseObject (c : FoundryCase) : OntologyObject := ⟨c.caseId, (caseParams c).params⟩

@[simp] lemma caseParams_locator (c : FoundryCase) : (caseParams c).locator = c.caseId := rfl

@[simp] lemma mirroredCase_caseId (url : Option String) (row : CaseRow) :
    (mirroredCase url row).caseId = row.caseId := rfl

@[simp] lemma mirroredCase_updatedAt (url : Option String) (row : CaseRow) :
    (mirroredCase url row).updatedAt = row.updatedAt := rfl

/-- Every Case object carries its stamp. -/
lemma lookup_updatedAt_caseObject (c : FoundryCase) :
    (caseObject c).props.lookup "updatedAt" = some (.instant c.updatedAt) := by
  simp [caseObject, caseParams]

end FleetMonitor
