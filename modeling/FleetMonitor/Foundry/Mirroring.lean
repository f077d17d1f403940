import FleetMonitor.Foundry.LivePositions
import FleetMonitor.Library.Runs

/-!
# Mirrored rows

The positions sync mirrors live positions as Aircraft, the case sync mirrors `app.cases` as Cases.
Both send a row's fields that have a value and leave out the others, so a field that has had a value
before keeps it when the row has none any more.
-/

namespace FleetMonitor

open Library Library.PartialUpdate

/-! ### Mirrored rows -/

/-- A row the tenant mirrors: the key of its object, and its fields, of which some have no value. -/
structure MirroredRow where
  key : String
  fields : List (String × Option PropValue)
  nodup : (fields.map Prod.fst).Nodup

/-- The request that sends the fields with a value. -/
def MirroredRow.request (row : MirroredRow) : UpsertRequest := ⟨row.key, sentFields row.fields⟩

@[simp] lemma MirroredRow.request_locator (row : MirroredRow) : row.request.locator = row.key := rfl

/-- The fields of an Aircraft. -/
def Aircraft.row (a : Aircraft) : MirroredRow where
  key := a.icao24
  fields :=
    [("lat", some (.coordinate a.lat)), ("lon", some (.coordinate a.lon)),
     ("position", some (.geopoint a.lon a.lat)), ("onGround", some (.flag a.onGround)),
     ("lastSeenAt", some (.instant a.lastSeenAt)), ("staleness", some (.text a.staleness.text)),
     ("callsign", a.callsign.map .text), ("altitudeFt", a.altitudeFt.map .integer),
     ("speedKt", a.speedKt.map .integer), ("headingDeg", a.headingDeg.map .integer),
     ("verticalRateFpm", a.verticalRateFpm.map .integer),
     ("customerRegion", a.customerRegion.map fun r => .text r.text)]
  nodup := by simp

/-- The fields of a Case. -/
def FoundryCase.row (c : FoundryCase) : MirroredRow where
  key := c.caseId
  fields :=
    [("updatedAt", some (.instant c.updatedAt)), ("caseType", some (.text c.caseType.text)),
     ("status", some (.text c.status.text)), ("severity", some (.text c.severity.text)),
     ("customerRegion", some (.text c.customerRegion.text)), ("siteIcao", some (.text c.siteIcao)),
     ("flightId", some (.text c.flightId)), ("detectionFacts", some (.facts c.detectionFacts)),
     ("runbookRefs", some (.texts c.runbookRefs)), ("createdAt", some (.instant c.createdAt)),
     ("salesforceId", c.salesforceId.map .text), ("salesforceUrl", c.salesforceUrl.map .text),
     ("subject", c.subject.map .text), ("summary", c.summary.map .text),
     ("severityJustification", c.severityJustification.map .text),
     ("resolvedAt", c.resolvedAt.map .instant)]
  nodup := by simp

lemma sentFields_cons (name : String) (value : Option PropValue)
    (fields : List (String × Option PropValue)) :
    sentFields ((name, value) :: fields) = putOptional name value ++ sentFields fields := by
  cases value <;> rfl

@[simp] lemma sentFields_nil : sentFields ([] : List (String × Option PropValue)) = [] := rfl

@[simp] lemma putOptional_some (name : String) (v : PropValue) :
    putOptional name (some v) = [(name, v)] := rfl

/-- The serializer of an Aircraft sends the fields with a value. -/
lemma aircraftParams_eq (a : Aircraft) : aircraftParams a = a.row.request := by
  simp [aircraftParams, MirroredRow.request, Aircraft.row, sentFields_cons]

/-- So does the serializer of a Case. -/
lemma caseParams_eq (c : FoundryCase) : caseParams c = c.row.request := by
  simp [caseParams, MirroredRow.request, FoundryCase.row, sentFields_cons]

lemma lookup_request (row : MirroredRow) {field : String × Option PropValue}
    (h : field ∈ row.fields) : row.request.params.lookup field.1 = field.2 := by
  rw [MirroredRow.request, lookup_sentFields row.nodup, lookup_of_mem row.nodup h]
  rfl

/-! ### What requests leave -/

variable {objects : ObjectSet} {id key : String}

/-- A property after some requests: as it was last sent. -/
lemma prop_foldl_applyUpsert (reqs : List UpsertRequest) :
    ObjectSet.prop (reqs.foldl applyUpsert objects) id key =
      lastSent (objects.prop id key)
        ((reqs.filter (·.locator = id)).map fun req => req.params.lookup key) := by
  induction reqs generalizing objects with
  | nil => rfl
  | cons req reqs ih =>
    rw [List.foldl_cons, ih, prop_applyUpsert]
    by_cases hid : req.locator = id
    · simp [hid, lastSent]
    · simp [hid]

/-- The rows after which no other row of their object comes. -/
def newestRows : List MirroredRow → List MirroredRow
  | [] => []
  | row :: rows =>
    if row.key ∈ rows.map MirroredRow.key then newestRows rows else row :: newestRows rows

lemma exists_split_of_mem_newestRows {rows : List MirroredRow} {row : MirroredRow}
    (h : row ∈ newestRows rows) :
    ∃ before after, rows = before ++ row :: after ∧ row.key ∉ after.map MirroredRow.key := by
  induction rows with
  | nil => simp [newestRows] at h
  | cons first rows ih =>
    rw [newestRows] at h
    split_ifs at h with hfirst
    · obtain ⟨before, after, rfl, hafter⟩ := ih h
      exact ⟨first :: before, after, rfl, hafter⟩
    · rcases List.mem_cons.mp h with rfl | h
      · exact ⟨[], rows, rfl, hfirst⟩
      · obtain ⟨before, after, rfl, hafter⟩ := ih h
        exact ⟨first :: before, after, rfl, hafter⟩

/-- The object of the newest row shows what the row has. -/
def ShowsRow (objects : ObjectSet) (row : MirroredRow) : Prop :=
  ∀ field ∈ row.fields, objects.prop row.key field.1 = field.2

/-- A field the newest row has no value for has none on the object, and no other row of the object
sends it. -/
def NothingToClear (objects : ObjectSet) (rows : List MirroredRow) (row : MirroredRow) : Prop :=
  ∀ field ∈ row.fields, field.2 = none → objects.prop row.key field.1 = none ∧
    ∀ other ∈ rows, other.key = row.key → other.request.params.lookup field.1 = none

instance (objects : ObjectSet) (rows : List MirroredRow) :
    DecidablePred (NothingToClear objects rows) := fun row =>
  inferInstanceAs (Decidable (∀ field ∈ row.fields, _))

/-- After the requests of some rows the newest row of an object is mirrored iff there is nothing to
clear. -/
lemma showsRow_foldl_iff {rows : List MirroredRow} {row : MirroredRow} (h : row ∈ newestRows rows) :
    ShowsRow ((rows.map MirroredRow.request).foldl applyUpsert objects) row ↔
      NothingToClear objects rows row := by
  obtain ⟨before, after, rfl, hafter⟩ := exists_split_of_mem_newestRows h
  have hnone : (after.map MirroredRow.request).filter (·.locator = row.key) = [] := by
    rw [List.filter_eq_nil_iff]
    intro req hreq
    obtain ⟨other, hother, rfl⟩ := List.mem_map.mp hreq
    intro heq
    exact hafter (List.mem_map.mpr ⟨other, hother, of_decide_eq_true heq⟩)
  have hlast : ((before ++ row :: after).map MirroredRow.request).filter (·.locator = row.key) =
      (before.map MirroredRow.request).filter (·.locator = row.key) ++ [row.request] := by
    rw [List.map_append, List.map_cons, List.filter_append, List.filter_cons, hnone]
    simp [MirroredRow.request]
  constructor
  · intro hshows field hfield hvalue
    have hprop := hshows field hfield
    rw [prop_foldl_applyUpsert, hlast, List.map_append, List.map_singleton, lastSent_concat,
      lookup_request row hfield, hvalue, Option.none_or, lastSent_eq_none_iff] at hprop
    refine ⟨hprop.1, fun other hother hkey => ?_⟩
    rcases List.mem_append.mp hother with hother | hother
    · refine hprop.2 _ (List.mem_map.mpr ⟨other.request, List.mem_filter.mpr ⟨?_, ?_⟩, rfl⟩)
      · exact List.mem_map_of_mem hother
      · exact decide_eq_true hkey
    · rcases List.mem_cons.mp hother with rfl | hother
      · rw [lookup_request other hfield, hvalue]
      · exact absurd (List.mem_map.mpr ⟨other, hother, hkey⟩) hafter
  · intro hclear field hfield
    rw [prop_foldl_applyUpsert, hlast, List.map_append, List.map_singleton, lastSent_concat,
      lookup_request row hfield]
    cases hvalue : field.2 with
    | some v => rfl
    | none =>
      obtain ⟨hold, hothers⟩ := hclear field hfield hvalue
      rw [Option.none_or, lastSent_eq_none_iff]
      refine ⟨hold, fun sent hsent => ?_⟩
      obtain ⟨req, hreq, rfl⟩ := List.mem_map.mp hsent
      obtain ⟨hmem, hkey⟩ := List.mem_filter.mp hreq
      obtain ⟨other, hother, rfl⟩ := List.mem_map.mp hmem
      exact hothers other (List.mem_append_left _ hother) (of_decide_eq_true hkey)

/-! ### Ticks -/

inductive MirroredType where
  | aircraft
  | case
  deriving DecidableEq, Repr

/-- The tenant's Aircraft and Cases, and the rows of the last tick if it has succeeded. -/
structure MirroredTenant where
  aircraft : ObjectSet
  cases : ObjectSet
  written : Option (MirroredType × List MirroredRow) := none

def MirroredTenant.objectsOf (s : MirroredTenant) : MirroredType → ObjectSet
  | .aircraft => s.aircraft
  | .case     => s.cases

def MirroredTenant.setObjects (s : MirroredTenant) (objects : ObjectSet) :
    MirroredType → MirroredTenant
  | .aircraft => { s with aircraft := objects }
  | .case     => { s with cases := objects }

/-- A tick, with what it has read. It succeeds, or it fails after some chunks have been applied. -/
inductive MirrorTick where
  | positions (items : List LivePosition) (failedAfter : Option ℕ)
  | cases (items : List CaseForSync) (failedAfter : Option ℕ)
  deriving DecidableEq, Repr

def MirrorTick.type : MirrorTick → MirroredType
  | .positions .. => .aircraft
  | .cases ..     => .case

def MirrorTick.failedAfter : MirrorTick → Option ℕ
  | .positions _ failedAfter => failedAfter
  | .cases _ failedAfter     => failedAfter

/-- The requests of a tick. -/
def MirrorTick.requests : MirrorTick → List UpsertRequest
  | .positions items _ => (aircraftRows items).map fun p => aircraftParams (positionToAircraft p)
  | .cases items _     => items.map fun item => caseParams (caseForSyncToCase item)

/-- The rows a tick mirrors. -/
def MirrorTick.rows : MirrorTick → List MirroredRow
  | .positions items _ => (aircraftRows items).map fun p => (positionToAircraft p).row
  | .cases items _     => items.map fun item => (caseForSyncToCase item).row

/-- The requests that are applied. -/
def MirrorTick.applied (tick : MirrorTick) : List UpsertRequest :=
  match tick.failedAfter with
  | none   => tick.requests
  | some n => ((chunks maxBatch tick.requests).take n).flatten

def mirrorTick (s : MirroredTenant) (tick : MirrorTick) : Option MirroredTenant :=
  let s := s.setObjects (tick.applied.foldl applyUpsert (s.objectsOf tick.type)) tick.type
  some { s with written := if tick.failedAfter = none then some (tick.type, tick.rows) else none }

/-- What the last tick has written, if it has succeeded, equals the rows it was mapped from. -/
def LastTickMirrored (s : MirroredTenant) : Prop :=
  ∀ type rows, s.written = some (type, rows) →
    ∀ row ∈ newestRows rows, ShowsRow (s.objectsOf type) row

/-- The tick fails, or no field of what it writes has to be cleared. -/
def ClearsNothing (s : MirroredTenant) (tick : MirrorTick) : Prop :=
  tick.failedAfter = none →
    ∀ row ∈ newestRows tick.rows, NothingToClear (s.objectsOf tick.type) tick.rows row

instance (s : MirroredTenant) : DecidablePred (ClearsNothing s) := fun _ =>
  inferInstanceAs (Decidable (_ → _))

variable {s : MirroredTenant} {tick : MirrorTick}

lemma requests_eq (tick : MirrorTick) : tick.requests = tick.rows.map MirroredRow.request := by
  cases tick with
  | positions items failedAfter =>
    rw [MirrorTick.requests, MirrorTick.rows, List.map_map]
    exact List.map_congr_left fun p _ => aircraftParams_eq _
  | cases items failedAfter =>
    rw [MirrorTick.requests, MirrorTick.rows, List.map_map]
    exact List.map_congr_left fun item _ => caseParams_eq _

/-- The objects of the type a tick writes. -/
@[simp] lemma objectsOf_setObjects (s : MirroredTenant) (objects : ObjectSet) (type : MirroredType)
    (written : Option (MirroredType × List MirroredRow)) :
    { s.setObjects objects type with written }.objectsOf type = objects := by
  cases type <;> rfl

/-- A tick leaves its rows mirrored iff it has nothing to clear. -/
lemma lastTickMirrored_mirrorTick {t : MirroredTenant} (h : mirrorTick s tick = some t) :
    LastTickMirrored t ↔ ClearsNothing s tick := by
  obtain rfl := Option.some.inj h
  cases hfailed : tick.failedAfter with
  | some n => simp [LastTickMirrored, ClearsNothing, hfailed]
  | none =>
    have happlied : tick.applied = tick.rows.map MirroredRow.request := by
      rw [MirrorTick.applied, hfailed, requests_eq]
    have hmirrored : ∀ row ∈ newestRows tick.rows,
        (ShowsRow ((tick.rows.map MirroredRow.request).foldl applyUpsert (s.objectsOf tick.type))
          row ↔ NothingToClear (s.objectsOf tick.type) tick.rows row) :=
      fun row hrow => showsRow_foldl_iff hrow
    rw [ClearsNothing, hfailed, happlied]
    constructor
    · intro h _ row hrow
      refine (hmirrored row hrow).mp ?_
      simpa using h tick.type tick.rows rfl row hrow
    · intro h type rows hwritten row hrow
      obtain ⟨rfl, rfl⟩ := Prod.mk.inj (Option.some.inj hwritten)
      simpa using (hmirrored row hrow).mpr (h rfl row hrow)

/-- In a sequence of ticks every successful tick leaves what it has written equal to its rows iff
none of them has a field to clear. -/
theorem ticks_mirror_iff (aircraft cases : ObjectSet) (ticks : List MirrorTick) :
    StatesHold mirrorTick LastTickMirrored { aircraft, cases } ticks ↔
      GuardsHold mirrorTick ClearsNothing { aircraft, cases } ticks := by
  refine statesHold_iff_guardsHold (fun s tick t _ h => lastTickMirrored_mirrorTick h)
    (fun _ _ => rfl) ?_
  intro type rows h
  simp at h

/-- A case that Salesforce has resolved, and opened again. -/
def resolvedCase : CaseForSync :=
  { rowToCaseForSync none (sampleCase "CASE-1" 1000000) with
    status := .resolved
    resolvedAt := some 1000000 }

def reopenedCase : CaseForSync := rowToCaseForSync none (sampleCase "CASE-1" 2000000)

/-- The case that has been opened again keeps the time it was resolved. -/
theorem reopened_keeps_resolvedAt : ¬ ∀ (aircraft cases : ObjectSet) (ticks : List MirrorTick),
    StatesHold mirrorTick LastTickMirrored { aircraft, cases } ticks := by
  intro h
  have hlast := (h Table.empty Table.empty
    [.cases [resolvedCase] none, .cases [reopenedCase] none]).run rfl
  have hshows := hlast .case _ rfl (caseForSyncToCase reopenedCase).row (by simp [newestRows,
    MirrorTick.rows])
  have hnone := hshows ("resolvedAt", none) (by decide)
  revert hnone
  decide

/-- An aircraft over no customer region. -/
def unattributedPosition : LivePosition where
  icao24 := "a0b1c2"
  onGround := false
  customerRegion := none
  lastSeenAt := 1000000
  callsign := none
  lat := 40
  lon := -73
  altitudeFt := none
  speedKt := none
  headingDeg := none
  verticalRateFpm := none
  staleness := .fresh

/-- An aircraft that enters a region is mirrored, and one that leaves it is not. -/
example :
    GuardsHold mirrorTick ClearsNothing ⟨Table.empty, Table.empty, none⟩
        [.positions [unattributedPosition] none,
          .positions [{ unattributedPosition with customerRegion := some .west }] none] ∧
      ¬ GuardsHold mirrorTick ClearsNothing ⟨Table.empty, Table.empty, none⟩
        [.positions [{ unattributedPosition with customerRegion := some .west }] none,
          .positions [unattributedPosition] none] := by
  decide

end FleetMonitor
