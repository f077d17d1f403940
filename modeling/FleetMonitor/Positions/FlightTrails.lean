import FleetMonitor.Library.KeepFirst
import FleetMonitor.Library.StreamGroups
import FleetMonitor.Positions.FlightQuery

/-!
# Trails

The trail of an aircraft is read from the lake: `get_flight_trail` reads one,
`get_flight_trails_batch` streams those of many from a single scan. The stream gives what the single
reads give, up to the first aircraft whose trail has a point that no `TrailPoint` can hold, or up to
the aircraft it has come to when the read of the lake fails.
-/

namespace FleetMonitor

open Library

/-! ### Requests -/

inductive TrailLookback where
  | oneHour
  | twoHours
  | fourHours
  | sinceTakeoff
  deriving DecidableEq, Repr

def TrailLookback.text : TrailLookback → String
  | .oneHour      => "1h"
  | .twoHours     => "2h"
  | .fourHours    => "4h"
  | .sinceTakeoff => "since_takeoff"

/-- `TRAIL_INTERVALS`. -/
def trailInterval : TrailLookback → Instant
  | .oneHour      => 3600000000
  | .twoHours     => 2 * 3600000000
  | .fourHours    => 4 * 3600000000
  | .sinceTakeoff => 6 * 3600000000

/-- The check of one address, or the text of its error. -/
def normalizeIcao24 (str : TextFunctions) (raw : String) : Except String String :=
  let ic := str.lower (strip raw)
  if ic.length ≠ 6 ∨ ic.toList.any (fun c => c ∉ "0123456789abcdef".toList) then
    .error ("invalid icao24: " ++ str.repr (.str raw))
  else .ok ic

/-- `TrailBatchRequest._normalize_icao24s`. -/
def normalizeIcao24s (str : TextFunctions) (value : List String) : Except String (List String) :=
  (value.mapM (normalizeIcao24 str)).map distinct

/-! ### One trail -/

/-- `TrailResponse`, all of it. -/
structure LookbackTrail extends TrailResponse where
  lookback : TrailLookback
  pointCount : ℕ
  deriving DecidableEq, Repr

/-- The `TrailPoint` of a row of the lake, or its errors. -/
def trailPoint (row : PositionSnapshot) : Except QueryError TrailPoint :=
  (buildModel "TrailPoint"
    (boundErrors "lat" (-90) 90 row.lat ++ boundErrors "lon" (-180) 180 row.lon)
    { ts := row.tsPosition.getD row.tsPolled
      lat := row.lat
      lon := row.lon
      altitudeFt := row.altitudeFt
      speedKt := row.speedKt }).mapError .validation

def trailResponse (lookback : TrailLookback) (icao24 : String) (points : List TrailPoint) :
    LookbackTrail where
  icao24 := icao24
  points := points
  lookback := lookback
  pointCount := points.length

/-- What a query of trails selects. -/
def trailSelection (now : Instant) (lookback : TrailLookback) (lake : List PositionSnapshot)
    (icao24s : List String) : List PositionSnapshot :=
  lake.filter fun row => row.icao24 ∈ icao24s ∧ now - trailInterval lookback ≤ row.tsPolled

/-- An answer to a query: what it selects, in an order its `ORDER BY` allows. -/
structure IsAnswer {ρ : Type*} (selected : List ρ) (before : ρ → ρ → Prop) (answer : List ρ) :
    Prop where
  perm : answer.Perm selected
  sorted : answer.Pairwise before

/-- `ORDER BY ts_polled ASC`. -/
def byTime (a b : PositionSnapshot) : Prop := a.tsPolled ≤ b.tsPolled

/-- `ORDER BY icao24 ASC, ts_polled ASC`. -/
def byAircraftAndTime (a b : PositionSnapshot) : Prop :=
  a.icao24 < b.icao24 ∨ a.icao24 = b.icao24 ∧ a.tsPolled ≤ b.tsPolled

/-- An IO error of DuckDB, such as that of a lake without files, as `LakehouseQuery` raises it. -/
def lakehouseReadFailed (reason : String) : QueryError :=
  .upstreamUnavailable
    { message := "DuckDB lakehouse read failed", details := [("reason", reason)] }

/-- What `query_stream` of `LakehouseQuery` gives: rows, and the reason of the IO error that may end
them. -/
structure LakeStream where
  rows : List PositionSnapshot
  failure : Option String := none

variable (str : TextFunctions) (scope : Scope)

/-- `QueryService.get_flight_trail`; `rows` is the answer of the lake, or the reason of its IO
error. -/
def getFlightTrail (icao24 : String) (lookback : TrailLookback) (positions : CurrentPositions)
    (rows : Except String (List PositionSnapshot)) : Except QueryError LookbackTrail :=
  let icao24Lower := str.lower icao24
  let check : Except ScopeViolation Unit :=
    match positions.lookup icao24Lower with
    | none     => .ok ()
    | some row => checkFlightScope scope row.customerRegion icao24
  match check with
  | .error e => .error (.scopeViolation e)
  | .ok ()   =>
    ((rows.mapError lakehouseReadFailed).bind fun rows => rows.mapM trailPoint).map
      (trailResponse lookback icao24Lower)

/-! ### Many trails -/

/-- `requested`. -/
def requestedTrails (icao24s : List String) : List String := distinct (icao24s.map str.lower)

/-- `region_by_icao.get`. -/
def regionByIcao (positions : CurrentPositions) (icao24 : String) : Option CustomerRegion :=
  (positions.lookup icao24).bind CurrentPosition.customerRegion

/-- `allowed`. -/
def allowedTrails (icao24s : List String) (positions : CurrentPositions) : List String :=
  (requestedTrails str icao24s).filter fun icao24 =>
    flightInScope scope (regionByIcao positions icao24)

/-- `QueryService.get_flight_trails_batch`; `stream` is the answer of the lake. -/
def getFlightTrailsBatch (icao24s : List String) (lookback : TrailLookback)
    (positions : CurrentPositions) (stream : LakeStream) : Yields QueryError LookbackTrail :=
  if allowedTrails str scope icao24s positions = [] then { yielded := [] }
  else
    streamGroups PositionSnapshot.icao24 trailPoint (trailResponse lookback)
      (stream.failure.map lakehouseReadFailed) stream.rows none []

/-! ### The answers of the lake -/

variable {str scope} {icao24s ids : List String} {raw id : String} {positions : CurrentPositions}
  {now : Instant} {lookback : TrailLookback} {lake rows rows' : List PositionSnapshot}
  {answered : Except String (List PositionSnapshot)}

lemma mem_allowedTrails :
    id ∈ allowedTrails str scope icao24s positions ↔
      (∃ raw ∈ icao24s, str.lower raw = id) ∧ flightInScope scope (regionByIcao positions id) := by
  simp [allowedTrails, requestedTrails, mem_distinct]

/-- No two snapshots of an aircraft have the same time. -/
def DistinctTimes (lake : List PositionSnapshot) : Prop :=
  (lake.map fun row => (row.icao24, row.tsPolled)).Nodup

instance (lake : List PositionSnapshot) : Decidable (DistinctTimes lake) :=
  inferInstanceAs (Decidable (List.Nodup _))

lemma DistinctTimes.eq_of_time (h : DistinctTimes lake) {a b : PositionSnapshot} (ha : a ∈ lake)
    (hb : b ∈ lake) (hid : a.icao24 = b.icao24) (htime : a.tsPolled = b.tsPolled) : a = b :=
  List.inj_on_of_nodup_map h ha hb (Prod.ext hid htime)

/-- The rows of one aircraft in the scan are the answer to the query for it. -/
lemma filter_scan_eq (hdistinct : DistinctTimes lake) (hid : id ∈ ids)
    (hscan : IsAnswer (trailSelection now lookback lake ids) byAircraftAndTime rows)
    (hsingle : IsAnswer (trailSelection now lookback lake [id]) byTime rows') :
    rows.filter (fun row => row.icao24 = id) = rows' := by
  have hselect : (trailSelection now lookback lake ids).filter (fun row => row.icao24 = id) =
      trailSelection now lookback lake [id] := by
    rw [trailSelection, trailSelection, List.filter_filter]
    apply List.filter_congr
    intro row _
    by_cases heq : row.icao24 = id
    · simp [heq, hid]
    · simp [heq]
  have hperm : (rows.filter fun row => row.icao24 = id).Perm rows' :=
    (hscan.perm.filter _).trans (hselect ▸ hsingle.perm.symm)
  have hsorted : (rows.filter fun row => row.icao24 = id).Pairwise byTime := by
    refine (hscan.sorted.filter _).imp_of_mem fun {a b} ha hb hab => ?_
    have hsame : a.icao24 = b.icao24 := by
      rw [of_decide_eq_true (List.mem_filter.mp ha).2, of_decide_eq_true (List.mem_filter.mp hb).2]
    rcases hab with hlt | ⟨-, hle⟩
    · exact absurd hlt (hsame ▸ lt_irrefl _)
    · exact hle
  have hlake : ∀ row ∈ rows', row ∈ lake ∧ row.icao24 = id := by
    intro row hrow
    obtain ⟨hmem, hselected⟩ := List.mem_filter.mp (hsingle.perm.mem_iff.mp hrow)
    exact ⟨hmem, by simpa using (of_decide_eq_true hselected).1⟩
  refine List.Perm.eq_of_pairwise (fun a b ha hb hab hba => ?_) hsorted hsingle.sorted hperm
  obtain ⟨ha, haid⟩ := hlake a (hperm.mem_iff.mp ha)
  obtain ⟨hb, hbid⟩ := hlake b hb
  exact hdistinct.eq_of_time ha hb (haid.trans hbid.symm) (le_antisymm hab hba)

/-! ### The stream and the single reads -/

/-- The trail of one aircraft, as the stream builds it. -/
def streamedTrail (lookback : TrailLookback) (rows : List PositionSnapshot) (icao24 : String) :
    Except QueryError LookbackTrail :=
  groupOf PositionSnapshot.icao24 trailPoint (trailResponse lookback) rows icao24

/-- A read of an aircraft in scope gives its points. -/
lemma getFlightTrail_of_inScope
    (hscope : flightInScope scope (regionByIcao positions (str.lower raw)) = true) :
    getFlightTrail str scope raw lookback positions answered =
      ((answered.mapError lakehouseReadFailed).bind fun rows => rows.mapM trailPoint).map
        (trailResponse lookback (str.lower raw)) := by
  rw [getFlightTrail]
  cases hlookup : positions.lookup (str.lower raw) with
  | none => rfl
  | some row =>
    rw [regionByIcao, hlookup, Option.bind_some] at hscope
    have hcheck : checkFlightScope scope row.customerRegion raw = .ok () :=
      checkFlightScope_isOk_iff.mpr hscope
    simp only [hcheck]

/-- A read of an aircraft out of scope is refused. -/
lemma getFlightTrail_of_not_inScope
    (hscope : flightInScope scope (regionByIcao positions (str.lower raw)) = false) :
    ∃ e, getFlightTrail str scope raw lookback positions answered = .error (.scopeViolation e) := by
  cases hlookup : positions.lookup (str.lower raw) with
  | none =>
    rw [regionByIcao, hlookup] at hscope
    cases hscope
  | some row =>
    rw [regionByIcao, hlookup, Option.bind_some] at hscope
    cases hcheck : checkFlightScope scope row.customerRegion raw with
    | ok u =>
      rw [checkFlightScope_isOk_iff.mp hcheck] at hscope
      cases hscope
    | error e =>
      refine ⟨e, ?_⟩
      rw [getFlightTrail]
      simp only [hlookup, hcheck]

/-- A read fails on a point, with this error. -/
def FailsOnPoint (read : Except QueryError LookbackTrail) (e : QueryError) : Prop :=
  read = .error e ∧ ∃ v, e = .validation v

lemma streamedTrail_error {e : QueryError} (h : streamedTrail lookback rows id = .error e) :
    (∃ row ∈ rows, row.icao24 = id) ∧ ∃ v, e = .validation v := by
  obtain ⟨row, hrow, hid, he⟩ := exists_error_of_groupOf_error h
  obtain ⟨v, -, hv⟩ := mapError_eq_error_iff.mp he
  exact ⟨⟨row, hrow, hid⟩, v, hv.symm⟩

lemma streamedTrail_ok {r : LookbackTrail} (h : streamedTrail lookback rows id = .ok r) :
    r.icao24 = id ∧ (r.points ≠ [] ↔ ∃ row ∈ rows, row.icao24 = id) := by
  obtain ⟨points, hpoints, rfl⟩ := groupOf_eq_ok_iff.mp h
  refine ⟨rfl, ?_⟩
  have hnil := mapM_ok_eq_nil_iff hpoints
  rw [List.filter_eq_nil_iff] at hnil
  constructor
  · intro hne
    by_contra hnone
    exact hne (hnil.mpr fun row hrow heq => hnone ⟨row, hrow, by simpa using heq⟩)
  · rintro ⟨row, hrow, heq⟩ hpointsNil
    exact hnil.mp hpointsNil row hrow (by simpa using heq)

/-- The loop ends at once when nothing is allowed, as it does over no rows. -/
lemma getFlightTrailsBatch_eq
    (hscan : IsAnswer (trailSelection now lookback lake (allowedTrails str scope icao24s positions))
      byAircraftAndTime rows) :
    getFlightTrailsBatch str scope icao24s lookback positions ⟨rows, none⟩ =
      streamGroups PositionSnapshot.icao24 trailPoint (trailResponse lookback) none rows none [] := by
  rw [getFlightTrailsBatch]
  split_ifs with hnone
  · have hrows : rows = [] := by
      have hperm := hscan.perm
      rw [hnone, trailSelection, List.filter_eq_nil_iff.mpr (by simp)] at hperm
      exact hperm.eq_nil
    rw [hrows]
    rfl
  · rfl

/-- What the aircraft of a batch and the answers of the lake have to do with each other. -/
structure Answers (str : TextFunctions) (scope : Scope) (icao24s : List String)
    (lookback : TrailLookback) (now : Instant) (positions : CurrentPositions)
    (lake scan : List PositionSnapshot) (answer : String → List PositionSnapshot) : Prop where
  scan : IsAnswer (trailSelection now lookback lake (allowedTrails str scope icao24s positions))
    byAircraftAndTime scan
  single : ∀ raw ∈ icao24s,
    IsAnswer (trailSelection now lookback lake [str.lower raw]) byTime (answer raw)

section

variable {scan : List PositionSnapshot} {answer : String → List PositionSnapshot}
  (hdistinct : DistinctTimes lake)
  (h : Answers str scope icao24s lookback now positions lake scan answer)

include h in
/-- An aircraft of the scan was asked for, and is in scope. -/
lemma Answers.inScope_of_scan (hrow : ∃ row ∈ scan, row.icao24 = id) :
    (∃ raw ∈ icao24s, str.lower raw = id) ∧
      flightInScope scope (regionByIcao positions id) = true := by
  obtain ⟨row, hrow, rfl⟩ := hrow
  have hselected := (List.mem_filter.mp (h.scan.perm.mem_iff.mp hrow)).2
  exact mem_allowedTrails.mp (of_decide_eq_true hselected).1

include hdistinct h in
/-- A read of an aircraft in scope gives its streamed trail. -/
lemma Answers.getFlightTrail_eq (hraw : raw ∈ icao24s)
    (hscope : flightInScope scope (regionByIcao positions (str.lower raw)) = true) :
    getFlightTrail str scope raw lookback positions (.ok (answer raw)) =
      streamedTrail lookback scan (str.lower raw) := by
  have hallowed : str.lower raw ∈ allowedTrails str scope icao24s positions :=
    mem_allowedTrails.mpr ⟨⟨raw, hraw, rfl⟩, hscope⟩
  rw [getFlightTrail_of_inScope hscope, streamedTrail, groupOf,
    filter_scan_eq hdistinct hallowed h.scan (h.single raw hraw)]
  rfl

include hdistinct h in
/-- The groups of the stream that have a trail, by the aircraft asked for. -/
lemma Answers.exists_read_iff {r : LookbackTrail} :
    (∃ row ∈ scan, row.icao24 = id) ∧ streamedTrail lookback scan id = .ok r ↔
      ∃ raw ∈ icao24s, str.lower raw = id ∧
        getFlightTrail str scope raw lookback positions (.ok (answer raw)) = .ok r ∧
        r.points ≠ [] := by
  constructor
  · rintro ⟨hrow, hstream⟩
    obtain ⟨⟨raw, hraw, rfl⟩, hscope⟩ := h.inScope_of_scan hrow
    refine ⟨raw, hraw, rfl, ?_, (streamedTrail_ok hstream).2.mpr hrow⟩
    rw [h.getFlightTrail_eq hdistinct hraw hscope, hstream]
  · rintro ⟨raw, hraw, rfl, hread, hpoints⟩
    cases hscope : flightInScope scope (regionByIcao positions (str.lower raw)) with
    | false =>
      obtain ⟨e, he⟩ := getFlightTrail_of_not_inScope hscope
      rw [he] at hread
      cases hread
    | true =>
      rw [h.getFlightTrail_eq hdistinct hraw hscope] at hread
      exact ⟨(streamedTrail_ok hread).2.mp hpoints, hread⟩

include hdistinct h in
/-- The groups the stream fails on, by the aircraft asked for. -/
lemma Answers.exists_fails_iff {e : QueryError} :
    streamedTrail lookback scan id = .error e ↔
      ∃ raw ∈ icao24s, str.lower raw = id ∧
        FailsOnPoint (getFlightTrail str scope raw lookback positions (.ok (answer raw))) e := by
  constructor
  · intro hstream
    obtain ⟨hrow, v, rfl⟩ := streamedTrail_error hstream
    obtain ⟨⟨raw, hraw, rfl⟩, hscope⟩ := h.inScope_of_scan hrow
    exact ⟨raw, hraw, rfl, (h.getFlightTrail_eq hdistinct hraw hscope).trans hstream, v, rfl⟩
  · rintro ⟨raw, hraw, rfl, hread, v, rfl⟩
    cases hscope : flightInScope scope (regionByIcao positions (str.lower raw)) with
    | false =>
      obtain ⟨e', he'⟩ := getFlightTrail_of_not_inScope hscope
      rw [he'] at hread
      cases hread
    | true => rwa [h.getFlightTrail_eq hdistinct hraw hscope] at hread

end

/-! ### The batch -/

section

variable (read : String → Except QueryError LookbackTrail)

/-- A trail with a point is what a single read of the request gives. -/
def IsRead (icao24s : List String) (r : LookbackTrail) : Prop :=
  ∃ raw ∈ icao24s, read raw = .ok r ∧ r.points ≠ []

/-- Every single read of the request that fails on a point is of a later aircraft. -/
def BeforeFailures (str : TextFunctions) (icao24s : List String) (icao24 : String) : Prop :=
  ∀ raw ∈ icao24s, ∀ e, FailsOnPoint (read raw) e → icao24 < str.lower raw

/-- The first single read of the request that fails on a point, in the order of the aircraft, fails
with this error. -/
def FirstFailure (str : TextFunctions) (icao24s : List String) (e : QueryError) : Prop :=
  ∃ raw ∈ icao24s, FailsOnPoint (read raw) e ∧
    ∀ raw' ∈ icao24s, ∀ e', FailsOnPoint (read raw') e' → str.lower raw ≤ str.lower raw'

end

section

variable {scan : List PositionSnapshot} {answer : String → List PositionSnapshot}
  (hdistinct : DistinctTimes lake)
  (h : Answers str scope icao24s lookback now positions lake scan answer)
include hdistinct h

lemma Answers.beforeFailures_iff :
    BeforeFailures (fun raw => getFlightTrail str scope raw lookback positions (.ok (answer raw)))
        str icao24s id ↔
      ∀ id' e, streamedTrail lookback scan id' = .error e → id < id' := by
  constructor
  · intro hbefore id' e hstream
    obtain ⟨raw, hraw, rfl, hfails⟩ := (h.exists_fails_iff hdistinct).mp hstream
    exact hbefore raw hraw e hfails
  · intro hbefore raw hraw e hfails
    exact hbefore _ e ((h.exists_fails_iff hdistinct).mpr ⟨raw, hraw, rfl, hfails⟩)

lemma Answers.firstFailure_iff {e : QueryError} :
    FirstFailure (fun raw => getFlightTrail str scope raw lookback positions (.ok (answer raw)))
        str icao24s e ↔
      ∃ id, streamedTrail lookback scan id = .error e ∧
        ∀ id' e', streamedTrail lookback scan id' = .error e' → id ≤ id' := by
  constructor
  · rintro ⟨raw, hraw, hfails, hfirst⟩
    refine ⟨str.lower raw, (h.exists_fails_iff hdistinct).mpr ⟨raw, hraw, rfl, hfails⟩,
      fun id' e' hstream => ?_⟩
    obtain ⟨raw', hraw', rfl, hfails'⟩ := (h.exists_fails_iff hdistinct).mp hstream
    exact hfirst raw' hraw' e' hfails'
  · rintro ⟨id, hstream, hfirst⟩
    obtain ⟨raw, hraw, rfl, hfails⟩ := (h.exists_fails_iff hdistinct).mp hstream
    exact ⟨raw, hraw, hfails, fun raw' hraw' e' hfails' =>
      hfirst _ e' ((h.exists_fails_iff hdistinct).mpr ⟨raw', hraw', rfl, hfails'⟩)⟩

/-- The single reads that have trails are the groups of the stream that have. -/
lemma Answers.isRead_iff {r : LookbackTrail} {p : String → Prop} :
    IsRead (fun raw => getFlightTrail str scope raw lookback positions (.ok (answer raw))) icao24s
        r ∧ p r.icao24 ↔
      ∃ id, (∃ row ∈ scan, row.icao24 = id) ∧ streamedTrail lookback scan id = .ok r ∧ p id := by
  constructor
  · rintro ⟨⟨raw, hraw, hread, hpoints⟩, hp⟩
    obtain ⟨hrow, hstream⟩ := (h.exists_read_iff hdistinct).mpr ⟨raw, hraw, rfl, hread, hpoints⟩
    rw [(streamedTrail_ok hstream).1] at hp
    exact ⟨str.lower raw, hrow, hstream, hp⟩
  · rintro ⟨id, hrow, hstream, hp⟩
    obtain ⟨raw, hraw, rfl, hread, hpoints⟩ := (h.exists_read_iff hdistinct).mp ⟨hrow, hstream⟩
    refine ⟨⟨raw, hraw, hread, hpoints⟩, ?_⟩
    rwa [(streamedTrail_ok hstream).1]

end

/-- The batch yields, in the order of the aircraft and each once, the trails that single reads give
for the aircraft asked for, in scope and with a point, up to the first aircraft whose single read
fails on a point; there it fails in the same way. When the read of the lake fails after some rows,
it yields those of the aircraft before the last it has received a row of, and fails with it, unless
it has failed on a point; a single read fails with it at once. -/
theorem trails_batch_streams_reads (str : TextFunctions) (scope : Scope) (icao24s : List String)
    (lookback : TrailLookback) (now : Instant) (positions : CurrentPositions)
    (lake scan : List PositionSnapshot) (answer : String → List PositionSnapshot)
    (hdistinct : DistinctTimes lake)
    (h : Answers str scope icao24s lookback now positions lake scan answer) :
    let batch := getFlightTrailsBatch str scope icao24s lookback positions
    let read := fun raw => getFlightTrail str scope raw lookback positions (.ok (answer raw))
    (((batch ⟨scan, none⟩).yielded.map fun r => r.icao24).Pairwise (· < ·) ∧
      (∀ r, r ∈ (batch ⟨scan, none⟩).yielded ↔
        IsRead read icao24s r ∧ BeforeFailures read str icao24s r.icao24) ∧
      ∀ e, (batch ⟨scan, none⟩).raised = some e ↔ FirstFailure read str icao24s e) ∧
    (∀ before reason, before <+: scan → allowedTrails str scope icao24s positions ≠ [] →
      ((batch ⟨before, some reason⟩).yielded.map fun r => r.icao24).Pairwise (· < ·) ∧
      (∀ r, r ∈ (batch ⟨before, some reason⟩).yielded ↔
        IsRead read icao24s r ∧ BeforeFailures read str icao24s r.icao24 ∧
          ∃ row ∈ before, r.icao24 < row.icao24) ∧
      ∃ e, (batch ⟨before, some reason⟩).raised = some e ∧
        (e = lakehouseReadFailed reason ∨ FirstFailure read str icao24s e)) ∧
    ∀ raw reason, flightInScope scope (regionByIcao positions (str.lower raw)) = true →
      getFlightTrail str scope raw lookback positions (.error reason) =
        .error (lakehouseReadFailed reason) := by
  intro batch read
  have hsorted : scan.Pairwise fun a b => a.icao24 ≤ b.icao24 := by
    refine h.scan.sorted.imp fun {a b} hab => ?_
    rcases hab with hlt | ⟨heq, -⟩
    · exact hlt.le
    · exact heq.le
  refine ⟨?_, fun before reason hbefore hallowed => ?_, fun raw reason hscope =>
    getFlightTrail_of_inScope hscope⟩
  · obtain ⟨ks, hks, hmem⟩ := exists_sortedKeys PositionSnapshot.icao24 scan
    have hbatch : batch ⟨scan, none⟩ = runAll (streamedTrail lookback scan) ks :=
      (getFlightTrailsBatch_eq h.scan).trans (streamGroups_eq_runAll hsorted hks hmem)
    rw [hbatch]
    refine ⟨runAll_pairwise (fun k r hr => (streamedTrail_ok hr).1) hks, fun r => ?_, fun e => ?_⟩
    · refine (mem_runAll hks).trans (Iff.trans ?_ (h.isRead_iff hdistinct
        (p := fun id => BeforeFailures read str icao24s id)).symm)
      simp only [read, h.beforeFailures_iff hdistinct]
      constructor
      · rintro ⟨k, hk, hr, hfirst⟩
        refine ⟨k, (hmem k).mp hk, hr, fun k' e' he' => hfirst k' ?_ e' he'⟩
        exact (hmem k').mpr (streamedTrail_error he').1
      · rintro ⟨k, hrow, hr, hfirst⟩
        exact ⟨k, (hmem k).mpr hrow, hr, fun k' _ e' he' => hfirst k' e' he'⟩
    · rw [h.firstFailure_iff hdistinct, runAll_raised_eq_some_iff hks]
      constructor
      · rintro ⟨k, -, he, hfirst⟩
        refine ⟨k, he, fun k' e' he' => hfirst k' ?_ e' he'⟩
        exact (hmem k').mpr (streamedTrail_error he').1
      · rintro ⟨k, he, hfirst⟩
        exact ⟨k, (hmem k).mpr (streamedTrail_error he).1, he, fun k' _ e' he' =>
          hfirst k' e' he'⟩
  · have hbatch : batch ⟨before, some reason⟩ =
        streamGroups PositionSnapshot.icao24 trailPoint (trailResponse lookback)
          (some (lakehouseReadFailed reason)) before none [] := if_neg hallowed
    rw [hbatch]
    refine ⟨streamGroups_broken_pairwise hsorted hbefore fun k r hr => (streamedTrail_ok hr).1,
      fun r => ?_, ?_⟩
    · refine (mem_streamGroups_broken hsorted hbefore).trans (Iff.trans ?_ (h.isRead_iff hdistinct
        (p := fun id => BeforeFailures read str icao24s id ∧
          ∃ row ∈ before, id < row.icao24)).symm)
      simp only [read, h.beforeFailures_iff hdistinct]
      exact Iff.rfl
    · obtain ⟨e, hraised, he⟩ := streamGroups_broken_raised hsorted hbefore
      exact ⟨e, hraised, he.imp_right (h.firstFailure_iff hdistinct).mpr⟩

/-! ### Two aircraft -/

def westScope : Scope where
  userHandle := "west-desk"
  region := .west
  customPerms := []
  sitesInScope := ["KSFO"]

/-- A snapshot of an aircraft at some latitude. -/
def trailSnapshot (icao24 : String) (lat : ℚ) (tsPolled : Instant) : PositionSnapshot where
  icao24 := icao24
  callsign := none
  originCountry := none
  lat := lat
  lon := 0
  altitudeFt := some 30000
  speedKt := none
  headingDeg := none
  verticalRateFpm := none
  onGround := false
  squawk := none
  tsPolled := tsPolled
  tsPosition := none
  customerRegion := none

/-- Two aircraft, the first of them at a given latitude. -/
def twoTrails (lat : ℚ) : List PositionSnapshot :=
  [trailSnapshot "aaa111" lat 0, trailSnapshot "bbb222" 40 0]

/-- A request for both of them. -/
def bothAircraft : List String := ["BBB222", "aaa111"]

example : normalizeIcao24s asciiText ["BBB222", "aaa111", "bbb222"] =
    .ok ["bbb222", "aaa111"] := by decide

/-- The rows of one aircraft, as the lake answers. -/
def answerOf (lat : ℚ) (raw : String) : List PositionSnapshot :=
  (twoTrails lat).filter fun row => row.icao24 = asciiText.lower raw

lemma answers_twoTrails (lat : ℚ) :
    Answers asciiText westScope bothAircraft .twoHours 0 Table.empty (twoTrails lat)
      (twoTrails lat) (answerOf lat) where
  scan := by
    have hselection : trailSelection 0 .twoHours (twoTrails lat)
        (allowedTrails asciiText westScope bothAircraft Table.empty) = twoTrails lat := rfl
    have hsorted : byAircraftAndTime (trailSnapshot "aaa111" lat 0)
        (trailSnapshot "bbb222" 40 0) := by
      left
      show "aaa111" < "bbb222"
      decide
    exact ⟨hselection ▸ List.Perm.refl _, by simpa [twoTrails] using hsorted⟩
  single := by
    intro raw hraw
    have hcases : raw = "BBB222" ∨ raw = "aaa111" := by simpa [bothAircraft] using hraw
    rcases hcases with rfl | rfl
    · exact ⟨List.Perm.refl _, List.pairwise_singleton _ _⟩
    · exact ⟨List.Perm.refl _, List.pairwise_singleton _ _⟩

theorem trails_batch_twoTrails :
    (getFlightTrailsBatch asciiText westScope bothAircraft .twoHours Table.empty
      ⟨twoTrails 40, none⟩).yielded.map (fun r => r.icao24) = ["aaa111", "bbb222"] ∧
    ((getFlightTrailsBatch asciiText westScope bothAircraft .twoHours Table.empty
      ⟨twoTrails 40, none⟩).yielded.map fun r => r.icao24).Pairwise (· < ·) ∧
    ∃ e, (getFlightTrailsBatch asciiText westScope bothAircraft .twoHours Table.empty
      ⟨[trailSnapshot "aaa111" 40 0], some "IO Error"⟩).raised = some e ∧
        (e = lakehouseReadFailed "IO Error" ∨ FirstFailure (fun raw => getFlightTrail asciiText
          westScope raw .twoHours Table.empty (.ok (answerOf 40 raw))) asciiText bothAircraft e) :=
  have h := trails_batch_streams_reads asciiText westScope bothAircraft .twoHours 0 Table.empty
    (twoTrails 40) (twoTrails 40) (answerOf 40) (by decide) (answers_twoTrails 40)
  ⟨by decide, h.1.1, (h.2.1 [trailSnapshot "aaa111" 40 0] "IO Error" (by decide) (by decide)).2.2⟩

/-- A point at an impossible latitude ends the stream, so an aircraft after it is not yielded. -/
theorem impossible_point_ends_batch :
    ¬∀ (str : TextFunctions) (scope : Scope) (icao24s : List String) (lookback : TrailLookback)
        (now : Instant) (positions : CurrentPositions) (lake scan : List PositionSnapshot)
        (answer : String → List PositionSnapshot),
      DistinctTimes lake → Answers str scope icao24s lookback now positions lake scan answer →
        ∀ r, r ∈ (getFlightTrailsBatch str scope icao24s lookback positions ⟨scan, none⟩).yielded ↔
          ∃ raw ∈ icao24s,
            getFlightTrail str scope raw lookback positions (.ok (answer raw)) = .ok r ∧
              r.points ≠ [] := by
  intro h
  have hyielded := h asciiText westScope bothAircraft .twoHours 0 Table.empty (twoTrails 91)
    (twoTrails 91) (answerOf 91) (by decide) (answers_twoTrails 91)
    (trailResponse .twoHours "bbb222" [⟨0, 40, 0, some 30000, none⟩])
  have hnone : (getFlightTrailsBatch asciiText westScope bothAircraft .twoHours Table.empty
      ⟨twoTrails 91, none⟩).yielded = [] := by decide
  have hread : getFlightTrail asciiText westScope "BBB222" .twoHours Table.empty
      (.ok (answerOf 91 "BBB222")) =
        .ok (trailResponse .twoHours "bbb222" [⟨0, 40, 0, some 30000, none⟩]) := by
    decide
  rw [hnone] at hyielded
  exact List.not_mem_nil (hyielded.mpr ⟨"BBB222", by simp [bothAircraft], hread, by
    simp [trailResponse]⟩)

end FleetMonitor
