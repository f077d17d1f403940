import FleetMonitor.Foundry.Ontology
import FleetMonitor.Library.StoreMove
import Mathlib.Data.List.Dedup

/-!
# The flight archive

`_run_flight_archive` moves completed flights from the tenant to the cold store, page by page: the
rows of a page are written to their day partitions, read back, and only then deleted from the
tenant. What can fail is given by `Faults`, a failure for every call in every history, and a run
leaves the trace of its calls, so that a statement about all prefixes of the trace is one about
every moment of every run.
-/

namespace FleetMonitor

open Library Library.StoreMove

/-! ### Rows -/

/-- A UTC calendar date: days since the epoch. -/
abbrev Date := ℤ

/-- `landed.astimezone(UTC).date()`. -/
def utcDate (t : Instant) : Date := t / 86400000000

/-- How a run of the archive ends when it does not return. -/
inductive ArchiveError where
  /-- Foundry does not answer, or refuses a chunk: `FoundrySyncSkipped`. -/
  | skipped
  /-- The file system fails. -/
  | osError
  /-- A timestamp cannot be parsed. -/
  | valueError
  /-- The verification: how many of how many ids are missing, with a sample. -/
  | verifyFailed (missing total : ℕ) (sample : List String)
  deriving DecidableEq, Repr

/-- `_parse_iso`. -/
def parseIso : Option PropValue → Except ArchiveError (Option Instant)
  | none              => .ok none
  | some (.text "")   => .ok none
  | some (.instant t) => .ok (some t)
  | some _            => .error .valueError

/-- A row of `flights_archive`. -/
structure ArchiveRow where
  flightId : String
  icao24 : Option PropValue
  takeoffTs : Option Instant
  landedAt : Instant
  callsign : Option PropValue
  registration : Option PropValue
  aircraftType : Option PropValue
  operatorIcao : Option PropValue
  customerRegion : Option PropValue
  originIcao : Option PropValue
  destinationIcao : Option PropValue
  etaMinutes : Option PropValue
  status : Option PropValue
  currentStage : Option PropValue
  lat : Option PropValue
  lon : Option PropValue
  openCaseCount : Option PropValue
  openCaseIds : Option PropValue
  statusTimeline : Option PropValue
  trail2h : Option PropValue
  archivedAt : Instant
  deriving DecidableEq, Repr

/-- `_archive_row`; the flight id is the primary key of the object. -/
def archiveRow (o : OntologyObject) (landedAt archivedAt : Instant) :
    Except ArchiveError ArchiveRow :=
  (parseIso (o.get "takeoffTs")).map fun takeoffTs =>
    { flightId := o.pk
      icao24 := o.get "icao24"
      takeoffTs
      landedAt
      callsign := o.get "callsign"
      registration := o.get "registration"
      aircraftType := o.get "aircraftType"
      operatorIcao := o.get "operatorIcao"
      customerRegion := o.get "customerRegion"
      originIcao := o.get "originIcao"
      destinationIcao := o.get "destinationIcao"
      etaMinutes := o.get "etaMinutes"
      status := o.get "status"
      currentStage := o.get "currentStage"
      lat := o.get "lat"
      lon := o.get "lon"
      openCaseCount := o.get "openCaseCount"
      openCaseIds := o.get "openCaseIds"
      statusTimeline := o.get "statusTimeline"
      trail2h := o.get "trail2h"
      archivedAt }

/-- A row that can be read in the cold store, with the partition it lies in. -/
structure ArchivedFlight where
  landedDate : Date
  row : ArchiveRow
  deriving DecidableEq, Repr

def ArchivedFlight.flightId (c : ArchivedFlight) : String := c.row.flightId

/-- The filter of `iter_completed_flights`. -/
def Completed (o : OntologyObject) : Prop := o.get "landedAt" ≠ none ∧ o.pk ≠ ""

/-- The flight has landed before the given time. -/
def LandedBefore (before : Instant) (o : OntologyObject) : Prop :=
  match parseIso (o.get "landedAt") with
  | .ok (some landed) => landed < before
  | _                 => False

/-- A completed flight that has landed before the grace window. -/
def Settled (before : Instant) (o : OntologyObject) : Prop := Completed o ∧ LandedBefore before o

instance : DecidablePred Completed := fun o =>
  inferInstanceAs (Decidable (o.get "landedAt" ≠ none ∧ o.pk ≠ ""))

instance (before : Instant) : DecidablePred (LandedBefore before) := fun o => by
  unfold LandedBefore; split <;> infer_instance

instance (before : Instant) : DecidablePred (Settled before) := fun o =>
  inferInstanceAs (Decidable (Completed o ∧ LandedBefore before o))

/-! ### The run -/

/-- One call of the archive to the tenant or to the cold store. -/
abbrev ArchiveEvent := Event String ArchivedFlight

/-- What a chunk of `delete_flight_batch` ends with; a failed one may have been applied. -/
inductive ChunkOutcome where
  | deleted
  | failed (applied : Bool)
  deriving DecidableEq, Repr

/-- What fails: the fetch of a page by its number; the other calls by the calls before them. A write
that does not raise commits a file, of which the rows it keeps can be read; a read that does not
raise sees a part of these. -/
structure Faults where
  fetch : ℕ → Bool
  write : List ArchiveEvent → Option (ArchiveRow → Bool)
  read : List ArchiveEvent → Option (ArchivedFlight → Bool)
  delete : List ArchiveEvent → ChunkOutcome

/-- The variables of `_run_flight_archive`; `pagesRead` and `trace` are for the specification. -/
structure ArchiveState where
  completedSeen : ℕ := 0
  settled : ℕ := 0
  archived : ℕ := 0
  deleted : ℕ := 0
  pastRetention : ℕ := 0
  capped : Bool := false
  pagesRead : ℕ := 0
  trace : List ArchiveEvent := []

/-- `FlightArchiveResult`. -/
structure FlightArchiveResult where
  completedSeen : ℕ
  settled : ℕ
  archived : ℕ
  deleted : ℕ
  capped : Bool
  pastRetention : ℕ
  archivedPersisted : ℕ
  deriving DecidableEq, Repr

/-- The eligible flights of a page with their landings, and how many are past the retention. -/
def scanPage (settledBefore retentionBefore : Instant) :
    List OntologyObject → Except ArchiveError (List (OntologyObject × Instant) × ℕ)
  | [] => .ok ([], 0)
  | o :: os =>
    match parseIso (o.get "landedAt") with
    | .error e  => .error e
    | .ok none  => scanPage settledBefore retentionBefore os
    | .ok (some landed) =>
      (scanPage settledBefore retentionBefore os).map fun (eligible, past) =>
        (if landed < settledBefore then (o, landed) :: eligible else eligible,
         if landed < retentionBefore then past + 1 else past)

/-- `rows_by_date.setdefault(date, []).append(row)`. -/
def addRow (date : Date) (row : ArchiveRow) :
    List (Date × List ArchiveRow) → List (Date × List ArchiveRow)
  | [] => [(date, [row])]
  | (d, rows) :: groups =>
    if d = date then (d, rows ++ [row]) :: groups else (d, rows) :: addRow date row groups

/-- The rows of the eligible flights, grouped by landed date. -/
def rowsByDate (now : Instant) : List (OntologyObject × Instant) → List (Date × List ArchiveRow) →
    Except ArchiveError (List (Date × List ArchiveRow))
  | [], groups => .ok groups
  | (o, landed) :: eligible, groups =>
    match archiveRow o landed now with
    | .error e => .error e
    | .ok row  => rowsByDate now eligible (addRow (utcDate landed) row groups)

variable (faults : Faults)

/-- `write_flights_archive` for every date: what can be read of the files. -/
def writeGroups : List (Date × List ArchiveRow) → List ArchiveEvent →
    Except ArchiveError (List ArchivedFlight) × List ArchiveEvent
  | [], trace => (.ok [], trace)
  | (date, rows) :: groups, trace =>
    match faults.write trace with
    | none => (.error .osError, trace)
    | some keep =>
      let file := (rows.filter keep).map (ArchivedFlight.mk date)
      match writeGroups groups (trace ++ [.write file]) with
      | (.ok files, trace) => (.ok (file ++ files), trace)
      | (.error e, trace)  => (.error e, trace)

/-- The chunks of `delete_flight_batch`: how many flights are deleted. -/
def deleteChunks : List (List String) → List ArchiveEvent →
    Except ArchiveError ℕ × List ArchiveEvent
  | [], trace => (.ok 0, trace)
  | chunk :: later, trace =>
    match faults.delete trace with
    | .failed applied => (.error .skipped, trace ++ [.delete chunk applied])
    | .deleted =>
      match deleteChunks later (trace ++ [.delete chunk true]) with
      | (.ok n, trace)    => (.ok (chunk.length + n), trace)
      | (.error e, trace) => (.error e, trace)

/-- `delete_flight_batch`. -/
def deleteFlightBatch (ids : List String) (trace : List ArchiveEvent) :
    Except ArchiveError ℕ × List ArchiveEvent :=
  deleteChunks faults (chunks maxBatch ids) trace

/-- The verification of what has been written, and the deletes if it passes. -/
def verifyThenDelete (writtenIds : List String) (files : List ArchivedFlight) (st : ArchiveState) :
    Except ArchiveError Unit × ArchiveState :=
  match faults.read st.trace with
  | none      => (.error .osError, st)
  | some sees =>
    let readback := (files.filter sees).map ArchivedFlight.flightId
    let missing := writtenIds.filter (· ∉ readback)
    let st := { st with trace := st.trace ++ [.readBack readback] }
    if missing ≠ [] then
      (.error (.verifyFailed missing.length writtenIds.length ((sortedIds missing).take 10)), st)
    else
      let st := { st with archived := st.archived + writtenIds.length }
      match deleteFlightBatch faults (sortedIds writtenIds) st.trace with
      | (.error e, trace) => (.error e, { st with trace })
      | (.ok n, trace)    => (.ok (), { st with trace, deleted := st.deleted + n })

/-- The second half of a page: write, verify, delete. -/
def moveFlights (now : Instant) (eligible : List (OntologyObject × Instant)) (st : ArchiveState) :
    Except ArchiveError Unit × ArchiveState :=
  match rowsByDate now eligible [] with
  | .error e => (.error e, st)
  | .ok groups =>
    match writeGroups faults groups st.trace with
    | (.error e, trace) => (.error e, { st with trace })
    | (.ok files, trace) =>
      verifyThenDelete faults ((groups.flatMap Prod.snd).map ArchiveRow.flightId).dedup files
        { st with trace }

/-- The body of the loop of `_run_flight_archive`. -/
def archivePage (now grace : Instant) (cap : ℕ) (retention : Instant) (page : List OntologyObject)
    (st : ArchiveState) : Except ArchiveError Unit × ArchiveState :=
  let completed := page.filter fun o => decide (Completed o)
  let st := { st with
    completedSeen := st.completedSeen + completed.length
    pagesRead := st.pagesRead + 1 }
  match scanPage (now - grace) (now - retention) completed with
  | .error e => (.error e, st)
  | .ok (eligible, past) =>
    let st := { st with
      settled := st.settled + eligible.length
      pastRetention := st.pastRetention + past }
    if eligible = [] then (.ok (), st)
    else
      let room := cap - st.archived
      if room = 0 then (.ok (), { st with capped := true })
      else
        moveFlights faults now (eligible.take room)
          { st with capped := st.capped || decide (room < eligible.length) }

/-- The loop of `_run_flight_archive`. -/
def archivePages (now grace : Instant) (cap : ℕ) (retention : Instant) :
    List (List OntologyObject) → ArchiveState → Except ArchiveError Unit × ArchiveState
  | [], st => (.ok (), st)
  | page :: pages, st =>
    if faults.fetch st.pagesRead then (.error .skipped, st)
    else
      match archivePage faults now grace cap retention page st with
      | (.error e, st) => (.error e, st)
      | (.ok _, st) =>
        if st.capped then (.ok (), st) else archivePages now grace cap retention pages st

/-- `_run_flight_archive`, with the calls it has made. -/
def runFlightArchive (start : Stores OntologyObject.pk ArchivedFlight)
    (pages : List (List OntologyObject)) (now grace : Instant) (cap : ℕ) (retention : Instant) :
    Except ArchiveError FlightArchiveResult × List ArchiveEvent :=
  match archivePages faults now grace cap retention pages {} with
  | (.error e, st) => (.error e, st.trace)
  | (.ok _, st) =>
    let persisted := (start.after st.trace).copies.countP fun c => c.row.archivedAt = now
    (.ok
      { completedSeen := st.completedSeen
        settled := st.settled
        archived := st.archived
        deleted := st.deleted
        capped := st.capped
        pastRetention := st.pastRetention
        archivedPersisted := if st.archived = 0 then 0 else persisted }, st.trace)

/-! ### Rows and groups -/

/-- The row of a settled flight, in the partition of its landed date. -/
def IsCopy (now before : Instant) (o : OntologyObject) (c : ArchivedFlight) : Prop :=
  Completed o ∧ ∃ landed, parseIso (o.get "landedAt") = .ok (some landed) ∧ landed < before ∧
    c.landedDate = utcDate landed ∧ archiveRow o landed now = .ok c.row

variable {faults} {now grace before retention : Instant} {o : OntologyObject}
  {trace trace' : List ArchiveEvent} {groups groups' : List (Date × List ArchiveRow)}
  {eligible : List (OntologyObject × Instant)}

lemma archiveRow_ok {landed : Instant} {row : ArchiveRow} (h : archiveRow o landed now = .ok row) :
    row.flightId = o.pk ∧ row.archivedAt = now := by
  rw [archiveRow] at h
  cases hp : parseIso (o.get "takeoffTs") with
  | error e => simp [hp, Except.map] at h
  | ok t =>
    rw [hp] at h
    obtain rfl := Except.ok.inj h
    exact ⟨rfl, rfl⟩

lemma IsCopy.flightId {c : ArchivedFlight} (h : IsCopy now before o c) : c.flightId = o.pk := by
  obtain ⟨-, landed, -, -, -, hrow⟩ := h
  exact (archiveRow_ok hrow).1

lemma IsCopy.archivedAt {c : ArchivedFlight} (h : IsCopy now before o c) :
    c.row.archivedAt = now := by
  obtain ⟨-, landed, -, -, -, hrow⟩ := h
  exact (archiveRow_ok hrow).2

lemma IsCopy.settled {c : ArchivedFlight} (h : IsCopy now before o c) : Settled before o := by
  obtain ⟨hcompleted, landed, hparse, hlt, -, -⟩ := h
  exact ⟨hcompleted, by rw [LandedBefore, hparse]; exact hlt⟩

/-- The copies that the rows of the groups are. -/
def groupCopies (groups : List (Date × List ArchiveRow)) : List ArchivedFlight :=
  groups.flatMap fun g => g.2.map (ArchivedFlight.mk g.1)

lemma groupCopies_cons (g : Date × List ArchiveRow) (groups : List (Date × List ArchiveRow)) :
    groupCopies (g :: groups) = g.2.map (ArchivedFlight.mk g.1) ++ groupCopies groups := by
  simp [groupCopies]

lemma groupCopies_addRow (date : Date) (row : ArchiveRow)
    (groups : List (Date × List ArchiveRow)) :
    (groupCopies (addRow date row groups)).Perm (⟨date, row⟩ :: groupCopies groups) := by
  induction groups with
  | nil => simp [addRow, groupCopies]
  | cons g groups ih =>
    obtain ⟨d, rows⟩ := g
    rw [addRow]
    split_ifs with hd
    · subst hd
      rw [groupCopies_cons, groupCopies_cons, List.map_append, List.append_assoc]
      exact List.perm_middle
    · rw [groupCopies_cons, groupCopies_cons]
      exact (ih.append_left _).trans List.perm_middle

/-- The flight ids of the groups. -/
lemma map_flightId_groups (groups : List (Date × List ArchiveRow)) :
    (groups.flatMap Prod.snd).map ArchiveRow.flightId =
      (groupCopies groups).map ArchivedFlight.flightId := by
  induction groups with
  | nil => rfl
  | cons g groups ih =>
    rw [groupCopies_cons, List.map_append, ← ih, List.flatMap_cons, List.map_append, List.map_map]
    rfl

/-- The copies of the groups are those of the eligible flights, one each. -/
lemma rowsByDate_ok (h : rowsByDate now eligible groups = .ok groups') :
    ((groupCopies groups').map ArchivedFlight.flightId).Perm
      ((groupCopies groups).map ArchivedFlight.flightId ++ eligible.map fun e => e.1.pk) ∧
    ∀ c ∈ groupCopies groups', c ∈ groupCopies groups ∨
      ∃ e ∈ eligible, c.landedDate = utcDate e.2 ∧ archiveRow e.1 e.2 now = .ok c.row := by
  induction eligible generalizing groups with
  | nil =>
    obtain rfl := Except.ok.inj h
    simp
  | cons e eligible ih =>
    obtain ⟨o, landed⟩ := e
    rw [rowsByDate] at h
    split at h
    next => simp at h
    next row hrow =>
      obtain ⟨hperm, hmem⟩ := ih h
      have hadd := groupCopies_addRow (utcDate landed) row groups
      constructor
      · refine hperm.trans (((hadd.map _).append_right _).trans ?_)
        rw [List.map_cons, List.map_cons]
        show (row.flightId :: _ ++ _).Perm _
        rw [(archiveRow_ok hrow).1, List.cons_append]
        exact List.perm_middle.symm
      · intro c hc
        rcases hmem c hc with hc | ⟨e, he, hcopy⟩
        · rcases List.mem_cons.mp (hadd.mem_iff.mp hc) with rfl | hc
          · exact .inr ⟨(o, landed), List.mem_cons_self, rfl, hrow⟩
          · exact .inl hc
        · exact .inr ⟨e, List.mem_cons_of_mem _ he, hcopy⟩

/-! ### Writes and deletes -/

/-- Writing appends writes of rows of the groups to the trace; when nothing raises, what can be read
is a part of them. -/
lemma writeGroups_spec (faults : Faults) (groups : List (Date × List ArchiveRow))
    (trace : List ArchiveEvent) :
    ∃ evs, (writeGroups faults groups trace).2 = trace ++ evs ∧
      (∀ e ∈ evs, ∃ copies, e = .write copies ∧ ∀ c ∈ copies, c ∈ groupCopies groups) ∧
      ∀ files, (writeGroups faults groups trace).1 = .ok files →
        written evs = files ∧ files.Sublist (groupCopies groups) := by
  induction groups generalizing trace with
  | nil =>
    refine ⟨[], by simp [writeGroups], by simp, fun files h => ?_⟩
    obtain rfl := Except.ok.inj h
    simp
  | cons g groups ih =>
    obtain ⟨date, rows⟩ := g
    rw [writeGroups]
    cases hw : faults.write trace with
    | none => exact ⟨[], by simp, by simp, by simp⟩
    | some keep =>
      have hfile : ((rows.filter keep).map (ArchivedFlight.mk date)).Sublist
          (rows.map (ArchivedFlight.mk date)) := List.filter_sublist.map _
      simp only
      generalize (rows.filter keep).map (ArchivedFlight.mk date) = file at hfile ⊢
      obtain ⟨evs, htrace, hevs, hfiles⟩ := ih (trace ++ [.write file])
      have hwrites : ∀ e ∈ .write file :: evs, ∃ copies, e = .write copies ∧
          ∀ c ∈ copies, c ∈ groupCopies ((date, rows) :: groups) := by
        intro e he
        rw [groupCopies_cons]
        rcases List.mem_cons.mp he with rfl | he
        · exact ⟨file, rfl, fun c hc => List.mem_append_left _ (hfile.subset hc)⟩
        · obtain ⟨copies, rfl, hcopies⟩ := hevs e he
          exact ⟨copies, rfl, fun c hc => List.mem_append_right _ (hcopies c hc)⟩
      rcases hrest : writeGroups faults groups (trace ++ [.write file]) with ⟨e | files, trace'⟩
      · rw [hrest] at htrace ⊢
        exact ⟨.write file :: evs, by simpa using htrace, hwrites, by simp⟩
      · rw [hrest] at htrace hfiles ⊢
        refine ⟨.write file :: evs, by simpa using htrace, hwrites, fun files' h => ?_⟩
        obtain rfl := Except.ok.inj h
        obtain ⟨hwritten, hsub⟩ := hfiles files rfl
        rw [← List.singleton_append, written_append, written_write, hwritten, groupCopies_cons]
        exact ⟨rfl, hfile.append hsub⟩

/-- Deleting appends deletes of the chunks; when nothing raises, all of them are counted. -/
lemma deleteChunks_spec (faults : Faults) (ids : List (List String)) (trace : List ArchiveEvent) :
    ∃ evs, (deleteChunks faults ids trace).2 = trace ++ evs ∧
      (∀ e ∈ evs, ∃ chunk applied, e = .delete chunk applied ∧ chunk ∈ ids) ∧
      ∀ n, (deleteChunks faults ids trace).1 = .ok n → n = ids.flatten.length := by
  induction ids generalizing trace with
  | nil =>
    refine ⟨[], by simp [deleteChunks], by simp, fun n h => ?_⟩
    obtain rfl := Except.ok.inj h
    rfl
  | cons chunk later ih =>
    rw [deleteChunks]
    cases hd : faults.delete trace with
    | failed applied =>
      refine ⟨[.delete chunk applied], rfl, fun e he => ?_, by simp⟩
      exact ⟨chunk, applied, List.mem_singleton.mp he, List.mem_cons_self⟩
    | deleted =>
      obtain ⟨evs, htrace, hevs, hcount⟩ := ih (trace ++ [.delete chunk true])
      have hdeletes : ∀ e ∈ .delete chunk true :: evs, ∃ c applied, e = .delete c applied ∧
          c ∈ chunk :: later := by
        intro e he
        rcases List.mem_cons.mp he with rfl | he
        · exact ⟨chunk, true, rfl, List.mem_cons_self⟩
        · obtain ⟨c, applied, rfl, hc⟩ := hevs e he
          exact ⟨c, applied, rfl, List.mem_cons_of_mem _ hc⟩
      simp only
      rcases hrest : deleteChunks faults later (trace ++ [.delete chunk true]) with ⟨e | n, trace'⟩
      · rw [hrest] at htrace ⊢
        exact ⟨.delete chunk true :: evs, by simpa using htrace, hdeletes, by simp⟩
      · rw [hrest] at htrace hcount ⊢
        refine ⟨.delete chunk true :: evs, by simpa using htrace, hdeletes, fun n' h => ?_⟩
        obtain rfl := Except.ok.inj h
        rw [hcount n rfl, List.flatten_cons, List.length_append]

lemma deleteChunks_error {ids : List (List String)} {e : ArchiveError}
    (h : (deleteChunks faults ids trace).1 = .error e) : e = .skipped := by
  induction ids generalizing trace with
  | nil => simp [deleteChunks] at h
  | cons chunk later ih =>
    rw [deleteChunks] at h
    split at h
    next => exact (Except.error.inj h).symm
    next =>
      split at h
      next => simp at h
      next hrest =>
        obtain rfl := Except.error.inj h
        exact ih (by rw [hrest])

lemma deleteFlightBatch_spec (faults : Faults) (ids : List String) (trace : List ArchiveEvent) :
    ∃ evs, (deleteFlightBatch faults ids trace).2 = trace ++ evs ∧
      (∀ e ∈ evs, ∃ chunk applied, e = .delete chunk applied ∧ ∀ id ∈ chunk, id ∈ ids) ∧
      ∀ n, (deleteFlightBatch faults ids trace).1 = .ok n → n = ids.length := by
  have hsize : 0 < maxBatch := by decide
  have hflatten := flatten_chunks hsize ids
  obtain ⟨evs, htrace, hevs, hcount⟩ := deleteChunks_spec faults (chunks maxBatch ids) trace
  refine ⟨evs, htrace, fun e he => ?_, fun n hn => by rw [hcount n hn, hflatten]⟩
  obtain ⟨chunk, applied, rfl, hchunk⟩ := hevs e he
  exact ⟨chunk, applied, rfl, fun id hid => hflatten ▸ List.mem_flatten_of_mem hchunk hid⟩

/-! ### A page -/

/-- The flight can be moved, and has landed at the given time. -/
def Movable (source : Table OntologyObject.pk) (before : Instant) (e : OntologyObject × Instant) :
    Prop :=
  e.1 ∈ source.rows ∧ Completed e.1 ∧ parseIso (e.1.get "landedAt") = .ok (some e.2) ∧ e.2 < before

/-- From one state of a run to a later one the flights `moved` have been moved. -/
structure Moves (st st' : ArchiveState) (moved : List OntologyObject) : Prop where
  archived : st'.archived = st.archived + moved.length
  deleted : st'.deleted = st.deleted + moved.length
  written : ((written st'.trace).map ArchivedFlight.flightId).Perm
    ((written st.trace).map ArchivedFlight.flightId ++ moved.map OntologyObject.pk)

/-- The calls of a run are in order. -/
abbrev RunVerified (source : Table OntologyObject.pk) (now before : Instant)
    (trace : List ArchiveEvent) : Prop :=
  Verified source ArchivedFlight.flightId (IsCopy now before) trace

variable {source : Table OntologyObject.pk} {st st' : ArchiveState} {cap : ℕ}
  {page moved : List OntologyObject}

lemma Moves.nil (harchived : st'.archived = st.archived) (hdeleted : st'.deleted = st.deleted)
    (htrace : st'.trace = st.trace) : Moves st st' [] :=
  ⟨harchived, hdeleted, by simp [htrace]⟩

lemma Moves.trans {st'' : ArchiveState} {moved' : List OntologyObject} (h : Moves st st' moved)
    (h' : Moves st' st'' moved') : Moves st st'' (moved ++ moved') where
  archived := by rw [h'.archived, h.archived, List.length_append, Nat.add_assoc]
  deleted := by rw [h'.deleted, h.deleted, List.length_append, Nat.add_assoc]
  written := by
    rw [List.map_append, ← List.append_assoc]
    exact h'.written.trans (h.written.append_right _)

/-- The writes of a page copy flights of the tenant. -/
lemma writes_eventOk (helig : ∀ e ∈ eligible, Movable source before e)
    (hgroups : rowsByDate now eligible [] = .ok groups) {copies : List ArchivedFlight}
    (hcopies : ∀ c ∈ copies, c ∈ groupCopies groups) :
    EventOk source ArchivedFlight.flightId (IsCopy now before) trace (.write copies) := by
  intro c hc
  rcases (rowsByDate_ok hgroups).2 c (hcopies c hc) with hnil | ⟨e, he, hdate, hrow⟩
  · simp [groupCopies] at hnil
  · obtain ⟨hmem, hcompleted, hparse, hlt⟩ := helig e he
    exact ⟨e.1, hmem, hcompleted, e.2, hparse, hlt, hdate, hrow⟩

/-- When the flights are distinct and the verification passes, each has been written once. -/
lemma files_eq_groupCopies {files : List ArchivedFlight}
    (hnodup : ((groupCopies groups).map ArchivedFlight.flightId).Nodup)
    (hsub : files.Sublist (groupCopies groups))
    (hread : ∀ c ∈ groupCopies groups, c.flightId ∈ files.map ArchivedFlight.flightId) :
    files = groupCopies groups := by
  have hsubset : (groupCopies groups).map ArchivedFlight.flightId ⊆
      files.map ArchivedFlight.flightId := by
    intro id hid
    obtain ⟨c, hc, rfl⟩ := List.mem_map.mp hid
    exact hread c hc
  have hlen := (List.subperm_of_subset hnodup hsubset).length_le
  rw [List.length_map, List.length_map] at hlen
  exact hsub.eq_of_length_le hlen

/-- Nothing is deleted that has not been read back, and nothing at all when the verification
fails. -/
lemma verifyThenDelete_spec (faults : Faults) (source : Table OntologyObject.pk)
    (now before : Instant) (writtenIds : List String) {files : List ArchivedFlight}
    (hfiles : ∀ c ∈ files, c ∈ written st.trace) :
    ∃ evs, (verifyThenDelete faults writtenIds files st).2.trace = st.trace ++ evs ∧
      (RunVerified source now before st.trace → RunVerified source now before (st.trace ++ evs)) ∧
      (∀ missing total sample, (verifyThenDelete faults writtenIds files st).1 =
        .error (.verifyFailed missing total sample) → ∀ ids applied, .delete ids applied ∉ evs) := by
  rw [verifyThenDelete]
  cases hread : faults.read st.trace with
  | none => exact ⟨[], by simp, by simp, by simp⟩
  | some sees =>
    simp only
    generalize hback : (files.filter sees).map ArchivedFlight.flightId = readback
    have hok : EventOk source ArchivedFlight.flightId (IsCopy now before) st.trace
        (.readBack readback) := by
      intro id hid
      rw [← hback] at hid
      obtain ⟨c, hc, hcid⟩ := List.mem_map.mp hid
      exact ⟨c, hfiles c (List.mem_of_mem_filter hc), hcid⟩
    split_ifs with hmissing
    · exact ⟨[.readBack readback], rfl, fun h => h.concat hok, by simp⟩
    · have hsees : ∀ id ∈ writtenIds, id ∈ readback := by
        simpa [List.filter_eq_nil_iff] using hmissing
      obtain ⟨evs, htrace, hevs, -⟩ := deleteFlightBatch_spec faults
        (sortedIds writtenIds) (st.trace ++ [.readBack readback])
      have hdeletes : ∀ e ∈ evs, EventOk source ArchivedFlight.flightId (IsCopy now before)
          (st.trace ++ [.readBack readback]) e := by
        intro e he
        obtain ⟨ids, applied, rfl, hids⟩ := hevs e he
        intro id hid
        have hwritten := mem_sortedIds.mp (hids id hid)
        exact ⟨readback, by simp, hsees id hwritten⟩
      refine ⟨[.readBack readback] ++ evs, ?_, fun h => ?_, fun missing total sample h => ?_⟩
      · rw [← List.append_assoc, ← htrace]
        split <;> simp_all
      · rw [← List.append_assoc]
        exact (h.concat hok).append hdeletes
      · split at h
        next e _ hd =>
          obtain rfl := Except.error.inj h
          simpa using deleteChunks_error (congrArg Prod.fst hd)
        next => simp at h

lemma deleteFlightBatch_written (faults : Faults) (ids : List String)
    (trace : List ArchiveEvent) :
    written (deleteFlightBatch faults ids trace).2 = written trace := by
  obtain ⟨evs, htrace, hevs, -⟩ := deleteFlightBatch_spec faults ids trace
  have hnone : written evs = [] := by
    refine written_eq_nil fun e he => ?_
    obtain ⟨chunk, applied, rfl, -⟩ := hevs e he
    exact ⟨chunk, applied, rfl⟩
  rw [htrace, written_append, hnone, List.append_nil]

/-- Verifying and deleting write nothing. -/
lemma verifyThenDelete_written {writtenIds : List String} {files : List ArchivedFlight} :
    written (verifyThenDelete faults writtenIds files st).2.trace = written st.trace := by
  rw [verifyThenDelete]
  cases faults.read st.trace with
  | none => rfl
  | some sees =>
    simp only
    have hdelete := deleteFlightBatch_written faults (sortedIds writtenIds)
      (st.trace ++ [.readBack ((files.filter sees).map ArchivedFlight.flightId)])
    rw [written_append, written_readBack, List.append_nil] at hdelete
    split_ifs
    · simp
    · split
      next hd => rwa [hd] at hdelete
      next hd => rwa [hd] at hdelete

/-- When nothing raises, all that was to be written can be read, and the deletes go through. -/
lemma verifyThenDelete_ok_cases {writtenIds : List String} {files : List ArchivedFlight}
    (h : (verifyThenDelete faults writtenIds files st).1 = .ok ()) : ∃ sees n trace,
      (∀ id ∈ writtenIds, ∃ c ∈ files, sees c ∧ c.flightId = id) ∧
      deleteFlightBatch faults (sortedIds writtenIds)
        (st.trace ++ [.readBack ((files.filter sees).map ArchivedFlight.flightId)]) =
          (.ok n, trace) ∧
      (verifyThenDelete faults writtenIds files st).2 =
        { st with trace, archived := st.archived + writtenIds.length, deleted := st.deleted + n } := by
  unfold verifyThenDelete at h ⊢
  cases hread : faults.read st.trace with
  | none => simp [hread] at h
  | some sees =>
    simp only [hread] at h ⊢
    split_ifs at h ⊢ with hmissing
    split at h
    next => simp at h
    next n trace hd =>
      have hsees : ∀ id ∈ writtenIds, ∃ c ∈ files, sees c ∧ c.flightId = id := by
        simpa [List.filter_eq_nil_iff, and_assoc] using hmissing
      exact ⟨sees, n, trace, hsees, hd, rfl⟩

/-- All that was to be written is counted as archived and as deleted. -/
lemma verifyThenDelete_ok {writtenIds : List String} {files : List ArchivedFlight}
    (h : (verifyThenDelete faults writtenIds files st).1 = .ok ()) :
    (∀ id ∈ writtenIds, id ∈ files.map ArchivedFlight.flightId) ∧
      (verifyThenDelete faults writtenIds files st).2.archived =
        st.archived + writtenIds.length ∧
      (verifyThenDelete faults writtenIds files st).2.deleted =
        st.deleted + writtenIds.length := by
  obtain ⟨sees, n, trace, hsees, hd, hst⟩ := verifyThenDelete_ok_cases h
  obtain ⟨-, -, -, hcount⟩ := deleteFlightBatch_spec faults (sortedIds writtenIds)
    (st.trace ++ [.readBack ((files.filter sees).map ArchivedFlight.flightId)])
  have hn : n = writtenIds.length := by
    rw [hcount n (by rw [hd]), sortedIds, List.length_insertionSort]
  refine ⟨fun id hid => ?_, by rw [hst], by rw [hst, hn]⟩
  obtain ⟨c, hc, -, hcid⟩ := hsees id hid
  exact List.mem_map.mpr ⟨c, hc, hcid⟩

lemma verifyThenDelete_capped {writtenIds : List String} {files : List ArchivedFlight} :
    (verifyThenDelete faults writtenIds files st).2.capped = st.capped := by
  rw [verifyThenDelete]
  split
  next => rfl
  next =>
    simp only
    split_ifs
    · rfl
    · split <;> rfl

lemma moveFlights_capped : (moveFlights faults now eligible st).2.capped = st.capped := by
  rw [moveFlights]
  split
  next => rfl
  next =>
    split
    next => rfl
    next => exact verifyThenDelete_capped

/-- What the second half of a page does, whatever fails. -/
lemma moveFlights_spec (helig : ∀ e ∈ eligible, Movable source before e) (st : ArchiveState) :
    ∃ evs, (moveFlights faults now eligible st).2.trace = st.trace ++ evs ∧
      (RunVerified source now before st.trace → RunVerified source now before (st.trace ++ evs)) ∧
      (∀ missing total sample,
        (moveFlights faults now eligible st).1 = .error (.verifyFailed missing total sample) →
        ∀ ids applied, .delete ids applied ∉ evs) := by
  rw [moveFlights]
  split
  next e he => exact ⟨[], by simp, by simp, by simp⟩
  next groups hgroups =>
    obtain ⟨writes, htrace, hwrites, hfiles⟩ :=
      writeGroups_spec faults groups st.trace
    have hverified : RunVerified source now before st.trace →
        RunVerified source now before (st.trace ++ writes) := by
      intro h
      refine h.append fun e he => ?_
      obtain ⟨copies, rfl, hcopies⟩ := hwrites e he
      exact writes_eventOk helig hgroups hcopies
    have hnodelete : ∀ ids applied, .delete ids applied ∉ writes := by
      intro ids applied hmem
      obtain ⟨copies, heq, -⟩ := hwrites _ hmem
      simp at heq
    rcases hw : writeGroups faults groups st.trace with ⟨e | files, trace⟩
    · rw [hw] at htrace
      exact ⟨writes, htrace, hverified, fun _ _ _ _ => hnodelete⟩
    · rw [hw] at htrace hfiles
      obtain rfl := htrace
      obtain ⟨hfile, -⟩ := hfiles files rfl
      have hmem : ∀ c ∈ files,
          c ∈ written ({ st with trace := st.trace ++ writes } : ArchiveState).trace := by
        simp +contextual [hfile]
      obtain ⟨evs, htrace, hevs, hfail⟩ := verifyThenDelete_spec faults source now before
        ((groups.flatMap Prod.snd).map ArchiveRow.flightId).dedup hmem
      refine ⟨writes ++ evs, by rw [htrace, List.append_assoc], fun h => ?_, fun _ _ _ h => ?_⟩
      · rw [← List.append_assoc]
        exact hevs (hverified h)
      · intro ids applied hmem
        rcases List.mem_append.mp hmem with hmem | hmem
        · exact hnodelete ids applied hmem
        · exact hfail _ _ _ h ids applied hmem

/-- When nothing raises, the copies of the eligible flights are written, and the rest is to verify
and delete them. -/
lemma moveFlights_ok_cases (h : (moveFlights faults now eligible st).1 = .ok ()) :
    ∃ groups files trace, writeGroups faults groups st.trace = (.ok files, trace) ∧
      ((groupCopies groups).map ArchivedFlight.flightId).Perm (eligible.map fun e => e.1.pk) ∧
      moveFlights faults now eligible st = verifyThenDelete faults
        ((groupCopies groups).map ArchivedFlight.flightId).dedup files { st with trace } := by
  unfold moveFlights at h ⊢
  split at h
  next => simp at h
  next groups hgroups =>
    obtain ⟨hperm, -⟩ := rowsByDate_ok hgroups
    rcases hw : writeGroups faults groups st.trace with ⟨e | files, trace⟩
    · simp [hw] at h
    · refine ⟨groups, files, trace, hw, by simpa [groupCopies] using hperm, ?_⟩
      simp only [map_flightId_groups]

/-- The second half of a page moves its flights when nothing raises. -/
lemma moveFlights_ok (h : (moveFlights faults now eligible st).1 = .ok ())
    (hnodup : (eligible.map fun e => e.1.pk).Nodup) :
    Moves st (moveFlights faults now eligible st).2 (eligible.map Prod.fst) := by
  obtain ⟨groups, files, trace, hw, hperm, hmove⟩ := moveFlights_ok_cases h
  have hgroupNodup := hperm.nodup_iff.mpr hnodup
  obtain ⟨writes, htrace, hwrites, hfiles⟩ := writeGroups_spec faults groups st.trace
  rw [hw] at htrace hfiles
  obtain rfl := htrace
  obtain ⟨hfile, hsub⟩ := hfiles files rfl
  rw [hgroupNodup.dedup] at hmove
  rw [hmove] at h ⊢
  obtain ⟨hread, harchived, hdeleted⟩ := verifyThenDelete_ok h
  have hlen : ((groupCopies groups).map ArchivedFlight.flightId).length =
      (eligible.map Prod.fst).length := by
    rw [hperm.length_eq, List.length_map, List.length_map]
  refine ⟨by rw [harchived, hlen], by rw [hdeleted, hlen], ?_⟩
  rw [verifyThenDelete_written, written_append, hfile, List.map_append,
    files_eq_groupCopies hgroupNodup hsub fun c hc => hread _ (List.mem_map_of_mem hc),
    List.map_map]
  exact hperm.append_left _

/-- The eligible flights of a page are those that have landed before the grace window. -/
lemma scanPage_ok {os : List OntologyObject} {retentionBefore : Instant} {past : ℕ}
    (h : scanPage before retentionBefore os = .ok (eligible, past)) :
    eligible.map Prod.fst = os.filter (fun o => decide (LandedBefore before o)) ∧
      ∀ e ∈ eligible, parseIso (e.1.get "landedAt") = .ok (some e.2) ∧ e.2 < before := by
  induction os generalizing eligible past with
  | nil =>
    simp only [scanPage, Except.ok.injEq, Prod.mk.injEq] at h
    obtain ⟨rfl, -⟩ := h
    simp
  | cons o os ih =>
    rw [scanPage] at h
    split at h
    next => simp at h
    next hparse =>
      obtain ⟨hmap, hmem⟩ := ih h
      exact ⟨by rw [List.filter_cons_of_neg (by simp [LandedBefore, hparse]), hmap], hmem⟩
    next landed hparse =>
      rcases hrest : scanPage before retentionBefore os with e | ⟨eligible', past'⟩
      · simp [hrest, Except.map] at h
      · obtain ⟨hmap, hmem⟩ := ih hrest
        simp only [hrest, Except.map, Except.ok.injEq, Prod.mk.injEq] at h
        obtain ⟨rfl, -⟩ := h
        have hlanded : LandedBefore before o ↔ landed < before := by rw [LandedBefore, hparse]
        by_cases hlt : landed < before
        · rw [if_pos hlt, List.map_cons, hmap, List.filter_cons_of_pos (by simpa [hlanded])]
          refine ⟨rfl, fun e he => ?_⟩
          rcases List.mem_cons.mp he with rfl | he
          · exact ⟨hparse, hlt⟩
          · exact hmem e he
        · rw [if_neg hlt, hmap, List.filter_cons_of_neg (by simpa [hlanded] using hlt)]
          exact ⟨rfl, hmem⟩

/-- What a page does, whatever fails. -/
lemma archivePage_spec (faults : Faults) (now grace retention : Instant) (cap : ℕ)
    (hpage : ∀ o ∈ page, o ∈ source.rows) (st : ArchiveState) :
    ∃ evs, (archivePage faults now grace cap retention page st).2.trace = st.trace ++ evs ∧
      (RunVerified source now (now - grace) st.trace →
        RunVerified source now (now - grace) (st.trace ++ evs)) ∧
      (∀ missing total sample, (archivePage faults now grace cap retention page st).1 =
        .error (.verifyFailed missing total sample) → ∀ ids applied, .delete ids applied ∉ evs) := by
  rw [archivePage]
  simp only
  split
  next => exact ⟨[], by simp, by simp, by simp⟩
  next eligible past hscan =>
    split_ifs with hnil hroom
    · exact ⟨[], by simp, by simp, by simp⟩
    · exact ⟨[], by simp, by simp, by simp⟩
    · obtain ⟨hmap, hmem⟩ := scanPage_ok hscan
      refine moveFlights_spec (fun e he => ?_) _
      replace he := List.mem_of_mem_take he
      have hfst : e.1 ∈ eligible.map Prod.fst := List.mem_map_of_mem he
      rw [hmap, List.mem_filter, List.mem_filter, decide_eq_true_eq] at hfst
      exact ⟨hpage e.1 hfst.1.1, hfst.1.2, hmem e he⟩

lemma filter_settled (page : List OntologyObject) :
    (page.filter fun o => decide (Completed o)).filter (fun o => decide (LandedBefore before o)) =
      page.filter fun o => decide (Settled before o) := by
  rw [List.filter_filter]
  refine List.filter_congr fun o _ => ?_
  rw [Bool.and_comm, ← Bool.decide_and]
  rfl

/-- A page that ends moves its settled flights, up to the cap. -/
lemma archivePage_ok (h : (archivePage faults now grace cap retention page st).1 = .ok ())
    (hnodup : (page.map OntologyObject.pk).Nodup) (hcapped : st.capped = false)
    (hle : st.archived ≤ cap) :
    ∃ moved left, moved ++ left = page.filter (fun o => decide (Settled (now - grace) o)) ∧
      Moves st (archivePage faults now grace cap retention page st).2 moved ∧
      ((archivePage faults now grace cap retention page st).2.capped = true ↔ left ≠ []) ∧
      (archivePage faults now grace cap retention page st).2.archived ≤ cap := by
  unfold archivePage at h ⊢
  simp only at h ⊢
  split at h
  next => simp at h
  next eligible past hscan =>
    obtain ⟨hmap, -⟩ := scanPage_ok hscan
    rw [filter_settled] at hmap
    rw [← hmap]
    split_ifs at h ⊢ with hnil hroom
    · exact ⟨[], [], by simp [hnil], Moves.nil rfl rfl rfl, by simp [hcapped], hle⟩
    · exact ⟨[], eligible.map Prod.fst, rfl, Moves.nil rfl rfl rfl, by simp [hnil], hle⟩
    · have hpks : ((eligible.take (cap - st.archived)).map fun e => e.1.pk).Nodup := by
        have hsub : ((eligible.map Prod.fst).map OntologyObject.pk).Sublist
            (page.map OntologyObject.pk) := by
          rw [hmap]
          exact List.filter_sublist.map _
        rw [List.map_map] at hsub
        exact ((List.take_sublist _ _).map _).nodup (hsub.nodup hnodup)
      have hmoves := moveFlights_ok h hpks
      refine ⟨(eligible.take (cap - st.archived)).map Prod.fst,
        (eligible.drop (cap - st.archived)).map Prod.fst, ?_, ?_, ?_, ?_⟩
      · rw [← List.map_append, List.take_append_drop]
      · exact ⟨hmoves.archived, hmoves.deleted, hmoves.written⟩
      · rw [moveFlights_capped]
        simp [hcapped]
      · rw [hmoves.archived, List.length_map, List.length_take]
        change st.archived + _ ≤ cap
        omega

/-! ### Deletes -/

/-- The trace has deleted the flight. -/
def DeletedIn (trace : List ArchiveEvent) (id : String) : Prop :=
  ∃ ids, .delete ids true ∈ trace ∧ id ∈ ids

lemma DeletedIn.append {more : List ArchiveEvent} {id : String} (h : DeletedIn trace id) :
    DeletedIn (trace ++ more) id := by
  obtain ⟨ids, hdel, hid⟩ := h
  exact ⟨ids, List.mem_append_left _ hdel, hid⟩

/-- When nothing raises, every chunk has been deleted. -/
lemma deleteChunks_deleted {ids : List (List String)} {n : ℕ}
    (h : (deleteChunks faults ids trace).1 = .ok n) {id : String} (hid : id ∈ ids.flatten) :
    DeletedIn (deleteChunks faults ids trace).2 id := by
  induction ids generalizing trace n with
  | nil => simp at hid
  | cons chunk later ih =>
    obtain ⟨evs, htrace, -, -⟩ := deleteChunks_spec faults later (trace ++ [.delete chunk true])
    rw [deleteChunks] at h ⊢
    split at h
    next => simp at h
    next =>
      split at h
      next m trace' hrest =>
        rw [List.flatten_cons, List.mem_append] at hid
        rcases hid with hid | hid
        · have hchunk : DeletedIn (trace ++ [.delete chunk true]) id := ⟨chunk, by simp, hid⟩
          have hall : DeletedIn (trace ++ [.delete chunk true] ++ evs) id := hchunk.append
          rwa [← htrace, hrest] at hall
        · have hlater := ih (congrArg Prod.fst hrest) hid
          rwa [hrest] at hlater
      next => simp at h

/-- What has been written is deleted when nothing raises. -/
lemma verifyThenDelete_deleted {writtenIds : List String} {files : List ArchivedFlight}
    (h : (verifyThenDelete faults writtenIds files st).1 = .ok ()) {id : String}
    (hid : id ∈ writtenIds) :
    DeletedIn (verifyThenDelete faults writtenIds files st).2.trace id := by
  obtain ⟨sees, n, trace, -, hd, hst⟩ := verifyThenDelete_ok_cases h
  have hsize : 0 < maxBatch := by decide
  have hmem : id ∈ (chunks maxBatch (sortedIds writtenIds)).flatten := by
    rwa [flatten_chunks hsize, mem_sortedIds]
  have hdeleted := deleteChunks_deleted (congrArg Prod.fst hd) hmem
  rw [← deleteFlightBatch, hd] at hdeleted
  rw [hst]
  exact hdeleted

lemma moveFlights_deleted (h : (moveFlights faults now eligible st).1 = .ok ())
    {e : OntologyObject × Instant} (he : e ∈ eligible) :
    DeletedIn (moveFlights faults now eligible st).2.trace e.1.pk := by
  obtain ⟨groups, files, trace, -, hperm, hmove⟩ := moveFlights_ok_cases h
  rw [hmove] at h ⊢
  refine verifyThenDelete_deleted h ?_
  rw [List.mem_dedup, hperm.mem_iff]
  exact List.mem_map_of_mem (f := fun e => e.1.pk) he

/-- The calls so far stay in the trace. -/
lemma archivePage_trace (hpage : ∀ o ∈ page, o ∈ source.rows) {id : String}
    (h : DeletedIn st.trace id) :
    DeletedIn (archivePage faults now grace cap retention page st).2.trace id := by
  obtain ⟨evs, htrace, -, -⟩ := archivePage_spec faults now grace retention cap hpage st
  exact htrace ▸ h.append

/-- A page that ends below the cap deletes its settled flights. -/
lemma archivePage_deleted (h : (archivePage faults now grace cap retention page st).1 = .ok ())
    (hcapped : (archivePage faults now grace cap retention page st).2.capped = false)
    (ho : o ∈ page) (hsettled : Settled (now - grace) o) :
    DeletedIn (archivePage faults now grace cap retention page st).2.trace o.pk := by
  unfold archivePage at h hcapped ⊢
  rcases hscan : scanPage (now - grace) (now - retention)
    (page.filter fun o => decide (Completed o)) with e | ⟨eligible, past⟩
  · simp [hscan] at h
  · simp only [hscan] at h hcapped ⊢
    obtain ⟨hmap, -⟩ := scanPage_ok hscan
    have hmem : o ∈ eligible.map Prod.fst := by
      rw [hmap, filter_settled, List.mem_filter, decide_eq_true_eq]
      exact ⟨ho, hsettled⟩
    split_ifs at h hcapped ⊢ with hnil hroom
    · simp [hnil] at hmem
    · rw [moveFlights_capped] at hcapped
      have htake : eligible.take (cap - st.archived) = eligible := by
        refine List.take_of_length_le ?_
        simpa using (Bool.or_eq_false_iff.mp hcapped).2
      obtain ⟨e, he, rfl⟩ := List.mem_map.mp hmem
      exact moveFlights_deleted h (htake.symm ▸ he)

/-! ### The run -/

variable {pages : List (List OntologyObject)}

/-- The calls of a run are in order, whatever fails. -/
lemma archivePages_verified (hpages : ∀ o ∈ pages.flatten, o ∈ source.rows)
    (h : RunVerified source now (now - grace) st.trace) :
    RunVerified source now (now - grace)
      (archivePages faults now grace cap retention pages st).2.trace := by
  induction pages generalizing st with
  | nil => exact h
  | cons page pages ih =>
    have hmem : ∀ o ∈ page, o ∈ source.rows := fun o ho => hpages o (by simp [ho])
    obtain ⟨evs, htrace, hevs, -⟩ := archivePage_spec faults now grace retention cap hmem st
    rw [archivePages]
    split_ifs with hfetch
    · exact h
    · have hpage := htrace ▸ hevs h
      split
      next e st' hrun => simpa [hrun] using hpage
      next st' hrun =>
        rw [hrun] at hpage
        split_ifs
        · exact hpage
        · exact ih (fun o ho => hpages o (List.mem_append_right _ ho)) hpage

/-- When the verification fails, it does so in a page after pages that have gone through. -/
lemma archivePages_verifyFailed {missing total : ℕ} {sample : List String}
    (h : (archivePages faults now grace cap retention pages st).1 =
      .error (.verifyFailed missing total sample)) :
    ∃ earlier page later, pages = earlier ++ page :: later ∧
      archivePages faults now grace cap retention pages st =
        archivePage faults now grace cap retention page
          (archivePages faults now grace cap retention earlier st).2 := by
  induction pages generalizing st with
  | nil => simp [archivePages] at h
  | cons page pages ih =>
    rw [archivePages] at h ⊢
    split_ifs at h ⊢ with hfetch
    · simp at h
    split at h
    next e st' hrun => exact ⟨[], page, pages, rfl, hrun.symm⟩
    next st' hrun =>
      split_ifs at h ⊢ with hcapped
      obtain ⟨earlier, page', later, rfl, heq⟩ := ih h
      refine ⟨page :: earlier, page', later, rfl, ?_⟩
      rw [heq, archivePages, if_neg hfetch, hrun]
      simp [hcapped]

/-- A run that ends moves the settled flights, up to the cap. -/
lemma archivePages_ok (h : (archivePages faults now grace cap retention pages st).1 = .ok ())
    (hnodup : (pages.flatten.map OntologyObject.pk).Nodup) (hcapped : st.capped = false)
    (hle : st.archived ≤ cap) :
    ∃ moved left, moved ++ left =
        pages.flatten.filter (fun o => decide (Settled (now - grace) o)) ∧
      Moves st (archivePages faults now grace cap retention pages st).2 moved ∧
      ((archivePages faults now grace cap retention pages st).2.capped = true ↔ left ≠ []) ∧
      (archivePages faults now grace cap retention pages st).2.archived ≤ cap := by
  induction pages generalizing st with
  | nil => exact ⟨[], [], rfl, Moves.nil rfl rfl rfl, by simp [archivePages, hcapped], hle⟩
  | cons page pages ih =>
    rw [List.flatten_cons, List.map_append, List.nodup_append] at hnodup
    rw [archivePages] at h ⊢
    split_ifs at h ⊢ with hfetch
    split at h
    next => simp at h
    next st' hrun =>
      obtain ⟨moved, left, hpage, hmoves, hleft, hle'⟩ :=
        archivePage_ok (by rw [hrun]) hnodup.1 hcapped hle
      rw [hrun] at hmoves hleft hle'
      rw [List.flatten_cons, List.filter_append, ← hpage]
      split_ifs at h ⊢ with hcapped'
      · refine ⟨moved, left ++ pages.flatten.filter _, by rw [List.append_assoc], hmoves, ?_, hle'⟩
        simp [hcapped', hleft.mp hcapped']
      · obtain rfl : left = [] := by
          by_contra hne
          exact hcapped' (hleft.mpr hne)
        obtain ⟨moved', left', hpages, hmoves', hleft', hle''⟩ :=
          ih h hnodup.2.1 (by simpa using hcapped') hle'
        exact ⟨moved ++ moved', left', by rw [List.append_nil, List.append_assoc, hpages],
          hmoves.trans hmoves', hleft', hle''⟩

lemma archivePages_trace (hpages : ∀ o ∈ pages.flatten, o ∈ source.rows) {id : String}
    (h : DeletedIn st.trace id) :
    DeletedIn (archivePages faults now grace cap retention pages st).2.trace id := by
  induction pages generalizing st with
  | nil => exact h
  | cons page pages ih =>
    have hmem : ∀ o ∈ page, o ∈ source.rows := fun o ho => hpages o (by simp [ho])
    rw [archivePages]
    split_ifs
    · exact h
    · split
      next e st' hrun => exact congrArg Prod.snd hrun ▸ archivePage_trace hmem h
      next st' hrun =>
        have hpage : DeletedIn (archivePage faults now grace cap retention page st).2.trace id :=
          archivePage_trace hmem h
        rw [hrun] at hpage
        split_ifs
        · exact hpage
        · exact ih (fun o ho => hpages o (List.mem_append_right _ ho)) hpage

/-- A run that ends below the cap deletes the settled flights. -/
lemma archivePages_deleted (hpages : ∀ o ∈ pages.flatten, o ∈ source.rows)
    (h : (archivePages faults now grace cap retention pages st).1 = .ok ())
    (hcapped : (archivePages faults now grace cap retention pages st).2.capped = false)
    (ho : o ∈ pages.flatten) (hsettled : Settled (now - grace) o) :
    DeletedIn (archivePages faults now grace cap retention pages st).2.trace o.pk := by
  induction pages generalizing st with
  | nil => simp at ho
  | cons page pages ih =>
    have hlater : ∀ o ∈ pages.flatten, o ∈ source.rows :=
      fun o ho => hpages o (List.mem_append_right _ ho)
    rw [archivePages] at h hcapped ⊢
    split_ifs at h hcapped ⊢
    · rcases hrun : archivePage faults now grace cap retention page st with ⟨e | _, st'⟩
      · simp [hrun] at h
      · simp only [hrun] at h hcapped ⊢
        split_ifs at h hcapped ⊢ with hst
        · simp [hst] at hcapped
        · rw [List.flatten_cons, List.mem_append] at ho
          rcases ho with ho | ho
          · have hpage := archivePage_deleted (congrArg Prod.fst hrun)
              (by rw [hrun]; simpa using hst) ho hsettled
            rw [hrun] at hpage
            exact archivePages_trace hlater hpage
          · exact ih hlater h hcapped ho

variable {start : Stores OntologyObject.pk ArchivedFlight}

lemma runFlightArchive_trace :
    (runFlightArchive faults start pages now grace cap retention).2 =
      (archivePages faults now grace cap retention pages {}).2.trace := by
  rw [runFlightArchive]
  split
  next h => rw [h]
  next h => rw [h]

lemma runFlightArchive_error {e : ArchiveError}
    (h : (runFlightArchive faults start pages now grace cap retention).1 = .error e) :
    (archivePages faults now grace cap retention pages {}).1 = .error e := by
  rw [runFlightArchive] at h
  split at h
  next hrun => rw [hrun, Except.error.inj h]
  next => simp at h

/-- What a run that ends reports. -/
lemma runFlightArchive_ok {result : FlightArchiveResult}
    (h : (runFlightArchive faults start pages now grace cap retention).1 = .ok result) :
    ∃ st, archivePages faults now grace cap retention pages {} = (.ok (), st) ∧
      result.deleted = st.deleted ∧ result.archived = st.archived ∧ result.capped = st.capped ∧
      result.archivedPersisted = if st.archived = 0 then 0
        else (start.after st.trace).copies.countP fun c => decide (c.row.archivedAt = now) := by
  rw [runFlightArchive] at h
  split at h
  next => simp at h
  next st hrun =>
    obtain rfl := Except.ok.inj h
    exact ⟨st, hrun, rfl, rfl, rfl, rfl⟩

/-- The calls of the archive are in order, whatever fails. -/
lemma runFlightArchive_verified (hpages : ∀ o, o ∈ pages.flatten ↔ o ∈ start.source.rows) :
    RunVerified start.source now (now - grace)
      (runFlightArchive faults start pages now grace cap retention).2 := by
  rw [runFlightArchive_trace]
  exact archivePages_verified (fun o ho => (hpages o).mp ho) verified_nil

/-- The rows that carry the stamp of a run are those that it has written. -/
lemma countP_archivedAt (hverified : RunVerified start.source now before trace)
    (hfresh : ∀ c ∈ start.copies, c.row.archivedAt ≠ now) :
    ((start.after trace).copies.countP fun c => decide (c.row.archivedAt = now)) =
      (written trace).length := by
  have hold : (start.copies.countP fun c => decide (c.row.archivedAt = now)) = 0 := by
    simpa [List.countP_eq_zero] using hfresh
  have hnew : ((written trace).countP fun c => decide (c.row.archivedAt = now)) =
      (written trace).length := by
    refine List.countP_eq_length.mpr fun c hc => ?_
    obtain ⟨o, -, hcopy⟩ := hverified.isCopy hc
    simpa using hcopy.archivedAt
  rw [copies_after, List.countP_append, hold, hnew, Nat.zero_add]

/-- A flight is left out of a run exactly when no row with the stamp of the run is its row. -/
lemma left_iff {left : List OntologyObject}
    (hpages : ∀ o, o ∈ pages.flatten ↔ o ∈ start.source.rows)
    (hnodup : (pages.flatten.map OntologyObject.pk).Nodup)
    (hsplit : moved ++ left = pages.flatten.filter (fun o => decide (Settled before o)))
    (hwritten : ((written trace).map ArchivedFlight.flightId).Perm (moved.map OntologyObject.pk))
    (hverified : RunVerified start.source now before trace)
    (hfresh : ∀ c ∈ start.copies, c.row.archivedAt ≠ now) :
    left ≠ [] ↔ ∃ o ∈ start.source.rows, Settled before o ∧
      ∀ c ∈ (start.after trace).copies, c.row.archivedAt = now → c.flightId ≠ o.pk := by
  have hmem : ∀ o, o ∈ moved ++ left ↔ o ∈ start.source.rows ∧ Settled before o := by
    intro o
    rw [hsplit, List.mem_filter, hpages, decide_eq_true_eq]
  have hpks : ((moved ++ left).map OntologyObject.pk).Nodup := by
    rw [hsplit]
    exact (List.filter_sublist.map _).nodup hnodup
  rw [List.map_append, List.nodup_append] at hpks
  constructor
  · intro hne
    obtain ⟨o, ho⟩ := List.exists_mem_of_ne_nil left hne
    obtain ⟨hsource, hsettled⟩ := (hmem o).mp (List.mem_append_right _ ho)
    refine ⟨o, hsource, hsettled, fun c hc hnow hid => ?_⟩
    rw [copies_after] at hc
    rcases List.mem_append.mp hc with hc | hc
    · exact hfresh c hc hnow
    · have hmoved := hwritten.mem_iff.mp (List.mem_map_of_mem hc)
      exact hpks.2.2 _ hmoved _ (List.mem_map_of_mem ho) hid
  · rintro ⟨o, hsource, hsettled, hnone⟩ rfl
    have ho : o ∈ moved := by simpa using (hmem o).mpr ⟨hsource, hsettled⟩
    obtain ⟨c, hc, hid⟩ := List.mem_map.mp (hwritten.mem_iff.mpr (List.mem_map_of_mem ho))
    obtain ⟨o', -, hcopy⟩ := hverified.isCopy hc
    refine hnone c ?_ hcopy.archivedAt hid
    rw [copies_after]
    exact List.mem_append_right _ hc

/-- The move is lossless, whatever fails. At every moment each completed flight is in the tenant, or
its row lies in the partition of its landed date; only settled flights are deleted, once they have
been read back; a verification that fails deletes nothing of its page. What a run that ends reports
is what it has done, and it is capped exactly when it has left out a settled flight. -/
theorem flight_archive_lossless (faults : Faults) (start : Stores OntologyObject.pk ArchivedFlight)
    (pages : List (List OntologyObject)) (now grace retention : Instant) (cap : ℕ)
    (hpages : ∀ o, o ∈ pages.flatten ↔ o ∈ start.source.rows) :
    let run := runFlightArchive faults start pages now grace cap retention
    (∀ done, done <+: run.2 → ∀ o ∈ start.source.rows, Completed o →
      o ∈ (start.after done).source.rows ∨ ∃ c ∈ (start.after done).copies, ∃ landed,
        parseIso (o.get "landedAt") = .ok (some landed) ∧ c.landedDate = utcDate landed ∧
          archiveRow o landed now = .ok c.row) ∧
    (∀ done ids applied, done ++ [.delete ids applied] <+: run.2 → ∀ id ∈ ids,
      (∃ o ∈ start.source.rows, o.pk = id ∧ Settled (now - grace) o) ∧
        ∃ read, .readBack read ∈ done ∧ id ∈ read) ∧
    (∀ missing total sample, run.1 = .error (.verifyFailed missing total sample) →
      ∃ earlier page later own, pages = earlier ++ page :: later ∧
        run.2 = (archivePages faults now grace cap retention earlier {}).2.trace ++ own ∧
          ∀ ids applied, .delete ids applied ∉ own) ∧
    ∀ result, run.1 = .ok result → (pages.flatten.map OntologyObject.pk).Nodup →
      (∀ c ∈ start.copies, c.row.archivedAt ≠ now) →
      result.deleted = result.archived ∧ result.archived = result.archivedPersisted ∧
        result.archived ≤ cap ∧
        (result.capped = true ↔ ∃ o ∈ start.source.rows, Settled (now - grace) o ∧
          ∀ c ∈ (start.after run.2).copies, c.row.archivedAt = now → c.flightId ≠ o.pk) := by
  intro run
  have hverified : RunVerified start.source now (now - grace) run.2 :=
    runFlightArchive_verified hpages
  refine ⟨fun done hdone o ho hcompleted => ?_, fun done ids applied hdel id hid => ?_,
    fun missing total sample hfail => ?_, fun result hok hnodup hfresh => ?_⟩
  · rcases hverified.lossless (fun _ _ h => h.flightId) hdone ho with hkept | ⟨c, hc, hcopy⟩
    · exact .inl hkept
    · obtain ⟨-, landed, hparse, -, hdate, hrow⟩ := hcopy
      exact .inr ⟨c, hc, landed, hparse, hdate, hrow⟩
  · have hunder := hverified.of_prefix hdel
    have hlast : .delete ids applied ∈ done ++ [.delete ids applied] := by simp
    obtain ⟨c, -, hcid, o, ho, hcopy⟩ := hunder.exists_copy hlast hid
    exact ⟨⟨o, ho, by rw [← hcid, hcopy.flightId], hcopy.settled⟩,
      hunder done _ [] rfl id hid⟩
  · have hpagesFail : (archivePages faults now grace cap retention pages {}).1 =
        .error (.verifyFailed missing total sample) := runFlightArchive_error hfail
    obtain ⟨earlier, page, later, rfl, heq⟩ := archivePages_verifyFailed hpagesFail
    have hpage : ∀ o ∈ page, o ∈ start.source.rows :=
      fun o ho => (hpages o).mp (by simp [ho])
    obtain ⟨own, htrace, -, hnone⟩ := archivePage_spec faults now grace retention cap hpage
      (archivePages faults now grace cap retention earlier {}).2
    refine ⟨earlier, page, later, own, rfl, ?_, hnone missing total sample (heq ▸ hpagesFail)⟩
    rw [← htrace, ← heq]
    exact runFlightArchive_trace
  · obtain ⟨st, hrun, hdeleted, harchived, hcapped, hpersisted⟩ := runFlightArchive_ok hok
    have htrace : run.2 = st.trace := by
      rw [← congrArg (·.2.trace) hrun]
      exact runFlightArchive_trace
    obtain ⟨moved, left, hsplit, hmoves, hleft, hle⟩ :=
      archivePages_ok (congrArg Prod.fst hrun) hnodup rfl (Nat.zero_le cap)
    rw [hrun] at hmoves hleft hle
    rw [htrace] at hverified ⊢
    have hwritten : ((written st.trace).map ArchivedFlight.flightId).Perm
        (moved.map OntologyObject.pk) := by simpa using hmoves.written
    have hcount : (written st.trace).length = st.archived := by
      have hlen := hwritten.length_eq
      rw [List.length_map, List.length_map] at hlen
      rw [hmoves.archived, hlen, Nat.zero_add]
    refine ⟨?_, ?_, harchived ▸ hle, ?_⟩
    · rw [hdeleted, harchived, hmoves.deleted, hmoves.archived]
    · rw [harchived, hpersisted, countP_archivedAt hverified hfresh, hcount]
      split_ifs with hzero
      · exact hzero
      · rfl
    · rw [hcapped]
      exact hleft.trans (left_iff hpages hnodup hsplit hwritten hverified hfresh)

/-- Two landed flights and one in the air; nothing is archived yet. -/
def threeFlights : Stores OntologyObject.pk ArchivedFlight where
  source :=
    { rows :=
        [⟨"a0b1c2-100", [("icao24", .text "a0b1c2"), ("landedAt", .instant 3600000000)]⟩,
          ⟨"a0b1c2-200", [("icao24", .text "a0b1c2"), ("landedAt", .instant 7200000000)]⟩,
          ⟨"d3e4f5-300", [("icao24", .text "d3e4f5")]⟩]
      nodup := by decide }
  copies := []

def noFaults : Faults where
  fetch _ := false
  write _ := some fun _ => true
  read _ := some fun _ => true
  delete _ := .deleted

/-- With room for one flight the run archives one of the two, and says so. -/
theorem threeFlights_lossless :
    (runFlightArchive noFaults threeFlights [threeFlights.source.rows] 100000000000 3600000000 1
        864000000000).1 = .ok ⟨2, 2, 1, 1, true, 0, 1⟩ ∧
      ∃ o ∈ threeFlights.source.rows, Settled (100000000000 - 3600000000) o ∧
        ∀ c ∈ (threeFlights.after (runFlightArchive noFaults threeFlights
          [threeFlights.source.rows] 100000000000 3600000000 1 864000000000).2).copies,
          c.row.archivedAt = 100000000000 → c.flightId ≠ o.pk := by
  have hok : (runFlightArchive noFaults threeFlights [threeFlights.source.rows] 100000000000
      3600000000 1 864000000000).1 = .ok ⟨2, 2, 1, 1, true, 0, 1⟩ := by decide
  obtain ⟨-, -, -, hend⟩ := flight_archive_lossless noFaults threeFlights
    [threeFlights.source.rows] 100000000000 3600000000 864000000000 1 (by simp)
  obtain ⟨-, -, -, hcapped⟩ := hend _ hok (by decide) (by simp [threeFlights])
  exact ⟨hok, hcapped.mp rfl⟩

end FleetMonitor
