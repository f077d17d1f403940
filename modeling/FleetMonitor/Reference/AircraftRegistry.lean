import FleetMonitor.Library.Csv
import FleetMonitor.Positions.FlightQuery
import FleetMonitor.Reference.Airports

/-!
# The aircraft registry

The aircraft half of `static_reference`: the first line of each address is written to a buffer as
CSV, and in one transaction the table is emptied and the buffer is copied into it. The copy reads
the rows that were written, whatever texts they have, so the table holds the first line of each
address.
-/

namespace FleetMonitor.Reference

open Library

/-! ### The file -/

/-- A line of OpenSky's `aircraft.csv` as `csv.DictReader` gives it, with all the columns that are
read; a line may be short of fields. -/
structure AircraftRecord where
  icao24 : Option String := none
  registration : Option String := none
  typecode : Option String := none
  model : Option String := none
  operator : Option String := none
  operatoricao : Option String := none
  deriving DecidableEq, Repr

/-- A row of `ref.aircraft_registry`. -/
structure AircraftRow where
  icao24 : String
  registration : Option String
  typeCode : Option String
  typeName : Option String
  operator : Option String
  operatorIcao : Option String
  country : Option String
  deriving DecidableEq, Repr

abbrev AircraftTable := Table AircraftRow.icao24

/-- The fields that `writerow` is given. -/
def AircraftRow.fields (row : AircraftRow) : List Csv.Field :=
  [some row.icao24.toList, row.registration.map String.toList, row.typeCode.map String.toList,
    row.typeName.map String.toList, row.operator.map String.toList, row.operatorIcao.map String.toList,
    row.country.map String.toList]

variable (functions : CsvFunctions)

/-- The address of a line, in lower case. -/
def addressOf (record : AircraftRecord) : Option String :=
  record.icao24.map fun raw => functions.lower (strip raw)

/-- The row of a line; it fails where the line is short of a field. -/
def aircraftRow (icao24 : String) (record : AircraftRecord) : Option AircraftRow := do
  let registration ← record.registration
  let typecode ← record.typecode
  let model ← record.model
  let operator ← record.operator
  let operatoricao ← record.operatoricao
  return {
    icao24
    registration := stripOrNone registration
    typeCode := stripOrNone typecode
    typeName := stripOrNone model
    operator := stripOrNone operator
    operatorIcao := stripOrNone operatoricao
    country := none }

/-- What the pass over the file has gathered. -/
structure AircraftStream where
  buffer : List Char := []
  seen : List String := []
  rowsRead : ℕ := 0
  rowsKept : ℕ := 0
  duplicatesSkipped : ℕ := 0
  deriving DecidableEq, Repr

/-- The pass over one line. -/
def streamRecord (stream : AircraftStream) (record : AircraftRecord) : Option AircraftStream :=
  (addressOf functions record).bind fun icao24 =>
    let read := { stream with rowsRead := stream.rowsRead + 1 }
    if icao24 = "" then some read
    else if icao24 ∈ stream.seen then some { read with duplicatesSkipped := stream.duplicatesSkipped + 1 }
    else
      (aircraftRow icao24 record).map fun row =>
        { read with
          buffer := stream.buffer ++ Csv.writeRow row.fields
          seen := icao24 :: stream.seen
          rowsKept := stream.rowsKept + 1 }

/-- `_stream_aircraft_csv`. -/
def streamAircraftCsv (records : List AircraftRecord) : Option AircraftStream :=
  records.foldlM (streamRecord functions) {}

/-! ### Loading -/

/-- A line of the copy has seven fields, of which the address is not NULL. -/
def copyRow : List Csv.Field → Option AircraftRow
  | [some icao24, registration, typeCode, typeName, operator, operatorIcao, country] =>
    some {
      icao24 := String.ofList icao24
      registration := registration.map String.ofList
      typeCode := typeCode.map String.ofList
      typeName := typeName.map String.ofList
      operator := operator.map String.ofList
      operatorIcao := operatorIcao.map String.ofList
      country := country.map String.ofList }
  | _ => none

/-- `COPY ref.aircraft_registry … FROM STDIN WITH (FORMAT csv, NULL '')` into the empty table; no
text may have a NUL, and no two rows the same address. -/
def copyRegistry (buffer : List Char) : Option AircraftTable :=
  if Char.ofNat 0 ∈ buffer then none
  else
    (Csv.read buffer).bind fun lines =>
      (lines.mapM copyRow).bind fun rows =>
        if h : (rows.map AircraftRow.icao24).Nodup then some ⟨rows, h⟩ else none

structure AircraftCounts where
  rowsRead : ℕ
  duplicatesSkipped : ℕ
  rowsLoaded : ℕ
  deriving DecidableEq, Repr

/-- `_load_aircraft`: the table it leaves, and what it returns or raises. The database may refuse
for other reasons. -/
def loadAircraft (refused : Option String) (file : Option (List AircraftRecord))
    (registry : AircraftTable) : AircraftTable × Except ReferenceError AircraftCounts :=
  match file with
  | none         => (registry, .error .fileNotFound)
  | some records =>
    match streamAircraftCsv functions records with
    | none        => (registry, .error .conversion)
    | some stream =>
      match refused with
      | some text => (registry, .error (.database text))
      | none      =>
        match copyRegistry stream.buffer with
        | none        => (registry, .error (.database "COPY"))
        | some copied =>
          if copied.rows.length ≠ stream.rowsKept then
            (copied, .error (.postLoad copied.rows.length stream.rowsKept))
          else (copied, .ok ⟨stream.rowsRead, stream.duplicatesSkipped, copied.rows.length⟩)

/-! ### Copying what was written -/

variable {functions} {records : List AircraftRecord} {record : AircraftRecord} {row : AircraftRow}
  {rows : List AircraftRow} {icao24 : String} {stream stream' : AircraftStream}

/-- What a row has of its line. -/
lemma aircraftRow_eq_some (h : aircraftRow icao24 record = some row) :
    row.icao24 = icao24 ∧ row.registration ≠ some "" ∧ row.typeCode ≠ some "" ∧
      row.typeName ≠ some "" ∧ row.operator ≠ some "" ∧ row.operatorIcao ≠ some "" ∧
      row.country = none := by
  simp only [aircraftRow, Option.bind_eq_bind, Option.bind_eq_some_iff] at h
  obtain ⟨registration, -, typecode, -, model, -, operator, -, operatoricao, -, h⟩ := h
  simp only [pure, Option.some.injEq] at h
  subst h
  simp [stripOrNone_ne_empty]

lemma readable_fields (h : aircraftRow icao24 record = some row) (hicao24 : icao24 ≠ "") :
    Csv.Readable row.fields := by
  obtain ⟨rfl, hregistration, htypeCode, htypeName, hoperator, hoperatorIcao, hcountry⟩ :=
    aircraftRow_eq_some h
  have hmap : ∀ text : Option String, text ≠ some "" → text.map String.toList ≠ some [] := by
    intro text htext
    simpa [Option.map_eq_some_iff] using htext
  refine ⟨by simp [AircraftRow.fields], by simp [AircraftRow.fields], ?_⟩
  simp only [AircraftRow.fields, List.mem_cons, not_or, List.not_mem_nil, not_false_eq_true,
    and_true]
  refine ⟨?_, (hmap _ hregistration).symm, (hmap _ htypeCode).symm, (hmap _ htypeName).symm,
    (hmap _ hoperator).symm, (hmap _ hoperatorIcao).symm, by simp [hcountry]⟩
  simpa using Ne.symm hicao24

@[simp] lemma copyRow_fields (row : AircraftRow) : copyRow row.fields = some row := by
  simp [copyRow, AircraftRow.fields, Function.comp_def]

lemma mapM_copyRow (rows : List AircraftRow) :
    (rows.map AircraftRow.fields).mapM copyRow = some rows := by
  induction rows with
  | nil => rfl
  | cons row rows ih => simp [ih]

/-- A text of the row has a NUL. -/
def AircraftRow.hasNul (row : AircraftRow) : Bool :=
  row.fields.any fun field => field.any fun text => text.any (· = Char.ofNat 0)

/-- The copy of rows that were written has the same rows, if no text has a NUL. -/
lemma copyRegistry_write (hread : ∀ row ∈ rows, Csv.Readable row.fields)
    (hnodup : (rows.map AircraftRow.icao24).Nodup) :
    copyRegistry (Csv.write (rows.map AircraftRow.fields)) =
      if rows.any AircraftRow.hasNul then none else some ⟨rows, hnodup⟩ := by
  have hnul : Char.ofNat 0 ∈ Csv.write (rows.map AircraftRow.fields) ↔
      rows.any AircraftRow.hasNul = true := by
    rw [Csv.mem_write_iff (by decide)]
    simp [AircraftRow.hasNul, Option.any_eq_true]
  have hrows :
      Csv.read (Csv.write (rows.map AircraftRow.fields)) = some (rows.map AircraftRow.fields) :=
    Csv.read_write (by simpa using hread)
  rw [copyRegistry, hrows]
  simp only [hnul, Option.bind_some, mapM_copyRow, dif_pos hnodup]

/-! ### The first line of each address -/

/-- The first line with the address. -/
def firstRecord (functions : CsvFunctions) (records : List AircraftRecord) (icao24 : String) :
    Option AircraftRecord :=
  records.find? fun record => addressOf functions record = some icao24

lemma firstRecord_append : firstRecord functions (records ++ [record]) icao24 =
    (firstRecord functions records icao24).or
      (if addressOf functions record = some icao24 then some record else none) := by
  rw [firstRecord, List.find?_append, firstRecord]
  by_cases h : addressOf functions record = some icao24 <;> simp [h]

/-- No line is short where it is read: each has an address, and the first one of an address has all
fields. -/
structure Complete (functions : CsvFunctions) (records : List AircraftRecord) : Prop where
  addresses : ∀ record ∈ records, addressOf functions record ≠ none
  fields : ∀ icao24 record, icao24 ≠ "" → firstRecord functions records icao24 = some record →
    aircraftRow icao24 record ≠ none

/-- What the pass has gathered from the lines. -/
structure Streamed (functions : CsvFunctions) (records : List AircraftRecord) (stream : AircraftStream)
    (rows : List AircraftRow) : Prop where
  buffer : stream.buffer = Csv.write (rows.map AircraftRow.fields)
  seen : stream.seen = (rows.map AircraftRow.icao24).reverse
  nodup : (rows.map AircraftRow.icao24).Nodup
  rowsKept : stream.rowsKept = rows.length
  /-- The rows are those of the first lines. -/
  mem_iff : ∀ row, row ∈ rows ↔ row.icao24 ≠ "" ∧ ∃ record,
    firstRecord functions records row.icao24 = some record ∧
      aircraftRow row.icao24 record = some row

lemma Streamed.mem_seen_iff (h : Streamed functions records stream rows)
    (hcomplete : Complete functions records) :
    icao24 ∈ stream.seen ↔ icao24 ≠ "" ∧ firstRecord functions records icao24 ≠ none := by
  rw [h.seen, List.mem_reverse, List.mem_map]
  constructor
  · rintro ⟨row, hrow, rfl⟩
    obtain ⟨hne, record, hfirst, -⟩ := (h.mem_iff row).mp hrow
    exact ⟨hne, by simp [hfirst]⟩
  · rintro ⟨hne, hfirst⟩
    obtain ⟨record, hrecord⟩ := Option.ne_none_iff_exists'.mp hfirst
    obtain ⟨row, hrow⟩ := Option.ne_none_iff_exists'.mp (hcomplete.fields icao24 record hne hrecord)
    obtain rfl := (aircraftRow_eq_some hrow).1
    exact ⟨row, (h.mem_iff row).mpr ⟨hne, record, hrecord, hrow⟩, rfl⟩

lemma firstRecord_append_of_first {first : AircraftRecord}
    (h : firstRecord functions records icao24 = some first) :
    firstRecord functions (records ++ [record]) icao24 = some first := by
  rw [firstRecord_append, h, Option.some_or]

lemma firstRecord_append_of_ne (h : addressOf functions record ≠ some icao24) :
    firstRecord functions (records ++ [record]) icao24 = firstRecord functions records icao24 := by
  rw [firstRecord_append, if_neg h, Option.or_none]

lemma firstRecord_append_self (haddress : addressOf functions record = some icao24)
    (hnone : firstRecord functions records icao24 = none) :
    firstRecord functions (records ++ [record]) icao24 = some record := by
  rw [firstRecord_append, hnone, if_pos haddress, Option.none_or]

lemma Complete.of_append (h : Complete functions (records ++ [record])) :
    Complete functions records where
  addresses r hr := h.addresses r (List.mem_append_left _ hr)
  fields icao24 r hne hfirst := h.fields icao24 r hne (firstRecord_append_of_first hfirst)

/-- The line has no address of its own: the address is empty, or an earlier line has it. -/
def Repeated (functions : CsvFunctions) (records : List AircraftRecord) (record : AircraftRecord) :
    Prop :=
  ∃ address, addressOf functions record = some address ∧
    (address = "" ∨ firstRecord functions records address ≠ none)

lemma Repeated.firstRecord_eq (h : Repeated functions records record) (hne : icao24 ≠ "") :
    firstRecord functions (records ++ [record]) icao24 = firstRecord functions records icao24 := by
  obtain ⟨address, haddress, hempty | hfirst⟩ := h
  · refine firstRecord_append_of_ne ?_
    rw [haddress, hempty]
    simpa using hne.symm
  · by_cases heq : address = icao24
    · subst heq
      obtain ⟨first, hfirst⟩ := Option.ne_none_iff_exists'.mp hfirst
      rw [hfirst, firstRecord_append_of_first hfirst]
    · refine firstRecord_append_of_ne ?_
      rw [haddress]
      simpa using heq

/-- A line without an address of its own changes nothing. -/
lemma Streamed.repeat (h : Streamed functions records stream rows)
    (hrepeated : Repeated functions records record) (hbuffer : stream'.buffer = stream.buffer)
    (hseen : stream'.seen = stream.seen) (hkept : stream'.rowsKept = stream.rowsKept) :
    Streamed functions (records ++ [record]) stream' rows where
  buffer := hbuffer.trans h.buffer
  seen := hseen.trans h.seen
  nodup := h.nodup
  rowsKept := hkept.trans h.rowsKept
  mem_iff row := by
    rw [h.mem_iff]
    refine and_congr_right fun hne => ?_
    rw [hrepeated.firstRecord_eq hne]

lemma Complete.repeat (h : Complete functions records)
    (hrepeated : Repeated functions records record) :
    Complete functions (records ++ [record]) where
  addresses r hr := by
    rcases List.mem_append.mp hr with hr | hr
    · exact h.addresses r hr
    · obtain rfl := List.mem_singleton.mp hr
      obtain ⟨address, haddress, -⟩ := hrepeated
      simp [haddress]
  fields icao24 r hne hfirst := by
    rw [hrepeated.firstRecord_eq hne] at hfirst
    exact h.fields icao24 r hne hfirst

/-- The first line of an address adds its row. -/
lemma Streamed.add (h : Streamed functions records stream rows)
    (haddress : addressOf functions record = some icao24) (hne : icao24 ≠ "")
    (hnone : firstRecord functions records icao24 = none)
    (hrow : aircraftRow icao24 record = some row)
    (hbuffer : stream'.buffer = stream.buffer ++ Csv.writeRow row.fields)
    (hseen : stream'.seen = icao24 :: stream.seen)
    (hkept : stream'.rowsKept = stream.rowsKept + 1) :
    Streamed functions (records ++ [record]) stream' (rows ++ [row]) := by
  obtain rfl := (aircraftRow_eq_some hrow).1
  have hnew : row.icao24 ∉ rows.map AircraftRow.icao24 := by
    intro hmem
    obtain ⟨old, hold, heq⟩ := List.mem_map.mp hmem
    obtain ⟨-, first, hfirst, -⟩ := (h.mem_iff old).mp hold
    rw [heq, hnone] at hfirst
    cases hfirst
  refine ⟨?_, ?_, ?_, ?_, fun r => ?_⟩
  · simp [hbuffer, h.buffer, Csv.write]
  · simp [hseen, h.seen]
  · rw [List.map_append, List.nodup_append]
    refine ⟨h.nodup, by simp, ?_⟩
    rintro a ha b hb rfl
    obtain rfl := List.mem_singleton.mp hb
    exact hnew ha
  · rw [hkept, h.rowsKept, List.length_append, List.length_singleton]
  · rw [List.mem_append, List.mem_singleton, h.mem_iff]
    by_cases heq : r.icao24 = row.icao24
    · rw [heq, firstRecord_append_self haddress hnone, hnone]
      simp [hne, hrow, eq_comm]
    · have hother : addressOf functions record ≠ some r.icao24 := by
        rw [haddress]
        simpa using Ne.symm heq
      rw [firstRecord_append_of_ne hother]
      refine or_iff_left ?_
      rintro rfl
      exact heq rfl

lemma Complete.add (h : Complete functions records)
    (haddress : addressOf functions record = some icao24)
    (hnone : firstRecord functions records icao24 = none)
    (hrow : aircraftRow icao24 record = some row) :
    Complete functions (records ++ [record]) where
  addresses r hr := by
    rcases List.mem_append.mp hr with hr | hr
    · exact h.addresses r hr
    · obtain rfl := List.mem_singleton.mp hr
      simp [haddress]
  fields address r hne hfirst := by
    by_cases heq : address = icao24
    · subst heq
      rw [firstRecord_append_self haddress hnone] at hfirst
      obtain rfl := Option.some.inj hfirst
      simp [hrow]
    · have hother : addressOf functions record ≠ some address := by
        rw [haddress]
        simpa using Ne.symm heq
      rw [firstRecord_append_of_ne hother] at hfirst
      exact h.fields address r hne hfirst

/-- The pass fails where a line is short, and gathers the rows of the first lines otherwise. -/
lemma streamAircraftCsv_spec (functions : CsvFunctions) (records : List AircraftRecord) :
    (streamAircraftCsv functions records = none ∧ ¬Complete functions records) ∨
    ∃ stream rows, streamAircraftCsv functions records = some stream ∧ Complete functions records ∧
      Streamed functions records stream rows := by
  induction records using List.reverseRecOn with
  | nil =>
    refine .inr ⟨{}, [], rfl, ⟨by simp, by simp [firstRecord]⟩, rfl, rfl, List.nodup_nil, rfl, ?_⟩
    simp [firstRecord]
  | append_singleton records record ih =>
    have happend : streamAircraftCsv functions (records ++ [record]) =
        (streamAircraftCsv functions records).bind fun stream => streamRecord functions stream record := by
      rw [streamAircraftCsv, List.foldlM_append]
      simp [streamAircraftCsv]
    rw [happend]
    rcases ih with ⟨hstream, hshort⟩ | ⟨stream, rows, hstream, hcomplete, hstreamed⟩
    · exact .inl ⟨by rw [hstream, Option.bind_none], fun h => hshort h.of_append⟩
    rw [hstream, Option.bind_some, streamRecord]
    cases haddress : addressOf functions record with
    | none =>
      refine .inl ⟨rfl, fun h => h.addresses record (by simp) haddress⟩
    | some icao24 =>
      rw [Option.bind_some]
      by_cases hempty : icao24 = ""
      · have hrepeated : Repeated functions records record := ⟨icao24, haddress, .inl hempty⟩
        rw [if_pos hempty]
        exact .inr ⟨_, rows, rfl, hcomplete.repeat hrepeated,
          hstreamed.repeat hrepeated rfl rfl rfl⟩
      rw [if_neg hempty]
      by_cases hseen : icao24 ∈ stream.seen
      · have hfirst := ((hstreamed.mem_seen_iff hcomplete).mp hseen).2
        have hrepeated : Repeated functions records record := ⟨icao24, haddress, .inr hfirst⟩
        rw [if_pos hseen]
        exact .inr ⟨_, rows, rfl, hcomplete.repeat hrepeated,
          hstreamed.repeat hrepeated rfl rfl rfl⟩
      have hnone : firstRecord functions records icao24 = none := by
        rw [hstreamed.mem_seen_iff hcomplete, not_and, not_not] at hseen
        exact hseen hempty
      rw [if_neg hseen]
      cases hrow : aircraftRow icao24 record with
      | none =>
        refine .inl ⟨rfl, fun h => ?_⟩
        exact h.fields icao24 record hempty (firstRecord_append_self haddress hnone) hrow
      | some row =>
        exact .inr ⟨_, rows ++ [row], rfl, hcomplete.add haddress hnone hrow,
          hstreamed.add haddress hempty hnone hrow rfl rfl rfl⟩

/-! ### What a load leaves -/

/-- The rows of the file can be copied: no line is short where it is read, and no text that is kept
has a NUL. -/
structure Loadable (functions : CsvFunctions) (records : List AircraftRecord) : Prop
    extends Complete functions records where
  noNul : ∀ icao24 record row, icao24 ≠ "" → firstRecord functions records icao24 = some record →
    aircraftRow icao24 record = some row → row.hasNul = false

/-- The rows that were gathered have a NUL iff a first line has one. -/
lemma Streamed.loadable_iff (h : Streamed functions records stream rows)
    (hcomplete : Complete functions records) :
    rows.any AircraftRow.hasNul = false ↔ Loadable functions records := by
  rw [List.any_eq_false]
  constructor
  · intro hnul
    refine ⟨hcomplete, fun icao24 record row hne hfirst hrow => ?_⟩
    obtain rfl := (aircraftRow_eq_some hrow).1
    simpa using hnul row ((h.mem_iff row).mpr ⟨hne, record, hfirst, hrow⟩)
  · intro hloadable row hmem
    obtain ⟨hne, record, hfirst, hrow⟩ := (h.mem_iff row).mp hmem
    simp [hloadable.noNul row.icao24 record row hne hfirst hrow]

/-- What was gathered is copied as it is. -/
lemma Streamed.copyRegistry_eq (h : Streamed functions records stream rows) :
    copyRegistry stream.buffer =
      if rows.any AircraftRow.hasNul then none else some ⟨rows, h.nodup⟩ := by
  rw [h.buffer]
  refine copyRegistry_write (fun row hmem => ?_) h.nodup
  obtain ⟨hne, record, -, hrow⟩ := (h.mem_iff row).mp hmem
  exact readable_fields hrow hne

/-- A load fails and leaves the table, or replaces it by the rows of the first lines. -/
lemma loadAircraft_cases (functions : CsvFunctions) (refused : Option String)
    (file : Option (List AircraftRecord)) (registry : AircraftTable) :
    (¬(refused = none ∧ ∃ records, file = some records ∧ Loadable functions records) ∧
      ∃ e, loadAircraft functions refused file registry = (registry, .error e)) ∨
    ∃ records stream rows, ∃ hstreamed : Streamed functions records stream rows,
      refused = none ∧ file = some records ∧ Loadable functions records ∧
        loadAircraft functions refused file registry =
          (⟨rows, hstreamed.nodup⟩,
            .ok ⟨stream.rowsRead, stream.duplicatesSkipped, rows.length⟩) := by
  cases file with
  | none => exact .inl ⟨by simp, .fileNotFound, rfl⟩
  | some records =>
    rcases streamAircraftCsv_spec functions records with
      ⟨hstream, hshort⟩ | ⟨stream, rows, hstream, hcomplete, hstreamed⟩
    · refine .inl ⟨?_, .conversion, by simp only [loadAircraft, hstream]⟩
      rintro ⟨-, _, ⟨⟩, hloadable⟩
      exact hshort hloadable.toComplete
    cases refused with
    | some text => exact .inl ⟨by simp, .database text, by simp only [loadAircraft, hstream]⟩
    | none =>
      have hcopy := hstreamed.copyRegistry_eq
      by_cases hnul : rows.any AircraftRow.hasNul
      · rw [if_pos hnul] at hcopy
        refine .inl ⟨?_, .database "COPY", by simp only [loadAircraft, hstream, hcopy]⟩
        rintro ⟨-, _, ⟨⟩, hloadable⟩
        rw [(hstreamed.loadable_iff hcomplete).mpr hloadable] at hnul
        cases hnul
      · rw [if_neg hnul] at hcopy
        refine .inr ⟨records, stream, rows, hstreamed, rfl, rfl, ?_, ?_⟩
        · exact (hstreamed.loadable_iff hcomplete).mp (by simpa using hnul)
        · simp [loadAircraft, hstream, hcopy, hstreamed.rowsKept]

/-- A load returns iff there is a file that can be copied and the database does not refuse, and
leaves the table as it was otherwise. A table that was loaded has, under each address that is not
empty, the row of the first line with the address. -/
theorem loadAircraft_registry (functions : CsvFunctions) (refused : Option String)
    (file : Option (List AircraftRecord)) (registry : AircraftTable) :
    let loaded := loadAircraft functions refused file registry
    (loaded.2.toBool ↔ refused = none ∧ ∃ records, file = some records ∧ Loadable functions records) ∧
    (loaded.2.toBool = false → loaded.1 = registry) ∧
    ∀ records, file = some records → loaded.2.toBool → ∀ icao24 row,
      loaded.1.lookup icao24 = some row ↔ icao24 ≠ "" ∧ ∃ record,
        firstRecord functions records icao24 = some record ∧
          aircraftRow icao24 record = some row := by
  intro loaded
  rcases loadAircraft_cases functions refused file registry with
    ⟨hnot, e, hload⟩ | ⟨records, stream, rows, hstreamed, hrefused, hfile, hloadable, hload⟩
  · change loaded = _ at hload
    rw [hload]
    refine ⟨iff_of_false (by simp [Except.toBool]) hnot, fun _ => rfl, fun _ _ hok => ?_⟩
    simp [Except.toBool] at hok
  · change loaded = _ at hload
    rw [hload]
    refine ⟨iff_of_true rfl ⟨hrefused, records, hfile, hloadable⟩, by simp [Except.toBool], ?_⟩
    intro records' hrecords' _ icao24 row
    obtain rfl : records = records' := Option.some.inj (hfile.symm.trans hrecords')
    rw [Table.lookup_eq_some_iff, hstreamed.mem_iff]
    constructor
    · rintro ⟨h, rfl⟩
      exact h
    · rintro ⟨hne, record, hfirst, hrow⟩
      obtain rfl := (aircraftRow_eq_some hrow).1
      exact ⟨⟨hne, record, hfirst, hrow⟩, rfl⟩

end FleetMonitor.Reference
