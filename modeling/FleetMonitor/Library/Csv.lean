import Mathlib.Data.List.Basic
import Mathlib.Tactic.SplitIfs

/-!
# Comma separated values

A writer that puts quotes only where they are needed and ends its lines with CRLF, and a reader that
takes a text apart character by character, where an empty field without quotes is a NULL. The reader
keeps to the kind of line end it has met first. What is written is read back, but for texts that are
empty.
-/

namespace FleetMonitor.Library.Csv

/-- A field is NULL or a text. -/
abbrev Field := Option (List Char)

/-! ### The writer -/

/-- A text with such a character is put in quotes. -/
def special (c : Char) : Bool := c = ',' || c = '"' || c = '\r' || c = '\n'

/-- A quote within quotes is doubled. -/
def escape (text : List Char) : List Char :=
  text.flatMap fun c => if c = '"' then ['"', '"'] else [c]

def writeText (text : List Char) : List Char :=
  if text.any special then '"' :: (escape text ++ ['"']) else text

def writeField : Field → List Char
  | none      => []
  | some text => writeText text

def writeFields : List Field → List Char
  | []              => []
  | [field]         => writeField field
  | field :: fields => writeField field ++ ',' :: writeFields fields

/-- A row of a single empty field is put in quotes, for it would be an empty line. -/
def writeRow (fields : List Field) : List Char :=
  let line := if fields.length = 1 ∧ writeFields fields = [] then ['"', '"'] else writeFields fields
  line ++ ['\r', '\n']

def write (rows : List (List Field)) : List Char := rows.flatMap writeRow

/-! ### The reader -/

inductive LineEnd where
  | lf
  | cr
  | crlf
  deriving DecidableEq, Repr

inductive Mode where
  | plain
  | quoted
  /-- A quote has come within quotes. -/
  | closing
  /-- A carriage return has come outside quotes. -/
  | carriage
  deriving DecidableEq, Repr

structure Reader where
  mode : Mode := .plain
  lineEnd : Option LineEnd := none
  rows : List (List Field) := []
  fields : List Field := []
  text : List Char := []
  /-- The field has had a quote. -/
  hadQuote : Bool := false
  deriving DecidableEq, Repr

namespace Reader

def push (r : Reader) (c : Char) : Reader := { r with text := r.text ++ [c] }

/-- The field that is being read. -/
def field (r : Reader) : Field := if r.text = [] ∧ r.hadQuote = false then none else some r.text

def endField (r : Reader) : Reader :=
  { r with fields := r.fields ++ [r.field], text := [], hadQuote := false }

def endRow (r : Reader) (lineEnd : LineEnd) : Reader :=
  { mode := .plain, lineEnd := some lineEnd, rows := r.rows ++ [r.fields ++ [r.field]] }

/-- A character outside quotes. -/
def plain (r : Reader) (c : Char) : Option Reader :=
  if c = ',' then some r.endField
  else if c = '"' then some { r with mode := .quoted, hadQuote := true }
  else if c = '\r' then
    match r.lineEnd with
    | some .lf          => none
    | some .cr          => some (r.endRow .cr)
    | none | some .crlf => some { r with mode := .carriage }
  else if c = '\n' then
    match r.lineEnd with
    | none | some .lf        => some (r.endRow .lf)
    | some .cr | some .crlf  => none
  else some (r.push c)

def step (r : Reader) (c : Char) : Option Reader :=
  match r.mode with
  | .plain    => r.plain c
  | .quoted   => some (if c = '"' then { r with mode := .closing } else r.push c)
  | .closing  =>
    if c = '"' then some { r.push c with mode := .quoted } else { r with mode := .plain }.plain c
  | .carriage =>
    if c = '\n' then some (r.endRow .crlf)
    else if r.lineEnd = some .crlf then none
    else (r.endRow .cr).plain c

/-- The end of the text: a last line need not be ended, but quotes must be. -/
def finish (r : Reader) : Option (List (List Field)) :=
  match r.mode with
  | .quoted   => none
  | .carriage => if r.lineEnd = some .crlf then none else some (r.endRow .cr).rows
  | .plain | .closing =>
    if r.fields = [] ∧ r.text = [] ∧ r.hadQuote = false then some r.rows
    else some (r.rows ++ [r.fields ++ [r.field]])

end Reader

/-- The rows of a text, if it can be read. -/
def read (text : List Char) : Option (List (List Field)) :=
  (text.foldlM Reader.step {}).bind Reader.finish

/-! ### What a written text has -/

/-- A character that is neither special nor a line end of the writer comes from a field. -/
lemma mem_write_iff {rows : List (List Field)} {c : Char} (hc : special c = false) :
    c ∈ write rows ↔ ∃ row ∈ rows, ∃ text, some text ∈ row ∧ c ∈ text := by
  simp only [special, Bool.or_eq_false_iff, decide_eq_false_iff_not] at hc
  obtain ⟨⟨⟨hcomma, hquote⟩, hcr⟩, hlf⟩ := hc
  have hescape : ∀ text, c ∈ escape text ↔ c ∈ text := by
    intro text
    rw [escape, List.mem_flatMap]
    constructor
    · rintro ⟨d, hd, hmem⟩
      split_ifs at hmem with hdquote
      · simp [hquote] at hmem
      · obtain rfl := List.mem_singleton.mp hmem
        exact hd
    · intro hmem
      exact ⟨c, hmem, by simp [hquote]⟩
  have hfield : ∀ field, c ∈ writeField field ↔ ∃ text, field = some text ∧ c ∈ text := by
    intro field
    cases field with
    | none => simp [writeField]
    | some text =>
      rw [writeField, writeText]
      split_ifs <;> simp [hquote, hescape]
  have hfields : ∀ fields, c ∈ writeFields fields ↔ ∃ text, some text ∈ fields ∧ c ∈ text := by
    intro fields
    induction fields with
    | nil => simp [writeFields]
    | cons field fields ih =>
      cases fields with
      | nil => simp [writeFields, hfield, eq_comm]
      | cons next fields =>
        rw [writeFields, List.mem_append, List.mem_cons, hfield, ih]
        · simp only [hcomma, false_or, List.mem_cons, or_and_right, exists_or, eq_comm]
        · simp
  have hrow : ∀ row, c ∈ writeRow row ↔ ∃ text, some text ∈ row ∧ c ∈ text := by
    intro row
    rw [writeRow]
    split_ifs with hlone
    · have hnone : ¬∃ text, some text ∈ row ∧ c ∈ text := by
        rw [← hfields, hlone.2]
        simp
      simp [hquote, hcr, hlf, hnone]
    · simp [hcr, hlf, hfields]
  simp only [write, List.mem_flatMap, hrow]

/-! ### Reading what was written -/

variable {r : Reader} {text : List Char} {field : Field} {fields : List Field}
  {rows : List (List Field)}

/-- A text without special characters is taken as it is. -/
lemma foldlM_step_plain (hmode : r.mode = .plain) (hplain : text.any special = false) :
    text.foldlM Reader.step r = some { r with text := r.text ++ text } := by
  induction text generalizing r with
  | nil => simp
  | cons c text ih =>
    simp only [List.any_cons, Bool.or_eq_false_iff] at hplain
    obtain ⟨hc, htext⟩ := hplain
    have hstep : r.step c = some (r.push c) := by
      simp only [special, Bool.or_eq_false_iff, decide_eq_false_iff_not] at hc
      simp [Reader.step, hmode, Reader.plain, hc]
    rw [List.foldlM_cons, hstep]
    simpa [Reader.push] using ih (r := r.push c) hmode htext

/-- Within quotes everything is taken. -/
lemma foldlM_step_escape (hmode : r.mode = .quoted) :
    (escape text).foldlM Reader.step r = some { r with text := r.text ++ text } := by
  induction text generalizing r with
  | nil => simp [escape]
  | cons c text ih =>
    have hcons : escape (c :: text) = (if c = '"' then ['"', '"'] else [c]) ++ escape text := by
      simp [escape]
    have hchar : (if c = '"' then ['"', '"'] else [c]).foldlM Reader.step r = some (r.push c) := by
      split_ifs with hquote
      · subst hquote
        cases r
        subst hmode
        rfl
      · simp [Reader.step, hmode, hquote]
    rw [hcons, List.foldlM_append, hchar]
    simpa [Reader.push] using ih (r := r.push c) hmode

/-- The reader between two fields. -/
structure Reader.Between (r : Reader) : Prop where
  mode : r.mode = .plain
  text : r.text = []
  hadQuote : r.hadQuote = false

/-- The reader has come to the end of a field that was written. -/
structure Reader.After (r : Reader) (field : Field) (r' : Reader) : Prop where
  mode : r'.mode = .plain ∨ r'.mode = .closing
  field_eq : r'.field = field
  rows : r'.rows = r.rows
  fields : r'.fields = r.fields
  lineEnd : r'.lineEnd = r.lineEnd

/-- A field that is not an empty text is read as it was written. -/
lemma exists_after_writeField (hr : r.Between) (hfield : field ≠ some []) :
    ∃ r', (writeField field).foldlM Reader.step r = some r' ∧ r.After field r' := by
  obtain ⟨hmode, htext, hquote⟩ := hr
  cases field with
  | none => exact ⟨r, rfl, .inl hmode, by simp [Reader.field, htext, hquote], rfl, rfl, rfl⟩
  | some text =>
    have hne : text ≠ [] := fun h => hfield (congrArg some h)
    rw [writeField, writeText]
    split_ifs with hspecial
    · have hopen : r.step '"' = some { r with mode := .quoted, hadQuote := true } := by
        simp [Reader.step, hmode, Reader.plain]
      have hclose : ({ r with mode := .quoted, hadQuote := true, text := r.text ++ text } : Reader).step
          '"' = some { r with mode := .closing, hadQuote := true, text := r.text ++ text } := by
        simp [Reader.step]
      rw [List.foldlM_cons, hopen]
      simp only [Option.bind_eq_bind, Option.bind_some, List.foldlM_append]
      rw [foldlM_step_escape rfl]
      simp only [Option.bind_some, List.foldlM_cons, List.foldlM_nil, hclose]
      refine ⟨_, rfl, .inr rfl, ?_, rfl, rfl, rfl⟩
      simp [Reader.field, htext]
    · rw [foldlM_step_plain hmode (by simpa using hspecial)]
      refine ⟨_, rfl, .inl hmode, ?_, rfl, rfl, rfl⟩
      simp [Reader.field, htext, hne]

/-- After a field a character that is not a quote is taken as one outside quotes. -/
lemma step_of_after {r' : Reader} {c : Char} (h : r.After field r') (hc : c ≠ '"') :
    r'.step c = { r' with mode := .plain }.plain c := by
  rcases h.mode with hmode | hmode
  · cases r'
    subst hmode
    rfl
  · simp [Reader.step, hmode, hc]

lemma step_comma {r' : Reader} (h : r.After field r') :
    ∃ r'', r'.step ',' = some r'' ∧ r''.Between ∧ r''.rows = r.rows ∧
      r''.fields = r.fields ++ [field] ∧ r''.lineEnd = r.lineEnd := by
  rw [step_of_after h (by decide), Reader.plain, if_pos rfl]
  refine ⟨_, rfl, ⟨rfl, rfl, rfl⟩, h.rows, ?_, h.lineEnd⟩
  change r'.fields ++ [r'.field] = r.fields ++ [field]
  rw [h.fields, h.field_eq]

/-- The line end of the writer ends the row, unless the lines before had another one. -/
lemma foldlM_step_lineEnd {r' : Reader} (h : r.After field r')
    (hend : r.lineEnd = none ∨ r.lineEnd = some .crlf) :
    ['\r', '\n'].foldlM Reader.step r' =
      some { lineEnd := some .crlf, rows := r.rows ++ [r.fields ++ [field]] } := by
  have hcarriage : r'.step '\r' = some { r' with mode := .carriage } := by
    rw [step_of_after h (by decide), Reader.plain, if_neg (by decide), if_neg (by decide), if_pos rfl]
    rcases hend with hend | hend <;> simp [h.lineEnd, hend]
  simp only [List.foldlM_cons, hcarriage, List.foldlM_nil, Option.bind_eq_bind, Option.bind_some]
  change some ({ lineEnd := some .crlf, rows := r'.rows ++ [r'.fields ++ [r'.field]] } : Reader) = _
  rw [h.rows, h.fields, h.field_eq]

/-- The fields of a row and its end are read as they were written. -/
lemma foldlM_step_writeFields (hr : r.Between) (hend : r.lineEnd = none ∨ r.lineEnd = some .crlf)
    (hne : fields ≠ []) (hfields : some [] ∉ fields) :
    (writeFields fields ++ ['\r', '\n']).foldlM Reader.step r =
      some { lineEnd := some .crlf, rows := r.rows ++ [r.fields ++ fields] } := by
  induction fields generalizing r with
  | nil => exact absurd rfl hne
  | cons field fields ih =>
    rw [List.mem_cons, not_or] at hfields
    obtain ⟨r', hr', hafter⟩ := exists_after_writeField hr (Ne.symm hfields.1)
    cases fields with
    | nil =>
      rw [writeFields, List.foldlM_append, hr']
      exact foldlM_step_lineEnd hafter hend
    | cons next fields =>
      obtain ⟨r'', hcomma, hbetween, hrows, hdone, hlineEnd⟩ := step_comma hafter
      rw [writeFields, List.append_assoc, List.foldlM_append, hr', List.cons_append]
      · simp only [Option.bind_eq_bind, Option.bind_some, List.foldlM_cons, hcomma]
        rw [ih hbetween (hlineEnd ▸ hend) (by simp) hfields.2, hrows, hdone]
        simp
      · simp

/-- A row that a reader gets back: it has fields, none of them an empty text, and is not a single
NULL. -/
structure Readable (row : List Field) : Prop where
  ne_nil : row ≠ []
  ne_single : row ≠ [none]
  nonempty : some [] ∉ row

lemma Readable.writeRow_eq (h : Readable fields) :
    writeRow fields = writeFields fields ++ ['\r', '\n'] := by
  have hline : ¬(fields.length = 1 ∧ writeFields fields = []) := by
    rintro ⟨hlength, hempty⟩
    obtain ⟨field, rfl⟩ := List.length_eq_one_iff.mp hlength
    cases field with
    | none => exact h.ne_single rfl
    | some text =>
      rw [writeFields, writeField, writeText] at hempty
      split_ifs at hempty
      exact h.nonempty (by simp [hempty])
  simp [writeRow, hline]

/-- Rows are read as they were written. -/
theorem read_write (h : ∀ row ∈ rows, Readable row) : read (write rows) = some rows := by
  have hfold : ∀ r : Reader, r.Between → r.fields = [] → r.lineEnd = none ∨ r.lineEnd = some .crlf →
      ∃ r', (write rows).foldlM Reader.step r = some r' ∧ r'.Between ∧ r'.fields = [] ∧
        r'.rows = r.rows ++ rows := by
    induction rows with
    | nil => exact fun r hr hfields _ => ⟨r, rfl, hr, hfields, by simp⟩
    | cons row rows ih =>
      intro r hr hfields hend
      obtain ⟨hrow, hrows⟩ := List.forall_mem_cons.mp h
      have hfirst := foldlM_step_writeFields hr hend hrow.ne_nil hrow.nonempty
      rw [← hrow.writeRow_eq] at hfirst
      obtain ⟨r', hr', hbetween, hdone, hread⟩ :=
        ih hrows { lineEnd := some .crlf, rows := r.rows ++ [r.fields ++ row] } ⟨rfl, rfl, rfl⟩ rfl
          (.inr rfl)
      refine ⟨r', ?_, hbetween, hdone, by simp [hread, hfields]⟩
      rw [write, List.flatMap_cons, List.foldlM_append, hfirst]
      exact hr'
  obtain ⟨r, hr, ⟨hmode, htext, hquote⟩, hfields, hread⟩ := hfold {} ⟨rfl, rfl, rfl⟩ rfl (.inl rfl)
  rw [read, hr, Option.bind_some, Reader.finish, hmode]
  simp [hfields, htext, hquote, hread]

end FleetMonitor.Library.Csv
