import FleetMonitor.Archive.ArchiveWrites
import FleetMonitor.Archive.AwareDatetime
import FleetMonitor.Library.PrunedScan

/-!
# Reads of the cold store

`read_flights_archive` reads all partitions, or those of a window of days with a filter on the
landing. The window is bounded by the dates that `now` and the cutoff have in their own zone, while
partitions are named by UTC dates.
-/

namespace FleetMonitor

open Library

/-! ### Reading directories -/

/-- What a read raises: an error of the listing or of a date, or `ArrowInvalid`. -/
inductive ArchiveReadError where
  | raised (e : PartitionError)
  | arrowInvalid
  deriving DecidableEq, Repr

/-- The names a dataset does not look at. -/
def isHidden (name : String) : Bool := name.toList.head? = some '.' || name.toList.head? = some '_'

/-- The rows of Parquet files; anything else cannot be read as one. -/
def readFiles : List ArchiveFile → Except ArchiveReadError (List ArchiveRow)
  | []                    => .ok []
  | .parquet rows :: files => (readFiles files).map (rows ++ ·)
  | .other _ :: _          => .error .arrowInvalid

/-- The files of day directories. -/
def dirFiles (tree : ArchiveTree) (dirs : List (Date × Path)) : List ArchiveFile :=
  dirs.flatMap fun dir => tree.filesBelow isHidden dir.2

/-- `read_flights_archive` with `lookback_days=None`. -/
def readAllFlightsArchive (tree : ArchiveTree) : Except ArchiveReadError (List ArchiveRow) :=
  match archiveDayDirs tree none none with
  | .error e => .error (.raised e)
  | .ok dirs => readFiles (dirFiles tree dirs)

/-- `read_flights_archive`. A filter needs a column to read, so a dataset without a file has none.
-/
def readFlightsArchive (lookbackDays : Option ℕ) (now : AwareDatetime) (tree : ArchiveTree) :
    Except ArchiveReadError (List ArchiveRow) :=
  match lookbackDays with
  | none      => readAllFlightsArchive tree
  | some days =>
    match now.sub (days * 86400000000) with
    | none        => .error (.raised .overflowError)
    | some cutoff =>
      match archiveDayDirs tree (some cutoff.date) (some now.date) with
      | .error e => .error (.raised e)
      | .ok []   => .ok []
      | .ok dirs =>
        if dirFiles tree dirs = [] then .error .arrowInvalid
        else (readFiles (dirFiles tree dirs)).map (·.filter (cutoff.instant ≤ ·.landedAt))

/-! ### What a window is for -/

def ArchiveFile.isParquet : ArchiveFile → Bool
  | .parquet _ => true
  | .other _   => false

def ArchiveFile.rows : ArchiveFile → List ArchiveRow
  | .parquet rows => rows
  | .other _      => []

/-- The rows of a day directory. -/
def partitionRows (tree : ArchiveTree) (part : Date × Path) : List ArchiveRow :=
  (tree.filesBelow isHidden part.2).flatMap ArchiveFile.rows

/-- Every row lies in the partition of the UTC date it landed on. -/
def StoredByDate (tree : ArchiveTree) : Prop :=
  ∀ part ∈ partitions tree, ∀ row ∈ partitionRows tree part, utcDate row.landedAt = part.1

instance (tree : ArchiveTree) : Decidable (StoredByDate tree) :=
  inferInstanceAs (Decidable (∀ part ∈ partitions tree, ∀ row ∈ partitionRows tree part, _))

/-- The window read finds the rows of the archive that landed from the cutoff on. -/
def WindowAgrees (days : ℕ) (now : AwareDatetime) (tree : ArchiveTree) (all : List ArchiveRow) :
    Prop :=
  ∃ cutoff rows, now.sub (days * 86400000000) = some cutoff ∧
    readFlightsArchive (some days) now tree = .ok rows ∧
    rows.Perm (all.filter (cutoff.instant ≤ ·.landedAt))

/-- The cutoff is a datetime; the rows that landed from it on did so on UTC dates from the cutoff's
own date to that of `now`; and if there is a partition between these dates, one has a file. -/
def WindowCovers (days : ℕ) (now : AwareDatetime) (tree : ArchiveTree) (all : List ArchiveRow) :
    Prop :=
  ∃ cutoff, now.sub (days * 86400000000) = some cutoff ∧
    (∀ row ∈ all, cutoff.instant ≤ row.landedAt →
      cutoff.date ≤ utcDate row.landedAt ∧ utcDate row.landedAt ≤ now.date) ∧
    ∀ part ∈ partitions tree, cutoff.date ≤ part.1 → part.1 ≤ now.date →
      ∃ part' ∈ partitions tree, cutoff.date ≤ part'.1 ∧ part'.1 ≤ now.date ∧
        tree.filesBelow isHidden part'.2 ≠ []

variable {tree : ArchiveTree} {now cutoff : AwareDatetime} {days : ℕ} {all rows : List ArchiveRow}
  {dirs : List (Date × Path)} {files : List ArchiveFile} {start finish : Option Date}

/-! ### What reads return -/

lemma readFiles_of_isParquet (h : ∀ file ∈ files, file.isParquet) :
    readFiles files = .ok (files.flatMap ArchiveFile.rows) := by
  induction files with
  | nil => rfl
  | cons file files ih =>
    obtain ⟨hfile, hfiles⟩ := List.forall_mem_cons.mp h
    cases file with
    | other text => cases hfile
    | parquet rows =>
      rw [readFiles, ih hfiles, List.flatMap_cons]
      rfl

lemma isParquet_of_readFiles (h : readFiles files = .ok rows) : ∀ file ∈ files, file.isParquet := by
  induction files generalizing rows with
  | nil => simp
  | cons file files ih =>
    cases file with
    | other text => cases h
    | parquet first =>
      rw [readFiles] at h
      cases hrest : readFiles files with
      | error e => simp [hrest, Except.map] at h
      | ok rest => exact List.forall_mem_cons.mpr ⟨rfl, ih hrest⟩

/-- The rows of the files of day directories, selected or not. -/
lemma filter_rows_dirFiles (select : ArchiveRow → Bool) (dirs : List (Date × Path)) :
    ((dirFiles tree dirs).flatMap ArchiveFile.rows).filter select =
      scan (partitionRows tree) select dirs := by
  rw [dirFiles, List.flatMap_assoc]
  rfl

/-- The directories of a listing are the partitions within its bounds. -/
lemma perm_of_archiveDayDirs (hsized : ∀ e ∈ tree, ¬Oversized e)
    (h : archiveDayDirs tree start finish = .ok dirs) :
    dirs.Perm ((partitions tree).filter fun part => inBounds start finish part.1) := by
  rw [archiveDayDirs_eq hsized] at h
  obtain rfl := Except.ok.inj h
  exact List.perm_insertionSort _ _

/-- The read of everything goes through when no directory is oversized and every file is Parquet. -/
lemma readAllFlightsArchive_spec (h : readAllFlightsArchive tree = .ok all) :
    (∀ e ∈ tree, ¬Oversized e) ∧
      (∀ part ∈ partitions tree, ∀ file ∈ tree.filesBelow isHidden part.2, file.isParquet) ∧
      ∀ select, (all.filter select).Perm (scan (partitionRows tree) select (partitions tree)) := by
  unfold readAllFlightsArchive at h
  cases hdirs : archiveDayDirs tree none none with
  | error e => simp [hdirs] at h
  | ok dirs =>
    simp only [hdirs] at h
    have hsized : ∀ e ∈ tree, ¬Oversized e := by
      intro e he hlarge
      obtain ⟨error, herror⟩ : ∃ error, archiveDayDirs tree none none = .error error :=
        archiveDayDirs_error he hlarge
      cases herror.symm.trans hdirs
    have hperm : dirs.Perm (partitions tree) := by
      simpa [inBounds] using perm_of_archiveDayDirs hsized hdirs
    have hparquet := isParquet_of_readFiles h
    refine ⟨hsized, fun part hpart file hfile => ?_, fun select => ?_⟩
    · exact hparquet file (List.mem_flatMap.mpr ⟨part, hperm.mem_iff.mpr hpart, hfile⟩)
    · rw [readFiles_of_isParquet hparquet] at h
      obtain rfl := Except.ok.inj h
      rw [filter_rows_dirFiles]
      exact scan_perm hperm

lemma inBounds_iff {start finish date : Date} :
    inBounds (some start) (some finish) date ↔ start ≤ date ∧ date ≤ finish := by
  simp [inBounds]

/-- What the read of a window returns. -/
lemma readFlightsArchive_window (hsized : ∀ e ∈ tree, ¬Oversized e)
    (hparquet : ∀ part ∈ partitions tree, ∀ file ∈ tree.filesBelow isHidden part.2, file.isParquet)
    (hcutoff : now.sub (days * 86400000000) = some cutoff) :
    ∃ dirs, dirs.Perm ((partitions tree).filter fun part =>
        inBounds (some cutoff.date) (some now.date) part.1) ∧
      readFlightsArchive (some days) now tree =
        if dirs ≠ [] ∧ dirFiles tree dirs = [] then .error .arrowInvalid
        else .ok (scan (partitionRows tree) (cutoff.instant ≤ ·.landedAt) dirs) := by
  have hdirs : archiveDayDirs tree (some cutoff.date) (some now.date) = _ :=
    archiveDayDirs_eq hsized
  refine ⟨_, perm_of_archiveDayDirs hsized hdirs, ?_⟩
  rw [readFlightsArchive, hcutoff]
  simp only [hdirs]
  have hperm := perm_of_archiveDayDirs hsized hdirs
  generalize (((partitions tree).filter fun part =>
    inBounds (some cutoff.date) (some now.date) part.1).insertionSort fun a b => a.1 ≤ b.1) = dirs
    at hperm
  cases dirs with
  | nil => rfl
  | cons first rest =>
    have hall : ∀ file ∈ dirFiles tree (first :: rest), file.isParquet := by
      intro file hfile
      obtain ⟨part, hpart, hfile⟩ := List.mem_flatMap.mp hfile
      exact hparquet part (List.mem_of_mem_filter (hperm.mem_iff.mp hpart)) file hfile
    simp only [ne_eq, reduceCtorEq, not_false_eq_true, true_and]
    split_ifs
    · rfl
    · rw [readFiles_of_isParquet hall, ← filter_rows_dirFiles]
      rfl

/-- The partitions of the window have a file, if there are any. -/
lemma dirFiles_eq_nil_iff : dirs ≠ [] ∧ dirFiles tree dirs = [] ↔
    (∃ part, part ∈ dirs) ∧ ∀ part ∈ dirs, tree.filesBelow isHidden part.2 = [] := by
  rw [dirFiles, List.flatMap_eq_nil_iff, Ne, List.eq_nil_iff_forall_not_mem, not_forall]
  simp only [not_not]

/-- The read of a window agrees with the filtered read of everything exactly when the window, taken
from the dates of `now` and of the cutoff in their own zone, covers the rows it is for. -/
theorem windowAgrees_iff (hall : readFlightsArchive none now tree = .ok all)
    (hstored : StoredByDate tree) :
    WindowAgrees days now tree all ↔ WindowCovers days now tree all := by
  obtain ⟨hsized, hparquet, hrows⟩ := readAllFlightsArchive_spec hall
  have hall : ∀ row, row ∈ all ↔ ∃ part ∈ partitions tree, row ∈ partitionRows tree part := by
    intro row
    have hmem := (hrows fun _ => true).mem_iff (a := row)
    simpa [scan] using hmem
  unfold WindowAgrees WindowCovers
  refine exists_congr fun cutoff => ?_
  by_cases hcutoff : now.sub (days * 86400000000) = some cutoff
  · obtain ⟨dirs, hdirs, hread⟩ := readFlightsArchive_window hsized hparquet hcutoff
    have hmem : ∀ part, part ∈ dirs ↔
        part ∈ partitions tree ∧ cutoff.date ≤ part.1 ∧ part.1 ≤ now.date := by
      intro part
      rw [hdirs.mem_iff, List.mem_filter, inBounds_iff]
    have hscan : (scan (partitionRows tree) (cutoff.instant ≤ ·.landedAt) dirs).Perm
        (all.filter (cutoff.instant ≤ ·.landedAt)) ↔ ∀ row ∈ all, cutoff.instant ≤ row.landedAt →
          cutoff.date ≤ utcDate row.landedAt ∧ utcDate row.landedAt ≤ now.date := by
      rw [(scan_perm hdirs).congr_left, (hrows _).congr_right, scan_filter_perm_iff]
      constructor
      · intro hkept row hrow hlate
        obtain ⟨part, hpart, hrow⟩ := (hall row).mp hrow
        rw [hstored part hpart row hrow]
        exact inBounds_iff.mp (hkept part hpart row hrow (by simpa using hlate))
      · intro hkept part hpart row hrow hlate
        rw [inBounds_iff, ← hstored part hpart row hrow]
        exact hkept row ((hall row).mpr ⟨part, hpart, hrow⟩) (by simpa using hlate)
    have hfiles : ¬(dirs ≠ [] ∧ dirFiles tree dirs = []) ↔ ∀ part ∈ partitions tree,
        cutoff.date ≤ part.1 → part.1 ≤ now.date → ∃ part' ∈ partitions tree,
          cutoff.date ≤ part'.1 ∧ part'.1 ≤ now.date ∧ tree.filesBelow isHidden part'.2 ≠ [] := by
      rw [dirFiles_eq_nil_iff]
      simp only [hmem, not_and, not_forall, exists_prop]
      constructor
      · intro h part hpart hlow hhigh
        obtain ⟨part', ⟨hpart', hlow', hhigh'⟩, hne⟩ := h ⟨part, hpart, hlow, hhigh⟩
        exact ⟨part', hpart', hlow', hhigh', hne⟩
      · rintro h ⟨part, hpart, hlow, hhigh⟩
        obtain ⟨part', hpart', hlow', hhigh', hne⟩ := h part hpart hlow hhigh
        exact ⟨part', ⟨hpart', hlow', hhigh'⟩, hne⟩
    rw [← hscan, ← hfiles, hread]
    constructor
    · rintro ⟨rows, -, hok, hperm⟩
      split_ifs at hok with hnone
      obtain rfl := Except.ok.inj hok
      exact ⟨hcutoff, hperm, hnone⟩
    · rintro ⟨-, hperm, hsome⟩
      exact ⟨_, hcutoff, if_neg hsome, hperm⟩
  · simp [hcutoff]

/-! ### A flight of 22 May -/

/-- A flight that landed on 22 May 2026 at 02:00. -/
def mayRow : ArchiveRow := bareRow "a0b1c2-1779408000" 1779415200000000

/-- The archive of the flight. -/
def mayTree : ArchiveTree :=
  (writeFlightsArchive [mayRow] ⟨2026, 5, 22, by decide⟩ "0123456789ab" none FileTree.empty).1

/-- An hour after the landing, on a clock that is `offset` ahead of UTC. -/
def hourAfterLanding (offset : ℤ) (h : -86400000000 < offset ∧ offset < 86400000000)
    (hwall : IsDatetime (1779418800000000 + offset : ℤ)) : AwareDatetime where
  wall := (1779418800000000 + offset : ℤ)
  fold := false
  zone := .fixed offset h
  isDatetime := hwall

/-- In UTC, the read of one day finds the flight. -/
theorem may_flight_in_utc :
    WindowAgrees 1 (hourAfterLanding 0 (by decide) (by decide)) mayTree [mayRow] := by
  refine (windowAgrees_iff (by decide +kernel) (by decide +kernel)).mpr ⟨_, dif_pos (by decide), ?_, ?_⟩
  · decide +kernel
  · decide +kernel

/-- Seven hours behind UTC, `now` is on 21 May, and the flight of 22 May is not found. -/
theorem may_flight_not_behind_utc :
    ¬∀ (days : ℕ) (now : AwareDatetime) (tree : ArchiveTree) (all : List ArchiveRow),
      readFlightsArchive none now tree = .ok all → StoredByDate tree →
        (∀ row ∈ all, row.landedAt ≤ now.instant) → WindowAgrees days now tree all := by
  intro h
  obtain ⟨cutoff, rows, hcutoff, hread, hperm⟩ := h 1
    (hourAfterLanding (-25200000000) (by decide) (by decide)) mayTree [mayRow] (by decide +kernel)
    (by decide +kernel) (by decide)
  have hnone : readFlightsArchive (some 1) (hourAfterLanding (-25200000000) (by decide) (by decide))
      mayTree = .ok [] := by decide +kernel
  have hinstant : ∀ cutoff ∈ (hourAfterLanding (-25200000000) (by decide) (by decide)).sub
      ((1 : ℕ) * 86400000000), cutoff.instant ≤ mayRow.landedAt := by decide
  have hlate := hinstant cutoff hcutoff
  cases hnone.symm.trans hread
  have hlength := hperm.length_eq
  rw [List.filter_cons_of_pos (by simpa using hlate)] at hlength
  cases hlength

end FleetMonitor
