import FleetMonitor.Archive.FlightArchive
import FleetMonitor.Foundry.FlightLifecycle
import FleetMonitor.Library.Calendar
import FleetMonitor.Library.FileTree
import Mathlib.Data.List.ReduceOption
import Mathlib.Data.List.Sort

/-!
# The cold store on disk

Archived flights lie in `flights_archive/year=…/month=…/day=…`, one directory for each landed date.
A date is read back from the names of the three directories; what cannot be read is skipped. The
tree can have anything else in it but symbolic links, and several directories for one date.
-/

namespace FleetMonitor

open Library

/-! ### Partitions -/

/-- A file below `flights_archive`: a Parquet file with its rows, or something else. -/
inductive ArchiveFile where
  | parquet (rows : List ArchiveRow)
  | other (text : String)
  deriving DecidableEq, Repr

abbrev ArchiveTree := FileTree ArchiveFile

/-- A calendar date as the number of its day. -/
def dateOf (d : CivilDate) : Date := d.ordinal - 719163

/-- `date.min`. -/
def minDate : Date := -719162

/-- `date.max`. -/
def maxDate : Date := 2932896

/-- What reading a date from names raises. -/
inductive PartitionError where
  | valueError
  | indexError
  | overflowError
  deriving DecidableEq, Repr

/-- The integers that fit a C `int`. -/
def FitsInt (n : ℤ) : Prop := -2 ^ 31 ≤ n ∧ n < 2 ^ 31

instance : DecidablePred FitsInt := fun _ => inferInstanceAs (Decidable (_ ∧ _))

/-- `date(year, month, day)`. -/
def pyDate (year month day : ℤ) : Except PartitionError Date :=
  if FitsInt year ∧ FitsInt month ∧ FitsInt day then
    if h : IsDate year.toNat month.toNat day.toNat then .ok (dateOf ⟨_, _, _, h⟩)
    else .error .valueError
  else .error .overflowError

/-- `int(name.split("=", 1)[1])`. -/
def intPart (name : String) : Except PartitionError ℤ :=
  match name.toList.dropWhile (· ≠ '=') with
  | []      => .error .indexError
  | _ :: cs =>
    match pyInt cs with
    | some n => .ok n
    | none   => .error .valueError

/-- The date that the names of three directories say. -/
def partitionDate (yearName monthName dayName : String) : Except PartitionError Date := do
  let year ← intPart yearName
  let month ← intPart monthName
  let day ← intPart dayName
  pyDate year month day

/-- The pattern `year=*/month=*/day=*`. -/
def MatchesDay (yearName monthName dayName : String) : Prop :=
  "year=".toList <+: yearName.toList ∧ "month=".toList <+: monthName.toList ∧
    "day=".toList <+: dayName.toList

instance (yearName monthName dayName : String) :
    Decidable (MatchesDay yearName monthName dayName) :=
  inferInstanceAs (Decidable (_ ∧ _))

/-- The names a day directory is reached by. -/
def dayNames (e : Entry ArchiveFile) : Option (String × String × String) :=
  match e.path, e.node with
  | [y, m, d], .dir => if MatchesDay y m d then some (y, m, d) else none
  | _, _            => none

/-- The date is within bounds that may be missing. -/
def inBounds (start finish : Option Date) (date : Date) : Bool :=
  start.all (· ≤ date) && finish.all (date ≤ ·)

/-- One turn of the loop of `_archive_day_dirs`: a day directory whose date cannot be read is
skipped, unless a number is too large for a `date`. -/
def archiveDayDir (start finish : Option Date) (e : Entry ArchiveFile) :
    Except PartitionError (Option (Date × Path)) :=
  match dayNames e with
  | none           => .ok none
  | some (y, m, d) =>
    match partitionDate y m d with
    | .ok date              => .ok (if inBounds start finish date then some (date, e.path) else none)
    | .error .overflowError => .error .overflowError
    | .error _              => .ok none

/-- `_archive_day_dirs`. -/
def archiveDayDirs (tree : ArchiveTree) (start finish : Option Date) :
    Except PartitionError (List (Date × Path)) :=
  (tree.entries.rows.mapM (archiveDayDir start finish)).map fun out =>
    out.reduceOption.insertionSort fun a b => a.1 ≤ b.1

/-- `oldest_flights_archive_partition`. -/
def oldestFlightsArchivePartition (tree : ArchiveTree) : Except PartitionError (Option Date) :=
  (archiveDayDirs tree none none).map fun dirs => dirs.head?.map Prod.fst

/-! ### Writing -/

/-- `f"{n:0{width}d}"`. -/
def zeroPad (width n : ℕ) : String := String.ofList ((Nat.toDigits 10 n).leftpad width '0')

/-- The directory of a landed date. -/
def archiveDir (d : CivilDate) : Path :=
  ["year=" ++ zeroPad 4 d.year, "month=" ++ zeroPad 2 d.month, "day=" ++ zeroPad 2 d.day]

/-- What a write raises: of no rows, or what making the directory, building the table, writing the
file or renaming it raises. -/
inductive WriteError where
  | valueError
  | fault
  deriving DecidableEq, Repr

/-- `write_flights_archive`, with the random part of the file's name and where it breaks off, if it
does. -/
def writeFlightsArchive (rows : List ArchiveRow) (landedDate : CivilDate) (uuid : String)
    (fault : Option (FileTree.WriteFault ArchiveFile)) (tree : ArchiveTree) :
    ArchiveTree × Option WriteError :=
  if rows = [] then (tree, some .valueError)
  else
    let (tree', written) := tree.writeFile (archiveDir landedDate)
      ("flights_" ++ uuid ++ ".parquet") (.parquet rows) fault
    (tree', if written then none else some .fault)

/-! ### The purge -/

/-- What a purge raises: out of a date, or from `shutil.rmtree` of what is no directory. -/
inductive PurgeError where
  | partition (e : PartitionError)
  | osError
  deriving DecidableEq, Repr

/-- Drop one day directory, and then its month and its year if they are empty. -/
def dropDay (path : Path) (tree : ArchiveTree) : ArchiveTree :=
  FileTree.rmdirs [path.dropLast, path.dropLast.dropLast] (tree.rmtree path)

/-- The loop of `purge_flights_archive_before`. -/
def dropDays : List (Date × Path) → ArchiveTree → Except PurgeError (ArchiveTree × List Date)
  | [], tree => .ok (tree, [])
  | (date, path) :: dirs, tree =>
    if ⟨path, .dir⟩ ∈ tree.entries.rows then
      (dropDays dirs (dropDay path tree)).map fun (tree', dropped) => (tree', date :: dropped)
    else .error .osError

/-- `purge_flights_archive_before`; the day before `date.min` is no date. -/
def purgeFlightsArchiveBefore (cutoff : Date) (tree : ArchiveTree) :
    Except PurgeError (ArchiveTree × List Date) :=
  if cutoff ≤ minDate then .error (.partition .overflowError)
  else
    match archiveDayDirs tree none (some (cutoff - 1)) with
    | .error e => .error (.partition e)
    | .ok dirs => dropDays dirs tree

end FleetMonitor
