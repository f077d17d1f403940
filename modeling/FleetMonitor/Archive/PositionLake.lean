import FleetMonitor.Archive.ArchiveReads
import FleetMonitor.Detection.EnrichedPositions

/-!
# The lake of positions

Every poll is one file in `positions/year=…/month=…/day=…/hour=…`, in the hour of the poll; a write
that fails may leave the directory without the file. A recent read steps from the hour of its cutoff
to the hour of `now` and opens the directories it meets; what it leaves out has no row it is to
find.
-/

namespace FleetMonitor

open Library

/-! ### Writing -/

/-- The files below `positions`. -/
abbrev PositionTree := FileTree (List PositionSnapshot)

/-- The directory of an hour. -/
def hourDir (t : UtcDatetime) : Path :=
  archiveDir t.civilDate ++ ["hour=" ++ zeroPad 2 t.hour]

/-- The name of the file of a poll, with its random part. -/
def snapshotName (t : UtcDatetime) (uuid : String) : String :=
  "snapshot_" ++ zeroPad 2 t.hour ++ zeroPad 2 t.minute ++ zeroPad 2 t.second ++ "_" ++
    zeroPad 6 t.microsecond ++ "_" ++ uuid ++ ".parquet"

/-- What a write or a read of the lake raises; `fault` is what making the directory, building the
table, writing the file or renaming it raises. -/
inductive LakeError where
  | valueError
  | overflowError
  | fault
  | arrowInvalid
  deriving DecidableEq, Repr

/-- A call of `write_positions_snapshot`, and where it breaks off, if it does; `polledAt` is none
for a poll without a time zone. -/
structure SnapshotCall where
  rows : List PositionSnapshot
  polledAt : Option AwareDatetime
  uuid : String
  fault : Option (FileTree.WriteFault (List PositionSnapshot)) := none

/-- `write_positions_snapshot`: the lake after the call, and what it raises. -/
def writePositionsSnapshot (lake : PositionTree) (call : SnapshotCall) :
    PositionTree × Option LakeError :=
  if call.rows = [] then (lake, some .valueError)
  else
    match call.polledAt with
    | none          => (lake, some .valueError)
    | some polledAt =>
      match polledAt.astimezoneUtc with
      | none        => (lake, some .overflowError)
      | some polled =>
        let (lake', written) := lake.writeFile (hourDir polled) (snapshotName polled call.uuid)
          (call.rows.map fun row => { row with tsPolled := polled.instant }) call.fault
        (lake', if written then none else some .fault)

/-- The time of a poll that there is a file to write of. -/
def SnapshotCall.polled (call : SnapshotCall) : Option UtcDatetime :=
  if call.rows = [] then none else call.polledAt.bind AwareDatetime.astimezoneUtc

/-! ### Reading -/

/-- The loop of `_recent_partition_dirs`. -/
def recentPartitionDirs (lake : PositionTree) (finish : Instant) (cur : UtcDatetime) :
    Except LakeError (List Path) :=
  if hcur : cur.instant ≤ finish then
    if h : IsDatetime (cur.instant + 3600000000 : ℤ) then
      (recentPartitionDirs lake finish ⟨_, h⟩).map fun dirs =>
        if ∃ e ∈ lake.entries.rows, e.path = hourDir cur then hourDir cur :: dirs else dirs
    else .error .overflowError
  else .ok []
termination_by (finish + 3600000000 - cur.instant : ℤ).toNat
decreasing_by
  have hless : ∀ m n : ℤ, m ≤ n →
      (n + 3600000000 - (m + 3600000000)).toNat < (n + 3600000000 - m).toNat := by
    intro m n hle
    omega
  exact hless _ _ hcur

/-- `read_recent_positions`. A filter needs a column to read, so a dataset without a file has none.
-/
def PositionTree.readRecentPositions (lookbackMinutes : ℕ) (now : AwareDatetime)
    (lake : PositionTree) :
    Except LakeError (List PositionSnapshot) :=
  match now.sub (lookbackMinutes * 60000000) with
  | none        => .error .overflowError
  | some cutoff =>
    match cutoff.astimezoneUtc, now.astimezoneUtc with
    | some start, some finish =>
      match recentPartitionDirs lake finish.instant start.truncateHour with
      | .error e => .error e
      | .ok []   => .ok []
      | .ok dirs =>
        let files := dirs.flatMap (lake.filesBelow isHidden)
        if files = [] then .error .arrowInvalid
        else .ok (files.flatten.filter (cutoff.instant ≤ ·.tsPolled))
    | _, _ => .error .overflowError

/-- All rows of the lake. -/
def fullScan (lake : PositionTree) : List PositionSnapshot :=
  (lake.filesBelow isHidden []).flatten

variable {lake lake' : PositionTree} {t u cur finish : UtcDatetime} {call : SnapshotCall}
  {calls : List SnapshotCall} {dirs : List Path}

/-! ### Hours -/

@[simp] lemma length_hourDir (t : UtcDatetime) : (hourDir t).length = 4 := rfl

/-- A path lies below one directory of an hour. -/
lemma hourDir_eq_of_prefix {p : Path} (h : hourDir t <+: p) (h' : hourDir u <+: p) :
    hourDir t = hourDir u := by
  have hlength : (hourDir t).length = (hourDir u).length := by simp
  exact (List.prefix_of_prefix_length_le h h' hlength.le).eq_of_length hlength

/-- Different hours have different directories. -/
lemma hourDir_eq_iff : hourDir t = hourDir u ↔ t.hours = u.hours := by
  rw [UtcDatetime.hours_eq_iff, hourDir, hourDir]
  constructor
  · intro h
    obtain ⟨hdate, hhour⟩ := List.append_inj h (by simp)
    refine ⟨archiveDir_injective hdate, zeroPad_injective 2 ?_⟩
    exact String.append_right_inj "hour=" |>.mp (List.singleton_injective hhour)
  · rintro ⟨hdate, hhour⟩
    rw [hdate, hhour]

/-- The directories of the hours from `cur` on are that of `cur` and those of the hours after it. -/
lemma exists_hourDir_iff (hle : cur.hours ≤ finish.hours) (p : Path) :
    (∃ u : UtcDatetime, (cur.hours ≤ u.hours ∧ u.hours ≤ finish.hours) ∧ p = hourDir u) ↔
      p = hourDir cur ∨
        ∃ u : UtcDatetime, (cur.hours + 1 ≤ u.hours ∧ u.hours ≤ finish.hours) ∧ p = hourDir u := by
  constructor
  · rintro ⟨u, ⟨hlow, hhigh⟩, rfl⟩
    rcases hlow.eq_or_lt with heq | hlt
    · exact .inl (hourDir_eq_iff.mpr heq.symm)
    · exact .inr ⟨u, ⟨hlt, hhigh⟩, rfl⟩
  · rintro (rfl | ⟨u, ⟨hlow, hhigh⟩, rfl⟩)
    · exact ⟨cur, ⟨le_rfl, hle⟩, rfl⟩
    · exact ⟨u, ⟨by omega, hhigh⟩, rfl⟩

variable (lake) in
/-- The loop meets the directories of the hours from `cur` to `finish`, each once. -/
lemma recentPartitionDirs_spec (hfull : cur.IsFullHour)
    (hlast : IsDatetime (finish.instant + 3600000000 : ℤ)) :
    ∃ dirs, recentPartitionDirs lake finish.instant cur = .ok dirs ∧ dirs.Nodup ∧
      ∀ p, p ∈ dirs ↔ (∃ e ∈ lake, e.path = p) ∧
        ∃ u : UtcDatetime, (cur.hours ≤ u.hours ∧ u.hours ≤ finish.hours) ∧ p = hourDir u := by
  fun_induction recentPartitionDirs lake finish.instant cur with
  | case1 cur hcur h ih =>
    obtain ⟨dirs, hdirs, hnodup, hmem⟩ := ih (hfull.add_hour h)
    simp only [UtcDatetime.hours_add_hour h] at hmem
    have hlater : hourDir cur ∉ dirs := by
      intro hin
      obtain ⟨-, u, ⟨hlow, -⟩, heq⟩ := (hmem _).mp hin
      rw [← hourDir_eq_iff.mp heq] at hlow
      omega
    rw [hdirs]
    refine ⟨_, rfl, ?_, fun p => ?_⟩
    · split_ifs
      · exact List.nodup_cons.mpr ⟨hlater, hnodup⟩
      · exact hnodup
    · rw [exists_hourDir_iff (hfull.le_iff.mp hcur), and_or_left, ← hmem]
      split_ifs with hexists
      · rw [List.mem_cons]
        refine or_congr_left ⟨?_, And.right⟩
        rintro rfl
        exact ⟨hexists, rfl⟩
      · refine (or_iff_right ?_).symm
        rintro ⟨hthere, rfl⟩
        exact hexists hthere
  | case2 cur hcur h => exact absurd (UtcDatetime.isDatetime_add_hour hcur hlast) h
  | case3 cur hcur =>
    refine ⟨[], rfl, List.nodup_nil, fun p => ?_⟩
    rw [hfull.le_iff] at hcur
    simp only [List.not_mem_nil, false_iff, not_and, not_exists]
    rintro - u ⟨hlow, hhigh⟩
    exact absurd (hlow.trans hhigh) hcur

/-! ### What the calls build -/

/-- Directories down to the hours, and files in those of the hours; what is not hidden has the rows
of a poll of the hour. -/
structure IsLake (lake : PositionTree) : Prop where
  shaped : lake.IsShaped 4
  file : ∀ path rows, ⟨path, .file rows⟩ ∈ lake → ∃ (t : UtcDatetime) (name : String),
    path = hourDir t ++ [name] ∧ (isHidden name = false → ∀ row ∈ rows, row.tsPolled = t.instant)

/-- The call has made the directory of the hour, whatever came after. -/
def SnapshotCall.MadeHour (call : SnapshotCall) (u : UtcDatetime) : Prop :=
  ∃ t ∈ call.polled, FileTree.Makes 4 call.fault ∧ t.hours = u.hours

/-- The call has put its file into the directory of the hour. -/
def SnapshotCall.WroteHour (call : SnapshotCall) (u : UtcDatetime) : Prop :=
  ∃ t ∈ call.polled, call.fault = none ∧ t.hours = u.hours

/-- The hours of the lake, by the calls that have built it. -/
structure BuiltBy (calls : List SnapshotCall) (lake : PositionTree) : Prop extends IsLake lake where
  dir_iff : ∀ u, ⟨hourDir u, .dir⟩ ∈ lake ↔ ∃ call ∈ calls, call.MadeHour u
  file_of_wrote : ∀ u, (∃ call ∈ calls, call.WroteHour u) →
    ∃ name rows, isHidden name = false ∧ ⟨hourDir u ++ [name], .file rows⟩ ∈ lake

lemma isHidden_append {label : String} {c : Char} (h : label.toList.head? = some c) (hdot : c ≠ '.')
    (hunderscore : c ≠ '_') (rest : String) : isHidden (label ++ rest) = false := by
  simp [isHidden, String.toList_append, h, hdot, hunderscore]

lemma isHidden_snapshotName (t : UtcDatetime) (uuid : String) :
    isHidden (snapshotName t uuid) = false := by
  unfold snapshotName
  simp only [String.append_assoc]
  exact isHidden_append (c := 's') rfl (by decide) (by decide) _

lemma isHidden_tempName (name : String) : isHidden (FileTree.tempName name) = true := by
  simp [isHidden, FileTree.tempName, String.toList_append]

lemma isHidden_of_mem_hourDir {name : String} (h : name ∈ hourDir t) : isHidden name = false := by
  simp only [hourDir, archiveDir, List.cons_append, List.nil_append, List.mem_cons,
    List.not_mem_nil, or_false] at h
  rcases h with rfl | rfl | rfl | rfl
  · exact isHidden_append (c := 'y') rfl (by decide) (by decide) _
  · exact isHidden_append (c := 'm') rfl (by decide) (by decide) _
  · exact isHidden_append (c := 'd') rfl (by decide) (by decide) _
  · exact isHidden_append (c := 'h') rfl (by decide) (by decide) _

/-- A call whose poll has no time writes nothing. -/
lemma writePositionsSnapshot_of_none (h : call.polled = none) :
    (writePositionsSnapshot lake call).1 = lake := by
  rw [SnapshotCall.polled] at h
  rw [writePositionsSnapshot]
  split_ifs at h ⊢ with hrows
  · rfl
  · cases hpolled : call.polledAt with
    | none => rfl
    | some polledAt =>
      rw [hpolled, Option.bind_some] at h
      simp only [h]

variable (lake) in
lemma writePositionsSnapshot_of_some (h : call.polled = some t) :
    ∃ rows : List PositionSnapshot, (∀ row ∈ rows, row.tsPolled = t.instant) ∧
      (writePositionsSnapshot lake call).1 =
        (lake.writeFile (hourDir t) (snapshotName t call.uuid) rows call.fault).1 := by
  rw [SnapshotCall.polled] at h
  refine ⟨call.rows.map fun row => { row with tsPolled := t.instant }, fun row hrow => ?_, ?_⟩
  · obtain ⟨row, -, rfl⟩ := List.mem_map.mp hrow
    rfl
  · rw [writePositionsSnapshot]
    split_ifs at h ⊢ with hrows
    obtain ⟨polledAt, hpolled, ht⟩ := Option.bind_eq_some_iff.mp h
    simp only [hpolled, ht]

/-- A call makes the directory of its hour, and puts a file there if it comes so far. -/
lemma BuiltBy.write (h : BuiltBy calls lake) (call : SnapshotCall) :
    BuiltBy (calls ++ [call]) (writePositionsSnapshot lake call).1 := by
  cases hpolled : call.polled with
  | none =>
    have hnever : ∀ u, ¬call.MadeHour u ∧ ¬call.WroteHour u := by
      simp [SnapshotCall.MadeHour, SnapshotCall.WroteHour, hpolled]
    rw [writePositionsSnapshot_of_none hpolled]
    exact
      { h with
        dir_iff := fun u => by simp [h.dir_iff, hnever]
        file_of_wrote := fun u hu => h.file_of_wrote u (by simpa [hnever] using hu) }
  | some t =>
    obtain ⟨rows, hrows, hwrite⟩ := writePositionsSnapshot_of_some lake hpolled
    have hmem : ∀ e, e ∈ (lake.writeFile (hourDir t) (snapshotName t call.uuid) rows
        call.fault).1 ↔ _ := fun e => h.shaped.mem_writeFile rfl
    have hnew : ∀ u, call.MadeHour u ↔ FileTree.Makes 4 call.fault ∧ t.hours = u.hours := by
      simp [SnapshotCall.MadeHour, hpolled]
    rw [hwrite]
    refine ⟨⟨h.shaped.writeFile rfl, fun path rows' hfile => ?_⟩, fun u => ?_,
      fun u ⟨call', hcall', hwrote⟩ => ?_⟩
    · rcases (hmem _).mp hfile with ⟨file, hleft, heq⟩ | ⟨-, ⟨hnode, -⟩ | hold⟩
      · cases heq
        refine ⟨t, file.1, rfl, fun hvisible => ?_⟩
        rcases FileTree.leftFile_cases hleft with ⟨-, rfl⟩ | htemp
        · exact hrows
        · rw [htemp, isHidden_tempName] at hvisible
          cases hvisible
      · cases hnode
      · exact h.file path rows' hold
    · have hsame : (⟨hourDir u, .dir⟩ : Entry (List PositionSnapshot)) = ⟨hourDir t, .dir⟩ ↔
          t.hours = u.hours := by
        rw [Entry.mk.injEq, and_iff_left rfl, hourDir_eq_iff, eq_comm]
      rw [h.shaped.mem_writeFile_of_length rfl (by decide) rfl, h.dir_iff, hsame, and_comm, ← hnew]
      simp [or_and_right, exists_or, or_comm]
    · rcases List.mem_append.mp hcall' with hcall' | hcall'
      · obtain ⟨name, rows', hvisible, hold⟩ := h.file_of_wrote u ⟨call', hcall', hwrote⟩
        by_cases hsame : ∃ file ∈ FileTree.leftFile (snapshotName t call.uuid) rows call.fault,
            hourDir u ++ [name] = hourDir t ++ [file.1]
        · obtain ⟨file, hleft, heq⟩ := hsame
          refine ⟨name, file.2, hvisible, (hmem _).mpr (.inl ⟨file, hleft, ?_⟩)⟩
          rw [heq]
        · refine ⟨name, rows', hvisible, (hmem _).mpr (.inr ⟨fun file hleft heq => ?_, .inr hold⟩)⟩
          exact hsame ⟨file, hleft, heq⟩
      · obtain rfl := List.mem_singleton.mp hcall'
        obtain ⟨t', ht', hfault, hhours⟩ := hwrote
        obtain rfl : t = t' := Option.some.inj (hpolled.symm.trans ht')
        refine ⟨_, rows, isHidden_snapshotName t call'.uuid, (hmem _).mpr (.inl ?_)⟩
        rw [hfault, ← hourDir_eq_iff.mpr hhours]
        exact ⟨_, rfl, rfl⟩

/-- The files that no hidden name leads to. -/
def visibleFiles (lake : PositionTree) : List (Path × List PositionSnapshot) :=
  lake.files.filter fun file => FileTree.IsVisibleBelow isHidden [] file.1

/-- A visible file is that of a poll. -/
lemma IsLake.of_mem_visibleFiles (h : IsLake lake) {file : Path × List PositionSnapshot}
    (hfile : file ∈ visibleFiles lake) : ∃ (t : UtcDatetime) (name : String),
      file.1 = hourDir t ++ [name] ∧ ∀ row ∈ file.2, row.tsPolled = t.instant := by
  obtain ⟨hfile, hvisible⟩ := List.mem_filter.mp hfile
  obtain ⟨t, name, hpath, hrows⟩ := h.file _ _ (FileTree.mem_files.mp hfile)
  refine ⟨t, name, hpath, hrows ?_⟩
  have hname := (of_decide_eq_true hvisible).2 name (by simp [hpath])
  simpa using hname

/-- Below the directory of an hour a file is visible when it is at all. -/
lemma IsLake.visible_hourDir (h : IsLake lake) {file : Path × List PositionSnapshot}
    (hfile : file ∈ lake.files) :
    FileTree.IsVisibleBelow isHidden (hourDir u) file.1 ↔
      hourDir u <+: file.1 ∧ FileTree.IsVisibleBelow isHidden [] file.1 := by
  obtain ⟨t, name, hpath, -⟩ := h.file _ _ (FileTree.mem_files.mp hfile)
  rw [FileTree.IsVisibleBelow, FileTree.IsVisibleBelow, and_iff_right List.nil_prefix]
  refine and_congr_right fun _ => ?_
  have hdrop : file.1.drop (hourDir u).length = [name] := by
    rw [hpath, length_hourDir, ← length_hourDir t, List.drop_left]
  rw [hdrop, List.length_nil, List.drop_zero, hpath, List.forall_mem_singleton,
    List.forall_mem_append, List.forall_mem_singleton]
  refine (and_iff_right fun n hn => ?_).symm
  simp [isHidden_of_mem_hourDir hn]

lemma IsLake.filesBelow_hourDir (h : IsLake lake) (u : UtcDatetime) :
    lake.filesBelow isHidden (hourDir u) =
      ((visibleFiles lake).filter (hourDir u <+: ·.1)).map Prod.snd := by
  rw [FileTree.filesBelow, visibleFiles, List.filter_filter]
  congr 1
  refine List.filter_congr fun file hfile => ?_
  rw [← Bool.decide_and, decide_eq_decide]
  exact h.visible_hourDir hfile

lemma filter_fullScan (select : PositionSnapshot → Bool) :
    (fullScan lake).filter select = scan Prod.snd select (visibleFiles lake) := by
  rw [fullScan, FileTree.filesBelow, ← visibleFiles, scan, List.flatMap_def]

/-- The files of different hours, directory by directory. -/
lemma IsLake.filter_filesBelow_perm (h : IsLake lake) (hnodup : dirs.Nodup)
    (hhours : ∀ dir ∈ dirs, ∃ u : UtcDatetime, dir = hourDir u) (select : PositionSnapshot → Bool) :
    ((dirs.flatMap (lake.filesBelow isHidden)).flatten.filter select).Perm
      (scan Prod.snd select ((visibleFiles lake).filter fun file =>
        dirs.any (· <+: file.1))) := by
  set below : Path → Path × List PositionSnapshot → Bool := fun dir file => dir <+: file.1
  have hunique : ∀ file ∈ visibleFiles lake, ∀ dir ∈ dirs, ∀ dir' ∈ dirs, below dir file →
      below dir' file → dir = dir' := by
    intro file _ dir hdir dir' hdir' hbelow hbelow'
    obtain ⟨u, rfl⟩ := hhours dir hdir
    obtain ⟨u', rfl⟩ := hhours dir' hdir'
    exact hourDir_eq_of_prefix (of_decide_eq_true hbelow) (of_decide_eq_true hbelow')
  have hbelow : dirs.flatMap (lake.filesBelow isHidden) =
      (dirs.flatMap fun dir => (visibleFiles lake).filter (below dir)).map Prod.snd := by
    rw [List.map_flatMap]
    refine List.flatMap_congr fun dir hdir => ?_
    obtain ⟨u, rfl⟩ := hhours dir hdir
    exact h.filesBelow_hourDir u
  rw [hbelow, ← List.flatMap_def]
  exact scan_perm (flatMap_filter_perm below hnodup hunique)

/-- A row is in the window: polled from the cutoff on, and before the hour of `now` ends. -/
def InLookback (cutoff now : Instant) (row : PositionSnapshot) : Prop :=
  cutoff ≤ row.tsPolled ∧ row.tsPolled < ((now / 3600000000 + 1) * 3600000000 : ℤ)

instance (cutoff now : Instant) : DecidablePred (InLookback cutoff now) :=
  fun row => inferInstanceAs (Decidable (cutoff ≤ row.tsPolled ∧
    row.tsPolled < ((now / 3600000000 + 1) * 3600000000 : ℤ)))

lemma lt_end_of_hour_iff : t.instant < ((finish.instant / 3600000000 + 1) * 3600000000 : ℤ) ↔
    t.hours ≤ finish.hours := by
  have hdiv :
      ∀ m n : ℤ, m < (n / 3600000000 + 1) * 3600000000 ↔ m / 3600000000 ≤ n / 3600000000 := by
    intro m n
    omega
  exact hdiv _ _

lemma hours_mono (h : t.instant ≤ u.instant) : t.hours ≤ u.hours :=
  Int.ediv_le_ediv (by decide) h

/-- A file is kept when its hour is one of those the loop meets. -/
lemma IsLake.kept_iff {start : UtcDatetime} {file : Path × List PositionSnapshot} {name : String}
    (hdirs : ∀ p, p ∈ dirs ↔ (∃ e ∈ lake, e.path = p) ∧
      ∃ u : UtcDatetime, (start.hours ≤ u.hours ∧ u.hours ≤ finish.hours) ∧ p = hourDir u)
    (hfile : file ∈ visibleFiles lake) (hpath : file.1 = hourDir t ++ [name]) :
    (dirs.any (· <+: file.1)) = true ↔ start.hours ≤ t.hours ∧ t.hours ≤ finish.hours := by
  have hunder : hourDir t <+: file.1 := hpath ▸ List.prefix_append _ _
  rw [List.any_eq_true]
  constructor
  · rintro ⟨dir, hdir, hvisible⟩
    obtain ⟨-, u, hrange, rfl⟩ := (hdirs dir).mp hdir
    have hsame : hourDir u = hourDir t := hourDir_eq_of_prefix (of_decide_eq_true hvisible) hunder
    rwa [← hourDir_eq_iff.mp hsame]
  · intro hrange
    have hthere : ⟨hourDir t, .dir⟩ ∈ lake :=
      FileTree.dir_of_prefix (FileTree.mem_files.mp (List.mem_of_mem_filter hfile))
        (List.cons_ne_nil _ _) hunder
        fun heq => by simpa using congrArg List.length (heq.trans hpath)
    exact ⟨hourDir t, (hdirs _).mpr ⟨⟨_, hthere, rfl⟩, t, hrange, rfl⟩, decide_eq_true hunder⟩

/-- The pruned scan of a lake finds the rows of the lookback. -/
lemma IsLake.scan_lookback {start : UtcDatetime} (h : IsLake lake)
    (hdirs : ∀ p, p ∈ dirs ↔ (∃ e ∈ lake, e.path = p) ∧
      ∃ u : UtcDatetime, (start.hours ≤ u.hours ∧ u.hours ≤ finish.hours) ∧ p = hourDir u) :
    (scan Prod.snd (start.instant ≤ ·.tsPolled) ((visibleFiles lake).filter fun file =>
        dirs.any (· <+: file.1))).Perm
      (scan Prod.snd (InLookback start.instant finish.instant ·) (visibleFiles lake)) := by
  -- No file of a kept hour has a row after the hour of `finish`.
  have hselect : scan Prod.snd (start.instant ≤ ·.tsPolled) ((visibleFiles lake).filter fun file =>
        dirs.any (· <+: file.1)) =
      scan Prod.snd (InLookback start.instant finish.instant ·) ((visibleFiles lake).filter
        fun file => dirs.any (· <+: file.1)) := by
    refine List.filter_congr fun row hrow => ?_
    obtain ⟨file, hfile, hrow⟩ := List.mem_flatMap.mp hrow
    obtain ⟨hfile, hkept⟩ := List.mem_filter.mp hfile
    obtain ⟨t, name, hpath, hpolled⟩ := h.of_mem_visibleFiles hfile
    have hrange := (IsLake.kept_iff hdirs hfile hpath).mp hkept
    rw [decide_eq_decide, InLookback, hpolled row hrow, lt_end_of_hour_iff]
    exact ⟨fun hle => ⟨hle, hrange.2⟩, And.left⟩
  rw [hselect, scan_filter_perm_iff]
  intro file hfile row hrow hin
  obtain ⟨t, name, hpath, hpolled⟩ := h.of_mem_visibleFiles hfile
  obtain ⟨hlow, hhigh⟩ := of_decide_eq_true hin
  rw [hpolled row hrow] at hlow hhigh
  exact (IsLake.kept_iff hdirs hfile hpath).mpr ⟨hours_mono hlow, lt_end_of_hour_iff.mp hhigh⟩

/-- If a call has made the directory of an hour between the two, one has put its file there. -/
def FilesIfMade (calls : List SnapshotCall) (start finish : UtcDatetime) : Prop :=
  (∃ call ∈ calls, ∃ u : UtcDatetime, (start.hours ≤ u.hours ∧ u.hours ≤ finish.hours) ∧
    call.MadeHour u) →
  ∃ call ∈ calls, ∃ u : UtcDatetime, (start.hours ≤ u.hours ∧ u.hours ≤ finish.hours) ∧
    call.WroteHour u

/-- Of the directories that a read meets one has a file. -/
lemma BuiltBy.files_ne_nil {start : UtcDatetime} (h : BuiltBy calls lake)
    (hfiles : FilesIfMade calls start finish)
    (hdirs : ∀ p, p ∈ dirs ↔ (∃ e ∈ lake, e.path = p) ∧
      ∃ u : UtcDatetime, (start.hours ≤ u.hours ∧ u.hours ≤ finish.hours) ∧ p = hourDir u)
    (hne : dirs ≠ []) : dirs.flatMap (lake.filesBelow isHidden) ≠ [] := by
  obtain ⟨dir, hdir⟩ := List.exists_mem_of_ne_nil dirs hne
  obtain ⟨⟨e, he, hpath⟩, u, hrange, rfl⟩ := (hdirs dir).mp hdir
  have hmade : ⟨hourDir u, .dir⟩ ∈ lake := by
    have hnode : e.node = .dir := (h.shaped e he).mpr (by rw [hpath, length_hourDir])
    rwa [← hpath, ← hnode]
  obtain ⟨call, hcall, hmadeHour⟩ := (h.dir_iff u).mp hmade
  obtain ⟨call', hcall', u', hrange', hwrote⟩ := hfiles ⟨call, hcall, u, hrange, hmadeHour⟩
  obtain ⟨name, rows, hvisible, hfile⟩ := h.file_of_wrote u' ⟨call', hcall', hwrote⟩
  have hdir' : hourDir u' ∈ dirs := by
    refine (hdirs _).mpr ⟨⟨⟨hourDir u', .dir⟩, ?_, rfl⟩, u', hrange', rfl⟩
    exact FileTree.dir_of_prefix hfile (List.cons_ne_nil _ _) (List.prefix_append _ _) (by simp)
  have hbelow : FileTree.IsVisibleBelow isHidden (hourDir u') (hourDir u' ++ [name]) := by
    refine ⟨List.prefix_append _ _, ?_⟩
    rw [List.drop_left]
    simp [hvisible]
  refine List.ne_nil_of_mem (List.mem_flatMap.mpr ⟨_, hdir', List.mem_map_of_mem
    (List.mem_filter.mpr ⟨FileTree.mem_files.mpr hfile, decide_eq_true hbelow⟩)⟩)

section

variable {now cutoff : AwareDatetime} {lookback : ℕ}
  (hcutoff : now.sub (lookback * 60000000) = some cutoff)
  (hstart : cutoff.astimezoneUtc = some t) (hfinish : now.astimezoneUtc = some finish)
  (hlast : IsDatetime (finish.instant + 3600000000 : ℤ))
  (hfiles : FilesIfMade calls t finish)

include hcutoff hstart hfinish hlast hfiles

lemma BuiltBy.exists_read (h : BuiltBy calls lake) :
    ∃ rows, PositionTree.readRecentPositions lookback now lake = .ok rows ∧
      rows.Perm ((fullScan lake).filter (InLookback cutoff.instant now.instant ·)) := by
  obtain ⟨dirs, hread, hnodup, hdirs⟩ := recentPartitionDirs_spec lake
    t.isFullHour_truncateHour hlast
  rw [UtcDatetime.hours_truncateHour] at hdirs
  have hhours : ∀ dir ∈ dirs, ∃ u : UtcDatetime, dir = hourDir u := by
    intro dir hdir
    obtain ⟨-, u, -, rfl⟩ := (hdirs dir).mp hdir
    exact ⟨u, rfl⟩
  have hperm := (h.filter_filesBelow_perm hnodup hhours
    (t.instant ≤ ·.tsPolled)).trans (h.scan_lookback hdirs)
  rw [← filter_fullScan, AwareDatetime.instant_of_astimezoneUtc hstart,
    AwareDatetime.instant_of_astimezoneUtc hfinish] at hperm
  refine ⟨_, ?_, hperm⟩
  simp only [PositionTree.readRecentPositions, hcutoff, hstart, hfinish, hread]
  cases dirs with
  | nil => rfl
  | cons dir dirs =>
    have hsome := h.files_ne_nil hfiles hdirs (List.cons_ne_nil _ _)
    simp only [if_neg hsome]

/-- The detector's model of the read selects the same rows from the rows of all files, unless the
clock changes its offset after the cutoff. -/
theorem BuiltBy.exists_read_model (h : BuiltBy calls lake)
    (hsteady : cutoff.instant = (now.instant - minutes lookback : ℤ)) :
    ∃ rows, PositionTree.readRecentPositions lookback now lake = .ok rows ∧
      rows.Perm (readRecentPositions (fullScan lake) lookback now.instant) := by
  obtain ⟨rows, hread, hperm⟩ := h.exists_read hcutoff hstart hfinish hlast hfiles
  refine ⟨rows, hread, hperm.trans (.of_eq (List.filter_congr fun row _ => ?_))⟩
  have hhours : ∀ m n p : ℤ, m ≤ n ∧ n < (p / 3600000000 + 1) * 3600000000 ↔
      m / 3600000000 ≤ n / 3600000000 ∧ n / 3600000000 ≤ p / 3600000000 ∧ m ≤ n := by omega
  rw [decide_eq_decide, InLookback, hsteady]
  exact hhours _ _ _

end

end FleetMonitor
