import FleetMonitor.Archive.ColdStore
import FleetMonitor.Library.Validation

/-!
# The purge of the cold store

`purge_flights_archive_before` drops the day directories of a precomputed list, one after the other,
and prunes the directories they lie in. Whatever else the tree has stays (`DroppedFrom`). The one
thing that stops it is a directory that says a number too large for a `date`.
-/

namespace FleetMonitor

open Library

/-! ### What the purge is for -/

/-- The date of a day directory, if it can be read. -/
def partitionOf (e : Entry ArchiveFile) : Option (Date × Path) :=
  match dayNames e with
  | none           => none
  | some (y, m, d) =>
    match partitionDate y m d with
    | .ok date => some (date, e.path)
    | .error _ => none

/-- The day partitions of a tree. -/
def partitions (tree : ArchiveTree) : List (Date × Path) := tree.entries.rows.filterMap partitionOf

/-- A directory that a partition lies in. -/
def IsParentOf (p partition : Path) : Prop :=
  p = partition.dropLast ∨ p = partition.dropLast.dropLast

/-- The partitions are dropped with all they have. Everything else stays, but for directories they
lay in that have nothing left. -/
structure DroppedFrom (tree : ArchiveTree) (dropped : List (Date × Path)) (tree' : ArchiveTree) :
    Prop where
  shrinks : ∀ e ∈ tree', e ∈ tree
  gone : ∀ part ∈ dropped, ∀ e ∈ tree', ¬part.2 <+: e.path
  keeps : ∀ e ∈ tree, e ∈ tree' ∨ (∃ part ∈ dropped, part.2 <+: e.path) ∨
    (∃ part ∈ dropped, IsParentOf e.path part.2) ∧ e.node = .dir ∧ ∀ e' ∈ tree', ¬e.path <+: e'.path

/-- What a purge is to leave and to return. -/
structure Purged (tree : ArchiveTree) (cutoff : Date) (tree' : ArchiveTree) (dates : List Date) :
    Prop where
  dates : dates.Pairwise (· ≤ ·) ∧
    dates.Perm (((partitions tree).filter (·.1 < cutoff)).map Prod.fst)
  dropped : DroppedFrom tree ((partitions tree).filter (·.1 < cutoff)) tree'
  others : ∀ part ∈ partitions tree, cutoff ≤ part.1 →
    ∀ e ∈ tree, part.2 <+: e.path → e ∈ tree'
  oldest : ∃ oldest, oldestFlightsArchivePartition tree' = .ok oldest ∧ ∀ date ∈ oldest, cutoff ≤ date

/-- A purge of the tree does what it is for. -/
def PurgesBefore (tree : ArchiveTree) (cutoff : Date) : Prop :=
  ∃ tree' dates, purgeFlightsArchiveBefore cutoff tree = .ok (tree', dates) ∧
    Purged tree cutoff tree' dates

/-- The names of a day directory are those of a year, a month and a day that `int` reads, and one of
the three is too large for a `date`. -/
def Oversized (e : Entry ArchiveFile) : Prop :=
  ∃ y m d year month day, dayNames e = some (y, m, d) ∧ intPart y = .ok year ∧
    intPart m = .ok month ∧ intPart d = .ok day ∧ ¬(FitsInt year ∧ FitsInt month ∧ FitsInt day)

variable {tree tree' : ArchiveTree} {e : Entry ArchiveFile} {start finish : Option Date}
  {part : Date × Path}

/-! ### Reading dates -/

lemma intPart_ne_overflow (name : String) : intPart name ≠ .error .overflowError := by
  rw [intPart]
  split
  · simp
  · split <;> simp

lemma pyDate_overflow_iff {year month day : ℤ} : pyDate year month day = .error .overflowError ↔
    ¬(FitsInt year ∧ FitsInt month ∧ FitsInt day) := by
  rw [pyDate]
  split_ifs with hfits hdate
  · simpa using hfits
  · simpa using hfits
  · simpa using hfits

lemma partitionDate_overflow_iff {y m d : String} :
    partitionDate y m d = .error .overflowError ↔ ∃ year month day, intPart y = .ok year ∧
      intPart m = .ok month ∧ intPart d = .ok day ∧
      ¬(FitsInt year ∧ FitsInt month ∧ FitsInt day) := by
  rw [partitionDate]
  cases hy : intPart y with
  | error e =>
    have hne := intPart_ne_overflow y
    rw [hy] at hne
    simpa [bind, Except.bind] using hne
  | ok year =>
    cases hm : intPart m with
    | error e =>
      have hne := intPart_ne_overflow m
      rw [hm] at hne
      simpa [bind, Except.bind] using hne
    | ok month =>
      cases hd : intPart d with
      | error e =>
        have hne := intPart_ne_overflow d
        rw [hd] at hne
        simpa [bind, Except.bind] using hne
      | ok day => simp [bind, Except.bind, pyDate_overflow_iff]

/-- Only an oversized directory stops the loop; otherwise it takes the partitions in bounds. -/
lemma archiveDayDir_eq (h : ¬Oversized e) : archiveDayDir start finish e =
    .ok ((partitionOf e).filter fun part => inBounds start finish part.1) := by
  unfold archiveDayDir partitionOf
  cases hnames : dayNames e with
  | none => rfl
  | some names =>
    obtain ⟨y, m, d⟩ := names
    simp only
    cases hdate : partitionDate y m d with
    | ok date =>
      rw [Option.filter_some]
    | error error =>
      cases error with
      | valueError => rfl
      | indexError => rfl
      | overflowError =>
        obtain ⟨year, month, day, hy, hm, hd, hlarge⟩ := partitionDate_overflow_iff.mp hdate
        exact absurd ⟨y, m, d, year, month, day, hnames, hy, hm, hd, hlarge⟩ h

lemma archiveDayDir_of_oversized (h : Oversized e) :
    archiveDayDir start finish e = .error .overflowError := by
  obtain ⟨y, m, d, year, month, day, hnames, hy, hm, hd, hlarge⟩ := h
  have hdate := partitionDate_overflow_iff.mpr ⟨year, month, day, hy, hm, hd, hlarge⟩
  simp only [archiveDayDir, hnames, hdate]

lemma reduceOption_map_filter {rows : List (Entry ArchiveFile)} :
    (rows.map fun e => (partitionOf e).filter fun part => inBounds start finish part.1).reduceOption =
      (rows.filterMap partitionOf).filter fun part => inBounds start finish part.1 := by
  induction rows with
  | nil => rfl
  | cons e rows ih =>
    rw [List.map_cons]
    cases hpart : partitionOf e with
    | none =>
      rw [Option.filter_none, List.reduceOption_cons_of_none, ih, List.filterMap_cons_none hpart]
    | some part =>
      rw [List.filterMap_cons_some hpart, Option.filter_some]
      split_ifs with hin
      · rw [List.reduceOption_cons_of_some, ih]
        simp [hin]
      · rw [List.reduceOption_cons_of_none, ih]
        simp [hin]

/-- The listing goes through exactly when no directory is oversized; it has the partitions in
bounds, sorted by date. -/
lemma archiveDayDirs_eq (h : ∀ e ∈ tree, ¬Oversized e) : archiveDayDirs tree start finish =
    .ok (((partitions tree).filter fun part => inBounds start finish part.1).insertionSort
      fun a b => a.1 ≤ b.1) := by
  have hmapM : tree.entries.rows.mapM (archiveDayDir start finish) =
      .ok (tree.entries.rows.map fun e =>
        (partitionOf e).filter fun part => inBounds start finish part.1) := by
    have hall : ∀ e ∈ tree.entries.rows, ¬Oversized e := h
    generalize tree.entries.rows = rows at hall
    induction rows with
    | nil => rfl
    | cons e rows ih =>
      obtain ⟨he, hrows⟩ := List.forall_mem_cons.mp hall
      exact mapM_cons_eq_ok_iff.mpr ⟨_, _, archiveDayDir_eq he, ih hrows, rfl⟩
  rw [archiveDayDirs, hmapM, Except.map, reduceOption_map_filter]
  rfl

lemma archiveDayDirs_error (he : e ∈ tree) (h : Oversized e) :
    ∃ error, archiveDayDirs tree start finish = .error error := by
  rw [archiveDayDirs]
  cases hmapM : tree.entries.rows.mapM (archiveDayDir start finish) with
  | error error => exact ⟨error, rfl⟩
  | ok out =>
    obtain ⟨p, hp⟩ := exists_mapM_ok_iff.mp ⟨out, hmapM⟩ e he
    cases (archiveDayDir_of_oversized h).symm.trans hp

/-! ### Partitions of a tree -/

lemma dayNames_spec {names : String × String × String} (h : dayNames e = some names) :
    e.node = .dir ∧ e.path = [names.1, names.2.1, names.2.2] := by
  rw [dayNames] at h
  split at h
  next y m d hpath hnode =>
    split_ifs at h
    obtain rfl := Option.some.inj h
    exact ⟨hnode, hpath⟩
  next => cases h

lemma partitionOf_spec (h : partitionOf e = some part) :
    e = ⟨part.2, .dir⟩ ∧ part.2.length = 3 := by
  rw [partitionOf] at h
  split at h
  next => cases h
  next y m d hnames =>
    obtain ⟨hnode, hpath⟩ := dayNames_spec hnames
    split at h
    next date hdate =>
      obtain rfl := Option.some.inj h
      refine ⟨?_, by simp [hpath]⟩
      rw [← hnode]
    next => cases h

lemma mem_partitions : part ∈ partitions tree ↔ ∃ e ∈ tree, partitionOf e = some part :=
  List.mem_filterMap

/-- A partition is a directory of the tree, three levels down. -/
lemma mem_of_mem_partitions (h : part ∈ partitions tree) :
    ⟨part.2, .dir⟩ ∈ tree ∧ part.2.length = 3 := by
  obtain ⟨e, he, hpart⟩ := mem_partitions.mp h
  obtain ⟨heq, hlength⟩ := partitionOf_spec hpart
  exact ⟨heq ▸ he, hlength⟩

/-- No two partitions have one path. -/
lemma nodup_partitions (tree : ArchiveTree) : ((partitions tree).map Prod.snd).Nodup := by
  have hsub : List.Sublist ((partitions tree).map Prod.snd) (tree.entries.rows.map Entry.path) := by
    rw [partitions]
    generalize tree.entries.rows = rows
    induction rows with
    | nil => exact .slnil
    | cons e rows ih =>
      cases hpart : partitionOf e with
      | none =>
        rw [List.filterMap_cons_none hpart]
        exact ih.cons _
      | some part =>
        obtain ⟨rfl, -⟩ := partitionOf_spec hpart
        rw [List.filterMap_cons_some hpart]
        exact ih.cons_cons _
  exact hsub.nodup tree.entries.nodup

/-! ### Dropping -/

/-- One day directory is dropped. -/
lemma dropDay_spec (path : Path) (tree : ArchiveTree) :
    (∀ e ∈ dropDay path tree, e ∈ tree ∧ ¬path <+: e.path) ∧
      ∀ e ∈ tree, e ∈ dropDay path tree ∨ path <+: e.path ∨
        IsParentOf e.path path ∧ e.node = .dir ∧ ∀ e' ∈ dropDay path tree, ¬e.path <+: e'.path := by
  constructor
  · intro e he
    exact FileTree.mem_rmtree.mp ((FileTree.rmdirs_spec _ _).1 he)
  · intro e he
    by_cases hbelow : path <+: e.path
    · exact .inr (.inl hbelow)
    · rcases (FileTree.rmdirs_spec [path.dropLast, path.dropLast.dropLast] (tree.rmtree path)).2
        (FileTree.mem_rmtree.mpr ⟨he, hbelow⟩) with hleft | ⟨hparent, hnode, hnothing⟩
      · exact .inl hleft
      · exact .inr (.inr ⟨by simpa [IsParentOf] using hparent, hnode, hnothing⟩)

lemma droppedFrom_nil (tree : ArchiveTree) : DroppedFrom tree [] tree :=
  ⟨fun _ => id, by simp, fun _ => .inl⟩

/-- What stays is kept by one more step. -/
lemma DroppedFrom.dropDay {dropped : List (Date × Path)} (h : DroppedFrom tree dropped tree')
    (part : Date × Path) : DroppedFrom tree (dropped ++ [part]) (dropDay part.2 tree') := by
  obtain ⟨hleft, hstays⟩ := dropDay_spec part.2 tree'
  refine ⟨fun e he => h.shrinks e (hleft e he).1, fun p hp e he => ?_, fun e he => ?_⟩
  · rcases List.mem_append.mp hp with hp | hp
    · exact h.gone p hp e (hleft e he).1
    · obtain rfl := List.mem_singleton.mp hp
      exact (hleft e he).2
  · rcases h.keeps e he with hkept | ⟨p, hp, hbelow⟩ | ⟨⟨p, hp, hparent⟩, hnode, hnothing⟩
    · rcases hstays e hkept with hkept | hbelow | ⟨hparent, hnode, hnothing⟩
      · exact .inl hkept
      · exact .inr (.inl ⟨part, by simp, hbelow⟩)
      · exact .inr (.inr ⟨⟨part, by simp, hparent⟩, hnode, hnothing⟩)
    · exact .inr (.inl ⟨p, List.mem_append_left _ hp, hbelow⟩)
    · exact .inr (.inr ⟨⟨p, List.mem_append_left _ hp, hparent⟩, hnode,
        fun e' he' => hnothing e' (hleft e' he').1⟩)

lemma IsParentOf.length_lt {p path : Path} (h : IsParentOf p path) (hpath : path.length = 3) :
    p.length < 3 := by
  rcases h with rfl | rfl
  · rw [List.length_dropLast]
    omega
  · rw [List.length_dropLast, List.length_dropLast]
    omega

/-- The loop drops the partitions one after the other: each is still there when its turn comes. -/
lemma dropDays_spec {done dirs : List (Date × Path)} (h : DroppedFrom tree done tree')
    (hdirs : ∀ part ∈ done ++ dirs, ⟨part.2, .dir⟩ ∈ tree ∧ part.2.length = 3)
    (hnodup : ((done ++ dirs).map Prod.snd).Nodup) :
    ∃ tree'', dropDays dirs tree' = .ok (tree'', dirs.map Prod.fst) ∧
      DroppedFrom tree (done ++ dirs) tree'' := by
  induction dirs generalizing done tree' with
  | nil => exact ⟨tree', rfl, by simpa using h⟩
  | cons part dirs ih =>
    obtain ⟨hmem, hlength⟩ := hdirs part (by simp)
    have hthere : ⟨part.2, .dir⟩ ∈ tree' := by
      rcases h.keeps _ hmem with hkept | ⟨p, hp, hbelow⟩ | ⟨⟨p, hp, hparent⟩, -⟩
      · exact hkept
      · have hp3 := (hdirs p (List.mem_append_left _ hp)).2
        have heq : p.2 = part.2 := hbelow.eq_of_length (hp3.trans hlength.symm)
        rw [List.map_append, List.nodup_append] at hnodup
        exact absurd heq (hnodup.2.2 p.2 (List.mem_map_of_mem hp) part.2 (by simp))
      · have hp3 := (hdirs p (List.mem_append_left _ hp)).2
        have hlt : part.2.length < 3 := hparent.length_lt hp3
        omega
    have hsplit : done ++ part :: dirs = (done ++ [part]) ++ dirs := by simp
    rw [hsplit] at hdirs hnodup ⊢
    obtain ⟨tree'', hdrop, hdropped⟩ := ih (h.dropDay part) hdirs hnodup
    refine ⟨tree'', ?_, hdropped⟩
    rw [dropDays, if_pos (FileTree.mem_iff.mp hthere), hdrop]
    rfl

lemma DroppedFrom.congr {dropped dropped' : List (Date × Path)} (h : DroppedFrom tree dropped tree')
    (hmem : ∀ part, part ∈ dropped ↔ part ∈ dropped') : DroppedFrom tree dropped' tree' := by
  refine ⟨h.shrinks, fun part hpart => h.gone part ((hmem part).mpr hpart), fun e he => ?_⟩
  simpa only [hmem] using h.keeps e he

/-- Two partitions above one path are one. -/
lemma eq_of_below {part part' : Date × Path} (hpart : part ∈ partitions tree)
    (hpart' : part' ∈ partitions tree) {p : Path} (hbelow : part.2 <+: p)
    (hbelow' : part'.2 <+: p) :
    part = part' := by
  have hlength := (mem_of_mem_partitions hpart).2
  have hlength' := (mem_of_mem_partitions hpart').2
  have hpath : part.2 = part'.2 := by
    rw [List.prefix_iff_eq_take.mp hbelow, List.prefix_iff_eq_take.mp hbelow', hlength, hlength']
  exact List.inj_on_of_nodup_map (nodup_partitions tree) hpart hpart' hpath

/-- The partitions that stay keep what they have. -/
lemma DroppedFrom.keeps_partition {cutoff : Date}
    (h : DroppedFrom tree ((partitions tree).filter (·.1 < cutoff)) tree')
    (hpart : part ∈ partitions tree) (hcutoff : cutoff ≤ part.1) (he : e ∈ tree)
    (hbelow : part.2 <+: e.path) : e ∈ tree' := by
  rcases h.keeps e he with hkept | ⟨p, hp, hbelow'⟩ | ⟨⟨p, hp, hparent⟩, -⟩
  · exact hkept
  · obtain ⟨hp, hold⟩ := List.mem_filter.mp hp
    obtain rfl := eq_of_below hpart hp hbelow hbelow'
    exact absurd (of_decide_eq_true hold) (not_lt.mpr hcutoff)
  · obtain ⟨hp, -⟩ := List.mem_filter.mp hp
    have hlt := hparent.length_lt (mem_of_mem_partitions hp).2
    have hle := hbelow.length_le
    have hlength := (mem_of_mem_partitions hpart).2
    omega

/-- Of a tree that is purged the oldest partition is not older than the cutoff. -/
lemma DroppedFrom.oldest {cutoff : Date}
    (h : DroppedFrom tree ((partitions tree).filter (·.1 < cutoff)) tree')
    (hsized : ∀ e ∈ tree, ¬Oversized e) :
    ∃ oldest, oldestFlightsArchivePartition tree' = .ok oldest ∧ ∀ date ∈ oldest, cutoff ≤ date := by
  have hsized' : ∀ e ∈ tree', ¬Oversized e := fun e he => hsized e (h.shrinks e he)
  refine ⟨_, by rw [oldestFlightsArchivePartition, archiveDayDirs_eq hsized']; rfl, ?_⟩
  intro date hdate
  obtain ⟨part, hhead, rfl⟩ := Option.map_eq_some_iff.mp hdate
  have hpart : part ∈ partitions tree' :=
    List.mem_of_mem_filter ((List.mem_insertionSort _).mp (List.mem_of_head? hhead))
  obtain ⟨hthere, -⟩ := mem_of_mem_partitions hpart
  obtain ⟨e, he, hof⟩ := mem_partitions.mp hpart
  have hold : part ∈ partitions tree := mem_partitions.mpr ⟨e, h.shrinks e he, hof⟩
  by_contra hlt
  exact h.gone part (List.mem_filter.mpr ⟨hold, by simpa using hlt⟩) _ hthere List.prefix_rfl

/-- Without an oversized directory a purge does what it is for. -/
lemma purgesBefore_of_sized {cutoff : Date} (hcutoff : minDate < cutoff)
    (hsized : ∀ e ∈ tree, ¬Oversized e) : PurgesBefore tree cutoff := by
  rw [PurgesBefore]
  rw [purgeFlightsArchiveBefore, if_neg (not_le.mpr hcutoff), archiveDayDirs_eq hsized]
  simp only
  set listed := (partitions tree).filter fun part => inBounds none (some (cutoff - 1)) part.1
    with hlisted
  have hlisted : listed = (partitions tree).filter (·.1 < cutoff) := by
    refine List.filter_congr fun part _ => ?_
    rw [inBounds, Option.all_none, Option.all_some, Bool.true_and, decide_eq_decide]
    exact Int.le_sub_one_iff
  rw [hlisted]
  set dirs := ((partitions tree).filter (·.1 < cutoff)).insertionSort fun a b => a.1 ≤ b.1
  have hperm : dirs.Perm ((partitions tree).filter (·.1 < cutoff)) := List.perm_insertionSort _ _
  have hmem : ∀ part ∈ [] ++ dirs, ⟨part.2, .dir⟩ ∈ tree ∧ part.2.length = 3 := fun part hpart =>
    mem_of_mem_partitions (List.mem_of_mem_filter (hperm.mem_iff.mp hpart))
  have hnodup : (([] ++ dirs).map Prod.snd).Nodup :=
    ((hperm.map Prod.snd).nodup_iff).mpr
      ((List.filter_sublist.map Prod.snd).nodup (nodup_partitions tree))
  obtain ⟨tree', hdrop, hdropped⟩ := dropDays_spec (droppedFrom_nil tree) hmem hnodup
  have hdropped := hdropped.congr fun part => hperm.mem_iff
  refine ⟨tree', dirs.map Prod.fst, hdrop, ⟨?_, hperm.map Prod.fst⟩, hdropped,
    fun part hpart hlate e => hdropped.keeps_partition hpart hlate, hdropped.oldest hsized⟩
  rw [List.pairwise_map]
  exact List.pairwise_insertionSort (fun a b : Date × Path => a.1 ≤ b.1) _

/-- A purge drops the partitions before the cutoff and nothing else exactly when no day directory of
the tree says a number that is too large for a `date`. -/
theorem purgesBefore_iff (tree : ArchiveTree) (cutoff : Date) (hcutoff : minDate < cutoff) :
    PurgesBefore tree cutoff ↔ ∀ e ∈ tree, ¬Oversized e := by
  constructor
  · rintro ⟨tree', dates, hpurge, -⟩ e he hlarge
    obtain ⟨error, herror⟩ := archiveDayDirs_error he hlarge
    rw [purgeFlightsArchiveBefore, if_neg (not_le.mpr hcutoff), herror] at hpurge
    cases hpurge
  · exact purgesBefore_of_sized hcutoff

/-- The tree with one empty file in the day directory of these names. -/
def treeOf (year month day : String) : ArchiveTree :=
  (FileTree.empty.write [year, month, day] "flights_0123456789ab.parquet" (.parquet [])).getD
    FileTree.empty

/-- A partition of 5 January 2026 is purged on 1 March. -/
theorem january_purged : PurgesBefore (treeOf "year=2026" "month=01" "day=05") 20513 := by
  refine (purgesBefore_iff _ 20513 (by decide)).mpr fun e he hlarge => ?_
  have hall : ∀ e ∈ (treeOf "year=2026" "month=01" "day=05").entries.rows,
      archiveDayDir none none e ≠ .error .overflowError := by decide +kernel
  exact hall e he (archiveDayDir_of_oversized hlarge)

/-- A year of eleven digits stops the purge. -/
theorem eleven_digit_year_not_purged :
    ¬∀ (tree : ArchiveTree) (cutoff : Date), minDate < cutoff → PurgesBefore tree cutoff := by
  intro h
  obtain ⟨tree', dates, hpurge, -⟩ :=
    h (treeOf "year=99999999999" "month=01" "day=05") 20513 (by decide)
  have herror : (purgeFlightsArchiveBefore 20513
      (treeOf "year=99999999999" "month=01" "day=05")).isOk = false := by decide +kernel
  rw [hpurge] at herror
  cases herror

end FleetMonitor
