import FleetMonitor.Archive.ArchiveWrites
import FleetMonitor.Library.Runs
import Mathlib.Tactic.Linarith

/-!
# The retention of the cold store

The purge runs every day at 03:15 and drops the partitions of more than 30 days ago, counted from
the date it runs on; the check `archive_retention_enforced` counts from its own date. From midnight
to 03:15 the check is a day ahead of the last purge. A write that fails may leave the directory of
its date, and that is a partition too.
-/

namespace FleetMonitor

open Library

/-! ### The purge and its check -/

/-- `_ARCHIVE_RETENTION`. -/
def archiveRetention : Instant := 30 * 86400000000

/-- `(now - _ARCHIVE_RETENTION).date()`. -/
def retentionCutoff (now : Instant) : Date := utcDate (now - archiveRetention)

/-- The check `archive_retention_enforced`. -/
def archiveRetentionEnforced (now : Instant) (tree : ArchiveTree) : Except PartitionError Bool :=
  (oldestFlightsArchivePartition tree).map fun oldest => oldest.all (retentionCutoff now ≤ ·)

/-- What the jobs do to the cold store: `foundry_flight_archive` writes the flights of one landed
date, which may fail, and `foundry_flight_archive_purge` purges. -/
inductive RetentionEvent where
  | write (now : Instant) (rows : List ArchiveRow) (landedDate : CivilDate) (uuid : String)
      (fault : Option (FileTree.WriteFault ArchiveFile))
  | purge (now : Instant)
  deriving DecidableEq, Repr

namespace RetentionEvent

def now : RetentionEvent → Instant
  | write now _ _ _ _ => now
  | purge now         => now

/-- The flights of a write landed on its date, and not before the retention. -/
def WithinRetention : RetentionEvent → Prop
  | write now rows landedDate _ _ => ∀ row ∈ rows,
    utcDate row.landedAt = dateOf landedDate ∧ now - archiveRetention ≤ row.landedAt
  | purge _ => True

instance : DecidablePred WithinRetention
  | write _ _ _ _ _ => inferInstanceAs (Decidable (∀ row ∈ _, _ ∧ _))
  | purge _         => inferInstanceAs (Decidable True)

/-- The event; a purge only if it succeeds. -/
def act (tree : ArchiveTree) : RetentionEvent → Option ArchiveTree
  | write _ rows landedDate uuid fault =>
    some (writeFlightsArchive rows landedDate uuid fault tree).1
  | purge now => (purgeFlightsArchiveBefore (retentionCutoff now) tree).toOption.map Prod.fst

end RetentionEvent

/-- `15 3 * * *`, in UTC. -/
def IsPurgeTime (t : Instant) : Prop := t % 86400000000 = 3 * 3600000000 + 15 * 60000000

/-- A history of the cold store from `start` to `now`, in the order of time: it begins with an empty
archive, writes nothing past the retention, and purges at every scheduled time, if not more often.
-/
structure PurgedDaily (events : List RetentionEvent) (start now : Instant) (tree : ArchiveTree) :
    Prop where
  run : runActions RetentionEvent.act FileTree.empty events = some tree
  ordered : (events.map RetentionEvent.now).Pairwise (· ≤ ·)
  bounds : ∀ e ∈ events, start ≤ e.now ∧ e.now ≤ now
  within : ∀ e ∈ events, e.WithinRetention
  fired : ∀ t, IsPurgeTime t → start ≤ t → t < now → .purge t ∈ events

/-- A write of the history has made the directory of this date, whatever came after. -/
def MadeDate (events : List RetentionEvent) (date : Date) : Prop :=
  ∃ now rows d uuid fault, .write now rows d uuid fault ∈ events ∧
    (rows ≠ [] ∧ FileTree.Makes 3 fault) ∧ dateOf d = date

/-- No purge of the history is to drop this date. -/
def NotPurged (events : List RetentionEvent) (date : Date) : Prop :=
  ∀ now, .purge now ∈ events → retentionCutoff now ≤ date

variable {events : List RetentionEvent} {start now : Instant} {tree tree' : ArchiveTree}
  {e : RetentionEvent} {rows : List ArchiveRow} {d : CivilDate} {uuid : String}
  {fault : Option (FileTree.WriteFault ArchiveFile)}

/-! ### What a history leaves -/

/-- The partitions are those of the dates made and not purged. -/
structure Retains (events : List RetentionEvent) (tree : ArchiveTree) : Prop where
  shaped : tree.IsShaped 3
  named : ∀ e ∈ tree, e.path.length = 3 → ∃ d : CivilDate, e = ⟨archiveDir d, .dir⟩
  mem_iff : ∀ d : CivilDate, ⟨archiveDir d, .dir⟩ ∈ tree ↔
    MadeDate events (dateOf d) ∧ NotPurged events (dateOf d)
  late : ∀ now rows d uuid fault, .write now rows d uuid fault ∈ events → rows ≠ [] →
    retentionCutoff now ≤ dateOf d

lemma retains_nil : Retains [] FileTree.empty where
  shaped := FileTree.isShaped_empty
  named e he := absurd he (FileTree.not_mem_empty e)
  mem_iff d := by simp [MadeDate]
  late now rows d uuid fault h := absurd h List.not_mem_nil

lemma Retains.sized (h : Retains events tree) : ∀ e ∈ tree, ¬Oversized e := by
  intro e he hlarge
  have hlarge' := hlarge
  obtain ⟨y, m, d, -, -, -, hnames, -⟩ := hlarge'
  have hlength : e.path.length = 3 := by simp [(dayNames_spec hnames).2]
  obtain ⟨d, rfl⟩ := h.named e he hlength
  exact not_oversized_archiveDir d hlarge

/-- The partitions of a history, by their dates. -/
lemma Retains.mem_partitions_iff (h : Retains events tree) {date : Date} :
    (∃ part ∈ partitions tree, part.1 = date) ↔ MadeDate events date ∧ NotPurged events date := by
  constructor
  · rintro ⟨part, hpart, rfl⟩
    obtain ⟨e, he, hof⟩ := mem_partitions.mp hpart
    obtain ⟨rfl, hlength⟩ := partitionOf_spec hof
    obtain ⟨d, heq⟩ := h.named _ he hlength
    rw [heq] at he hof
    rw [partitionOf_archiveDir] at hof
    obtain rfl := Option.some.inj hof
    exact (h.mem_iff d).mp he
  · rintro ⟨hmade, hkept⟩
    obtain ⟨now, rows, d, uuid, fault, hevent, hmakes, rfl⟩ := hmade
    have hmem := (h.mem_iff d).mpr ⟨⟨now, rows, d, uuid, fault, hevent, hmakes, rfl⟩, hkept⟩
    exact ⟨_, archiveDir_mem_partitions hmem, rfl⟩

lemma retentionCutoff_mono {s t : Instant} (h : s ≤ t) : retentionCutoff s ≤ retentionCutoff t :=
  Int.ediv_le_ediv (by decide) (Int.sub_le_sub_right h _)

/-- Every date of a write is within the retention of that moment. -/
lemma RetentionEvent.WithinRetention.cutoff_le
    (h : (RetentionEvent.write now rows d uuid fault).WithinRetention) (hrows : rows ≠ []) :
    retentionCutoff now ≤ dateOf d := by
  obtain ⟨row, hrow⟩ := List.exists_mem_of_ne_nil rows hrows
  obtain ⟨hdate, hlate⟩ := h row hrow
  rw [← hdate]
  exact Int.ediv_le_ediv (by decide) hlate

lemma notPurged_append_write {date : Date} :
    NotPurged (events ++ [.write now rows d uuid fault]) date ↔ NotPurged events date := by
  simp [NotPurged]

lemma madeDate_append_write {date : Date} :
    MadeDate (events ++ [.write now rows d uuid fault]) date ↔
      (rows ≠ [] ∧ FileTree.Makes 3 fault) ∧ dateOf d = date ∨ MadeDate events date := by
  constructor
  · rintro ⟨t, rows', d', uuid', fault', hmem, hmakes, rfl⟩
    rcases List.mem_append.mp hmem with hmem | hmem
    · exact .inr ⟨t, rows', d', uuid', fault', hmem, hmakes, rfl⟩
    · cases List.mem_singleton.mp hmem
      exact .inl ⟨hmakes, rfl⟩
  · rintro (⟨hmakes, rfl⟩ | ⟨t, rows', d', uuid', fault', hmem, hmakes, rfl⟩)
    · exact ⟨now, rows, d, uuid, fault, by simp, hmakes, rfl⟩
    · exact ⟨t, rows', d', uuid', fault', List.mem_append_left _ hmem, hmakes, rfl⟩

lemma notPurged_append_purge {date : Date} :
    NotPurged (events ++ [.purge now]) date ↔ NotPurged events date ∧ retentionCutoff now ≤ date := by
  constructor
  · intro h
    exact ⟨fun t ht => h t (List.mem_append_left _ ht), h now (by simp)⟩
  · rintro ⟨hbefore, hlast⟩ t ht
    rcases List.mem_append.mp ht with ht | ht
    · exact hbefore t ht
    · cases List.mem_singleton.mp ht
      exact hlast

lemma madeDate_append_purge {date : Date} :
    MadeDate (events ++ [.purge now]) date ↔ MadeDate events date := by
  simp [MadeDate]

/-- A write adds the partition of its date, if it comes so far. -/
lemma Retains.write (h : Retains events tree) (hbefore : ∀ e ∈ events, e.now ≤ now)
    (hwithin : (RetentionEvent.write now rows d uuid fault).WithinRetention) :
    Retains (events ++ [.write now rows d uuid fault])
      (writeFlightsArchive rows d uuid fault tree).1 := by
  refine ⟨isShaped_writeFlightsArchive h.shaped, fun e he hlength => ?_, fun d' => ?_,
    fun t rows' d' uuid' fault' ht hrows => ?_⟩
  · rcases (mem_writeFlightsArchive h.shaped hlength).mp he with ⟨-, rfl⟩ | he
    · exact ⟨d, rfl⟩
    · exact h.named e he hlength
  · rw [mem_writeFlightsArchive h.shaped rfl, h.mem_iff, madeDate_append_write,
      notPurged_append_write]
    constructor
    · rintro (⟨hmakes, heq⟩ | ⟨hmade, hkept⟩)
      · obtain rfl := archiveDir_injective (congrArg Entry.path heq)
        exact ⟨.inl ⟨hmakes, rfl⟩, fun t ht =>
          (retentionCutoff_mono (hbefore _ ht)).trans (hwithin.cutoff_le hmakes.1)⟩
      · exact ⟨.inr hmade, hkept⟩
    · rintro ⟨⟨hmakes, hdate⟩ | hmade, hkept⟩
      · exact .inl ⟨hmakes, by rw [dateOf_injective hdate]⟩
      · exact .inr ⟨hmade, hkept⟩
  · rcases List.mem_append.mp ht with ht | ht
    · exact h.late t rows' d' uuid' fault' ht hrows
    · cases List.mem_singleton.mp ht
      exact hwithin.cutoff_le hrows

/-- A purge takes the partitions before its cutoff. -/
lemma Retains.purge {dates : List Date} (h : Retains events tree)
    (hpurge : purgeFlightsArchiveBefore (retentionCutoff now) tree = .ok (tree', dates)) :
    Retains (events ++ [.purge now]) tree' := by
  have hcutoff : minDate < retentionCutoff now := by
    by_contra hle
    rw [purgeFlightsArchiveBefore, if_pos (not_lt.mp hle)] at hpurge
    cases hpurge
  obtain ⟨tree'', dates', hpurge', hpurged⟩ := purgesBefore_of_sized hcutoff h.sized
  cases hpurge'.symm.trans hpurge
  refine ⟨h.shaped.mono hpurged.dropped.shrinks,
    fun e he => h.named e (hpurged.dropped.shrinks e he), fun d => ?_,
    fun t rows d uuid fault ht => h.late t rows d uuid fault (by simpa using ht)⟩
  rw [madeDate_append_purge, notPurged_append_purge, ← and_assoc, ← h.mem_iff]
  constructor
  · intro hmem
    have hbefore := hpurged.dropped.shrinks _ hmem
    refine ⟨hbefore, ?_⟩
    by_contra hold
    refine hpurged.dropped.gone _ (List.mem_filter.mpr ⟨archiveDir_mem_partitions hbefore, ?_⟩) _
      hmem List.prefix_rfl
    simpa using hold
  · rintro ⟨hmem, hlate⟩
    exact hpurged.others _ (archiveDir_mem_partitions hmem) hlate _ hmem List.prefix_rfl

lemma Retains.act (h : Retains events tree) (hbefore : ∀ e' ∈ events, e'.now ≤ e.now)
    (hwithin : e.WithinRetention) (hact : e.act tree = some tree') :
    Retains (events ++ [e]) tree' := by
  cases e with
  | write now rows d uuid fault =>
    obtain rfl := Option.some.inj hact
    exact h.write hbefore hwithin
  | purge now =>
    obtain ⟨⟨tree'', dates⟩, hpurge, rfl⟩ := Option.map_eq_some_iff.mp hact
    exact h.purge (toOption_eq_some_iff.mp hpurge)

lemma Retains.run {more : List RetentionEvent} (h : Retains events tree)
    (hordered : ((events ++ more).map RetentionEvent.now).Pairwise (· ≤ ·))
    (hwithin : ∀ e ∈ more, e.WithinRetention)
    (hrun : runActions RetentionEvent.act tree more = some tree') :
    Retains (events ++ more) tree' := by
  induction more generalizing events tree with
  | nil =>
    obtain rfl := Option.some.inj hrun
    rwa [List.append_nil]
  | cons e more ih =>
    obtain ⟨next, hact, hrun⟩ := Option.bind_eq_some_iff.mp hrun
    obtain ⟨hfirst, hrest⟩ := List.forall_mem_cons.mp hwithin
    have hbefore : ∀ e' ∈ events, e'.now ≤ e.now := by
      rw [List.map_append, List.pairwise_append] at hordered
      exact fun e' he' => hordered.2.2 _ (List.mem_map_of_mem he') _ (by simp)
    rw [List.append_cons] at hordered ⊢
    exact ih (h.act hbefore hfirst hact) hordered hrest hrun

lemma PurgedDaily.retains (h : PurgedDaily events start now tree) : Retains events tree := by
  have hretains := retains_nil.run (by simpa using h.ordered) h.within h.run
  simpa using hretains

/-! ### The check -/

/-- The check passes when no partition is past the retention. -/
lemma archiveRetentionEnforced_iff (hsized : ∀ e ∈ tree, ¬Oversized e) :
    archiveRetentionEnforced now tree = .ok true ↔
      ∀ part ∈ partitions tree, retentionCutoff now ≤ part.1 := by
  set dirs := ((partitions tree).filter fun part => inBounds none none part.1).insertionSort
    fun a b => a.1 ≤ b.1 with hdirs
  have hmem : ∀ part, part ∈ dirs ↔ part ∈ partitions tree := fun part => by
    rw [hdirs, List.mem_insertionSort]
    simp [inBounds]
  have hsorted : dirs.Pairwise fun a b => a.1 ≤ b.1 := List.pairwise_insertionSort _ _
  rw [archiveRetentionEnforced, oldestFlightsArchivePartition, archiveDayDirs_eq hsized, ← hdirs]
  simp only [Except.map, Except.ok.injEq, ← hmem]
  cases hcases : dirs with
  | nil => simp
  | cons first rest =>
    rw [hcases, List.pairwise_cons] at hsorted
    have hhead : ((first :: rest).head?.map Prod.fst).all (retentionCutoff now ≤ ·) =
        decide (retentionCutoff now ≤ first.1) := rfl
    rw [hhead, decide_eq_true_eq, List.forall_mem_cons]
    exact ⟨fun h => ⟨h, fun part hpart => h.trans (hsorted.1 part hpart)⟩, And.left⟩

lemma utcDate_mono {s t : Instant} (h : s ≤ t) : utcDate s ≤ utcDate t :=
  Int.ediv_le_ediv (by decide) h

/-- Every date has its purge. -/
lemma exists_purgeTime (date : Date) : ∃ t, IsPurgeTime t ∧ utcDate t = date := by
  have htime : ∀ n : ℤ, (n * 86400000000 + 11700000000) % 86400000000 = 11700000000 ∧
      (n * 86400000000 + 11700000000) / 86400000000 = n := by
    intro n
    omega
  exact ⟨date * 86400000000 + 11700000000, htime date⟩

/-- An instant of an earlier date is earlier. -/
lemma lt_of_utcDate_lt {s t : Instant} (h : utcDate s < utcDate t) : s < t := by
  by_contra hle
  exact absurd (utcDate_mono (not_lt.mp hle)) (not_le.mpr h)

lemma retentionCutoff_eq (now : Instant) : retentionCutoff now = utcDate now - 30 := by
  have hthirty : now - archiveRetention = now + -30 * 86400000000 := by
    unfold archiveRetention
    ring
  rw [retentionCutoff, hthirty, utcDate, Int.add_mul_ediv_right _ _ (by decide), utcDate]
  ring

/-- The check passes exactly when the purge of its date has run or no write has come so far as to
make the directory of the date 31 days before its own. -/
theorem archiveRetentionEnforced_of_purgedDaily_iff (h : PurgedDaily events start now tree) :
    archiveRetentionEnforced now tree = .ok true ↔
      (∃ t, .purge t ∈ events ∧ utcDate t = utcDate now) ∨ ¬MadeDate events (utcDate now - 31) := by
  have hretains := h.retains
  have hpasses : archiveRetentionEnforced now tree = .ok true ↔
      ∀ date, MadeDate events date → NotPurged events date → utcDate now - 30 ≤ date := by
    rw [archiveRetentionEnforced_iff hretains.sized, retentionCutoff_eq]
    constructor
    · intro hall date hmade hkept
      obtain ⟨part, hpart, rfl⟩ := hretains.mem_partitions_iff.mpr ⟨hmade, hkept⟩
      exact hall part hpart
    · intro hall part hpart
      obtain ⟨hmade, hkept⟩ := hretains.mem_partitions_iff.mp ⟨part, hpart, rfl⟩
      exact hall _ hmade hkept
  rw [hpasses]
  constructor
  · intro hall
    by_contra hnot
    obtain ⟨htoday, hmade⟩ := not_or.mp hnot
    have hkept : NotPurged events (utcDate now - 31) := by
      intro t ht
      have hle : utcDate t ≤ utcDate now := utcDate_mono (h.bounds _ ht).2
      have hne : utcDate t ≠ utcDate now := fun heq => htoday ⟨t, ht, heq⟩
      rw [retentionCutoff_eq]
      linarith [Int.le_sub_one_of_lt (hle.lt_of_ne hne)]
    linarith [hall _ (not_not.mp hmade) hkept]
  · rintro (⟨t, ht, htoday⟩ | hnone) date hmade hkept
    · have hlate := hkept t ht
      rwa [retentionCutoff_eq, htoday] at hlate
    · by_contra hold
      have hne : date ≠ utcDate now - 31 := fun heq => hnone (heq ▸ hmade)
      obtain ⟨w, rows, d, uuid, fault, hevent, ⟨hrows, -⟩, rfl⟩ := hmade
      have hlate := hretains.late w rows d uuid fault hevent hrows
      obtain ⟨hstart, -⟩ := h.bounds _ hevent
      -- The purge of the day before came after the write.
      obtain ⟨t, htime, hday⟩ := exists_purgeTime (utcDate now - 1)
      have hold : dateOf d < utcDate now - 31 :=
        lt_of_le_of_ne (by linarith [Int.le_sub_one_of_lt (not_le.mp hold)]) hne
      rw [retentionCutoff_eq] at hlate
      have hwt : w < t := lt_of_utcDate_lt (by linarith)
      have htn : t < now := lt_of_utcDate_lt (by linarith)
      have hpurged := hkept t (h.fired t htime (hstart.trans hwt.le) htn)
      rw [retentionCutoff_eq] at hpurged
      linarith

/-! ### A flight of 1 January -/

/-- A flight that landed on 1 January 2026 at 10:00. -/
def januaryRow : ArchiveRow := bareRow "a0b1c2-1767258000" 1767261600000000

/-- The flight is archived at 12:50, and the purge runs on each of the next `n` days. -/
def januaryHistory (n : ℕ) : List RetentionEvent :=
  .write 1767271800000000 [januaryRow] ⟨2026, 1, 1, by decide⟩ "0123456789ab" none ::
    (List.range n).map fun k : ℕ => .purge (1767323700000000 + (k : ℤ) * 86400000000)

lemma mem_januaryHistory {n : ℕ} {e : RetentionEvent} : e ∈ januaryHistory n ↔
    e = .write 1767271800000000 [januaryRow] ⟨2026, 1, 1, by decide⟩ "0123456789ab" none ∨
      ∃ k : ℕ, k < n ∧ e = .purge (1767323700000000 + k * 86400000000) := by
  simp [januaryHistory, eq_comm]

lemma januaryHistory_purgedDaily (n : ℕ) (now : ℤ) (hstart : 1767271800000000 ≤ now)
    (hlast : 1767323700000000 + (n - 1 : ℤ) * 86400000000 ≤ now)
    (hnext : now ≤ 1767323700000000 + n * 86400000000)
    (hrun : (runActions RetentionEvent.act FileTree.empty (januaryHistory n)).isSome) :
    ∃ tree, PurgedDaily (januaryHistory n) 1767271800000000 now tree := by
  obtain ⟨tree, hrun⟩ := Option.isSome_iff_exists.mp hrun
  refine ⟨tree, hrun, ?_, fun e he => ?_, fun e he => ?_, fun t htime hafter hbefore => ?_⟩
  · rw [januaryHistory, List.map_cons, List.map_map, List.pairwise_cons, List.pairwise_map]
    refine ⟨fun t ht => ?_, List.pairwise_lt_range.imp fun {k l} hkl => ?_⟩
    · obtain ⟨k, -, rfl⟩ := List.mem_map.mp ht
      have hle : (1767271800000000 : ℤ) ≤ 1767323700000000 + k * 86400000000 := by omega
      exact hle
    · have hle : (1767323700000000 + k * 86400000000 : ℤ) ≤ 1767323700000000 + l * 86400000000 := by
        omega
      exact hle
  · rcases mem_januaryHistory.mp he with rfl | ⟨k, hk, rfl⟩
    · exact ⟨le_rfl, hstart⟩
    · have hle : (1767271800000000 : ℤ) ≤ 1767323700000000 + k * 86400000000 ∧
          1767323700000000 + k * 86400000000 ≤ now := by omega
      exact hle
  · rcases mem_januaryHistory.mp he with rfl | ⟨k, hk, rfl⟩
    · decide
    · trivial
  · refine mem_januaryHistory.mpr (.inr ?_)
    have hpurge : ∀ t : ℤ, t % 86400000000 = 11700000000 → 1767271800000000 ≤ t → t < now →
        ∃ k : ℕ, k < n ∧ t = 1767323700000000 + k * 86400000000 := by
      intro t htime hafter hbefore
      exact ⟨((t - 1767323700000000) / 86400000000).toNat, by omega, by omega⟩
    obtain ⟨k, hk, rfl⟩ := hpurge t htime hafter hbefore
    exact ⟨k, hk, rfl⟩

/-- Purged on 1 February, the archive passes the check at 04:00. -/
theorem january_flight_retained : ∃ tree,
    PurgedDaily (januaryHistory 31) 1767271800000000 1769918400000000 tree ∧
      archiveRetentionEnforced 1769918400000000 tree = .ok true := by
  obtain ⟨tree, h⟩ := januaryHistory_purgedDaily 31 1769918400000000 (by decide)
    (by decide) (by decide) (by decide +kernel)
  refine ⟨tree, h, (archiveRetentionEnforced_of_purgedDaily_iff h).mpr (.inl ?_)⟩
  exact ⟨1767323700000000 + (30 : ℕ) * 86400000000,
    mem_januaryHistory.mpr (.inr ⟨30, by decide, rfl⟩),
    by decide⟩

/-- At 00:30 of 1 February the check fails, although the purge has run on every day so far. -/
theorem january_flight_not_retained :
    ¬∀ (events : List RetentionEvent) (start now : Instant) (tree : ArchiveTree),
      PurgedDaily events start now tree → archiveRetentionEnforced now tree = .ok true := by
  intro hall
  obtain ⟨tree, h⟩ := januaryHistory_purgedDaily 30 1769905800000000 (by decide)
    (by decide) (by decide) (by decide +kernel)
  have hpasses := hall _ _ _ tree h
  have hfails : ((runActions RetentionEvent.act FileTree.empty (januaryHistory 30)).map
      (archiveRetentionEnforced 1769905800000000)) = some (.ok false) := by decide +kernel
  rw [h.run, Option.map_some, hpasses] at hfails
  cases hfails

end FleetMonitor
