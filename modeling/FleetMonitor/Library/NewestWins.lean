import Mathlib.Data.Set.Function
import Mathlib.Order.Lattice

/-!
# The newest row wins

Rows with a key and a stamp are merged into a store that keeps one row a key; a row takes the place
of the one that is there when it is newer. As long as no two rows of a key share a stamp, the store
depends only on which rows have come: not on their order, nor on how often each of them came.
-/

namespace FleetMonitor.Library.NewestWins

variable {κ ρ τ : Type*} [LinearOrder τ] {stamp : ρ → τ}

/-- The row that is kept of one that may be there and one that comes. -/
def newer (stamp : ρ → τ) (old : Option ρ) (row : ρ) : ρ :=
  match old with
  | none     => row
  | some old => if stamp old < stamp row then row else old

/-- The newest of some rows, if there is any. -/
def IsNewest (stamp : ρ → τ) (rows : Set ρ) : Option ρ → Prop
  | none     => rows = ∅
  | some row => row ∈ rows ∧ ∀ r ∈ rows, stamp r ≤ stamp row

variable {rows : Set ρ} {old : Option ρ} {row : ρ}

@[simp] lemma newer_none (row : ρ) : newer stamp none row = row := rfl

lemma newer_of_lt {old : ρ} (h : stamp old < stamp row) : newer stamp (some old) row = row :=
  if_pos h

lemma newer_of_le {old : ρ} (h : stamp row ≤ stamp old) : newer stamp (some old) row = old :=
  if_neg (not_lt.mpr h)

/-- No row is replaced by an older one. -/
lemma le_stamp_newer (old row : ρ) : stamp old ≤ stamp (newer stamp (some old) row) := by
  rcases lt_or_ge (stamp old) (stamp row) with hlt | hge
  · rw [newer_of_lt hlt]
    exact hlt.le
  · rw [newer_of_le hge]

lemma IsNewest.newer (h : IsNewest stamp rows old) (row : ρ) :
    IsNewest stamp (insert row rows) (some (newer stamp old row)) := by
  cases old with
  | none =>
    obtain rfl : rows = ∅ := h
    exact ⟨Set.mem_insert _ _, by simp⟩
  | some old =>
    obtain ⟨hmem, hle⟩ := h
    rcases lt_or_ge (stamp old) (stamp row) with hlt | hge
    · rw [newer_of_lt hlt]
      refine ⟨Set.mem_insert _ _, ?_⟩
      rintro r (rfl | hr)
      · exact le_rfl
      · exact (hle r hr).trans hlt.le
    · rw [newer_of_le hge]
      refine ⟨Set.mem_insert_of_mem _ hmem, ?_⟩
      rintro r (rfl | hr)
      · exact hge
      · exact hle r hr

/-- Rows with stamps of their own have one newest row. -/
lemma IsNewest.unique (hinj : Set.InjOn stamp rows) {a b : Option ρ}
    (ha : IsNewest stamp rows a) (hb : IsNewest stamp rows b) : a = b := by
  cases a with
  | none =>
    obtain rfl : rows = ∅ := ha
    cases b with
    | none => rfl
    | some b => exact absurd hb.1 (Set.notMem_empty b)
  | some a =>
    cases b with
    | none =>
      obtain rfl : rows = ∅ := hb
      exact absurd ha.1 (Set.notMem_empty a)
    | some b => exact congrArg some (hinj ha.1 hb.1 (le_antisymm (hb.2 a ha.1) (ha.2 b hb.1)))

/-! ### The store -/

variable [DecidableEq κ] {key : ρ → κ}

/-- The store after one more row. -/
def merge (key : ρ → κ) (stamp : ρ → τ) (store : κ → Option ρ) (row : ρ) : κ → Option ρ :=
  Function.update store (key row) (some (newer stamp (store (key row)) row))

/-- The store has the newest row of every key. -/
def Holds (key : ρ → κ) (stamp : ρ → τ) (rows : Set ρ) (store : κ → Option ρ) : Prop :=
  ∀ k, IsNewest stamp {r ∈ rows | key r = k} (store k)

/-- No two rows of a key share a stamp. -/
def StampsDistinct (key : ρ → κ) (stamp : ρ → τ) (rows : Set ρ) : Prop :=
  ∀ r ∈ rows, ∀ r' ∈ rows, key r = key r' → stamp r = stamp r' → r = r'

variable {store store' : κ → Option ρ}

lemma merge_of_ne {k : κ} (h : k ≠ key row) : merge key stamp store row k = store k :=
  Function.update_of_ne h ..

lemma merge_self : merge key stamp store row (key row) = some (newer stamp (store (key row)) row) :=
  Function.update_self ..

omit [LinearOrder τ] [DecidableEq κ] in
lemma StampsDistinct.injOn (h : StampsDistinct key stamp rows) (k : κ) :
    Set.InjOn stamp {r ∈ rows | key r = k} := by
  rintro r ⟨hr, rfl⟩ r' ⟨hr', hk⟩ hstamp
  exact h r hr r' hr' hk.symm hstamp

omit [LinearOrder τ] [DecidableEq κ] in
lemma StampsDistinct.mono {more : Set ρ} (h : StampsDistinct key stamp more) (hsub : rows ⊆ more) :
    StampsDistinct key stamp rows :=
  fun r hr r' hr' => h r (hsub hr) r' (hsub hr')

lemma Holds.merge (h : Holds key stamp rows store) (row : ρ) :
    Holds key stamp (insert row rows) (merge key stamp store row) := by
  intro k
  by_cases hk : k = key row
  · subst hk
    have hrows : {r ∈ insert row rows | key r = key row} =
        insert row {r ∈ rows | key r = key row} := by
      ext r
      simp only [Set.mem_ofPred_eq, Set.mem_insert_iff]
      constructor
      · rintro ⟨rfl | hr, hkey⟩
        · exact .inl rfl
        · exact .inr ⟨hr, hkey⟩
      · rintro (rfl | ⟨hr, hkey⟩)
        · exact ⟨.inl rfl, rfl⟩
        · exact ⟨.inr hr, hkey⟩
    rw [merge_self, hrows]
    exact (h (key row)).newer row
  · have hrows : {r ∈ insert row rows | key r = k} = {r ∈ rows | key r = k} := by
      ext r
      simp only [Set.mem_ofPred_eq, Set.mem_insert_iff]
      refine and_congr_left fun hkey => or_iff_right ?_
      rintro rfl
      exact hk hkey.symm
    rw [merge_of_ne hk, hrows]
    exact h k

/-- What a store holds after any list of rows. -/
lemma Holds.foldl (h : Holds key stamp rows store) (more : List ρ) :
    Holds key stamp (rows ∪ {r | r ∈ more}) (more.foldl (NewestWins.merge key stamp) store) := by
  induction more generalizing rows store with
  | nil => simpa using h
  | cons row more ih =>
    have hrows : rows ∪ {r | r ∈ row :: more} = insert row rows ∪ {r | r ∈ more} := by
      ext r
      simp only [Set.mem_union, Set.mem_ofPred_eq, List.mem_cons, Set.mem_insert_iff]
      tauto
    rw [List.foldl_cons, hrows]
    exact ih (h.merge row)

omit [DecidableEq κ] in
lemma Holds.unique (hdistinct : StampsDistinct key stamp rows) (h : Holds key stamp rows store)
    (h' : Holds key stamp rows store') : store = store' :=
  funext fun k => (h k).unique (hdistinct.injOn k) (h' k)

/-- Rows that have come already change nothing. -/
lemma Holds.foldl_eq (hdistinct : StampsDistinct key stamp rows) (h : Holds key stamp rows store)
    {again : List ρ} (hagain : ∀ r ∈ again, r ∈ rows) :
    again.foldl (NewestWins.merge key stamp) store = store := by
  have hrows : rows ∪ {r | r ∈ again} = rows := Set.union_eq_self_of_subset_right hagain
  exact (hrows ▸ h.foldl again).unique hdistinct h

variable (key stamp) in
/-- The stamp of a key never goes back. -/
lemma exists_le_of_foldl (more : List ρ) {k : κ} {old : ρ} (h : store k = some old) :
    ∃ row, more.foldl (merge key stamp) store k = some row ∧ stamp old ≤ stamp row := by
  induction more generalizing store old with
  | nil => exact ⟨old, h, le_rfl⟩
  | cons row more ih =>
    rw [List.foldl_cons]
    by_cases hk : k = key row
    · subst hk
      have hmerged : merge key stamp store row (key row) =
          some (newer stamp (some old) row) := by rw [merge_self, h]
      obtain ⟨new, hnew, hle⟩ := ih hmerged
      exact ⟨new, hnew, (le_stamp_newer old row).trans hle⟩
    · exact ih (by rw [merge_of_ne hk, h])

end FleetMonitor.Library.NewestWins
