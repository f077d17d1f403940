import FleetMonitor.Library.Table
import Mathlib.Data.List.Sort

/-!
# Ordered queries

A query selects rows of a table and sorts them. When the sort key determines the key of the table,
the answer depends on nothing but the rows it may select.
-/

namespace FleetMonitor.Library

variable {κ ρ τ : Type*} [LinearOrder τ] {key : ρ → κ}

/-- `WHERE` and `ORDER BY`. -/
def orderedQuery (t : Table key) (selects : ρ → Bool) (sortKey : ρ → τ) : List ρ :=
  (t.rows.filter selects).insertionSort fun a b => sortKey a ≤ sortKey b

variable {t t' : Table key} {selects : ρ → Bool} {sortKey : ρ → τ} {r : ρ}

lemma mem_orderedQuery : r ∈ orderedQuery t selects sortKey ↔ r ∈ t.rows ∧ selects r = true := by
  rw [orderedQuery, List.mem_insertionSort, List.mem_filter]

lemma orderedQuery_sorted :
    (orderedQuery t selects sortKey).Pairwise fun a b => sortKey a ≤ sortKey b :=
  List.pairwise_insertionSort _ _

lemma orderedQuery_nodup : (orderedQuery t selects sortKey).Nodup := by
  have hrows : t.rows.Nodup := t.nodup.of_map
  exact (List.perm_insertionSort _ _).nodup_iff.mpr (hrows.filter _)

/-- Two tables that agree on what a query selects answer it in the same way. -/
theorem orderedQuery_congr (hkey : ∀ a b, sortKey a = sortKey b → key a = key b)
    (h : ∀ r, selects r = true → (r ∈ t.rows ↔ r ∈ t'.rows)) :
    orderedQuery t selects sortKey = orderedQuery t' selects sortKey := by
  have hmem : ∀ r, r ∈ orderedQuery t selects sortKey ↔ r ∈ orderedQuery t' selects sortKey := by
    intro r
    rw [mem_orderedQuery, mem_orderedQuery]
    constructor
    · rintro ⟨hr, hselected⟩
      exact ⟨(h r hselected).mp hr, hselected⟩
    · rintro ⟨hr, hselected⟩
      exact ⟨(h r hselected).mpr hr, hselected⟩
  have hperm := (List.perm_ext_iff_of_nodup orderedQuery_nodup orderedQuery_nodup).mpr hmem
  refine List.Perm.eq_of_pairwise (fun a b ha hb hab hba => ?_) orderedQuery_sorted
    orderedQuery_sorted hperm
  have hrow : a ∈ t.rows := (mem_orderedQuery.mp ha).1
  have hrow' : b ∈ t.rows := (mem_orderedQuery.mp ((hmem b).mpr hb)).1
  exact Table.row_eq_of_key_eq hrow hrow' (hkey a b (le_antisymm hab hba))

end FleetMonitor.Library
