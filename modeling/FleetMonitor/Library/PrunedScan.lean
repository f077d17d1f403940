import Mathlib.Data.List.Basic
import Mathlib.Data.List.Perm.Basic

/-!
# Pruned scans

A store keeps its rows in partitions. A scan that selects rows may leave out partitions; it finds
what the full scan finds exactly when no selected row lies in a partition that is left out.
-/

namespace FleetMonitor.Library

variable {κ α : Type*}

/-- The selected rows of some partitions. -/
def scan (rowsOf : κ → List α) (select : α → Bool) (parts : List κ) : List α :=
  (parts.flatMap rowsOf).filter select

variable {rowsOf : κ → List α} {select : α → Bool} {keep : κ → Bool} {parts parts' : List κ}

@[simp] lemma scan_nil : scan rowsOf select [] = [] := rfl

@[simp] lemma scan_cons (k : κ) (parts : List κ) :
    scan rowsOf select (k :: parts) = (rowsOf k).filter select ++ scan rowsOf select parts := by
  rw [scan, List.flatMap_cons, List.filter_append, scan]

/-- The order of the partitions does not matter. -/
lemma scan_perm (h : parts.Perm parts') :
    (scan rowsOf select parts).Perm (scan rowsOf select parts') :=
  (h.flatMap_right rowsOf).filter select

lemma scan_sublist (h : List.Sublist parts parts') :
    List.Sublist (scan rowsOf select parts) (scan rowsOf select parts') := by
  induction h with
  | slnil => exact .slnil
  | cons k _ ih =>
    rw [scan_cons]
    exact ih.trans (List.sublist_append_right _ _)
  | cons_cons k _ ih =>
    rw [scan_cons, scan_cons]
    exact ih.append_left _

/-- What is left out costs no row. -/
lemma length_scan_filter_iff : (scan rowsOf select (parts.filter keep)).length =
    (scan rowsOf select parts).length ↔
      ∀ k ∈ parts, ∀ r ∈ rowsOf k, select r → keep k := by
  induction parts with
  | nil => simp
  | cons k parts ih =>
    have hle :
        (scan rowsOf select (parts.filter keep)).length ≤ (scan rowsOf select parts).length :=
      (scan_sublist List.filter_sublist).length_le
    rw [List.forall_mem_cons, ← ih, scan_cons, List.length_append]
    cases hkeep : keep k with
    | true =>
      rw [List.filter_cons_of_pos hkeep, scan_cons, List.length_append]
      simp
    | false =>
      have hnone : (∀ r ∈ rowsOf k, select r = true → false = true) ↔
          ((rowsOf k).filter select).length = 0 := by
        simp [List.filter_eq_nil_iff]
      rw [List.filter_cons_of_neg (by simp [hkeep]), hnone]
      omega

/-- A pruned scan finds the rows of the full scan exactly when every partition of a selected row is
kept. -/
theorem scan_filter_perm_iff :
    (scan rowsOf select (parts.filter keep)).Perm (scan rowsOf select parts) ↔
      ∀ k ∈ parts, ∀ r ∈ rowsOf k, select r → keep k := by
  rw [← length_scan_filter_iff]
  constructor
  · exact List.Perm.length_eq
  · intro hlength
    rw [(scan_sublist List.filter_sublist).eq_of_length hlength]

/-- Rows collected key by key are the rows that have a key, when none has two. -/
lemma flatMap_filter_perm (has : κ → α → Bool) {keys : List κ} {rows : List α} (hnodup : keys.Nodup)
    (hunique : ∀ r ∈ rows, ∀ k ∈ keys, ∀ k' ∈ keys, has k r → has k' r → k = k') :
    (keys.flatMap fun k => rows.filter (has k)).Perm (rows.filter fun r => keys.any (has · r)) := by
  induction keys with
  | nil => simp
  | cons k keys ih =>
    obtain ⟨hk, hnodup⟩ := List.nodup_cons.mp hnodup
    have ih := ih hnodup fun r hr k hk k' hk' =>
      hunique r hr k (List.mem_cons_of_mem _ hk) k' (List.mem_cons_of_mem _ hk')
    have hsplit := List.filter_append_perm (has k) (rows.filter fun r => (k :: keys).any (has · r))
    rw [List.filter_filter, List.filter_filter] at hsplit
    have hfirst :
        (rows.filter fun r => has k r && (k :: keys).any (has · r)) = rows.filter (has k) :=
      List.filter_congr fun r _ => by
        cases hr : has k r <;> simp [hr]
    have hrest : (rows.filter fun r => !has k r && (k :: keys).any (has · r)) =
        rows.filter fun r => keys.any (has · r) := by
      refine List.filter_congr fun r hr => ?_
      cases hhas : has k r with
      | false => simp [hhas]
      | true =>
        -- The row has the first key, so it has no other.
        have hnone : keys.any (has · r) = false := by
          rw [List.any_eq_false]
          intro k' hk' hhas'
          have heq := hunique r hr k List.mem_cons_self k' (List.mem_cons_of_mem _ hk') hhas hhas'
          exact hk (heq ▸ hk')
        simp [hnone]
    rw [hfirst, hrest] at hsplit
    exact (ih.append_left _).trans hsplit

end FleetMonitor.Library
