import Mathlib.Data.List.Dedup
import Mathlib.Data.List.Destutter

/-!
# Runs of equal items

A list whose runs of equal items are collapsed to one item each. It keeps the ends and the items of
the list, and it has fewer than two items exactly when the list has fewer than two distinct ones.
-/

namespace FleetMonitor.Library

variable {α : Type*} [DecidableEq α] {l : List α} {a b : α}

/-- Collapse the runs of equal items. -/
def collapse (l : List α) : List α := l.destutter (· ≠ ·)

@[simp] lemma collapse_nil : collapse ([] : List α) = [] := rfl

lemma collapse_isChain (l : List α) : (collapse l).IsChain (· ≠ ·) := List.isChain_destutter _ l

lemma collapse_collapse (l : List α) : collapse (collapse l) = collapse l := List.destutter_idem l _

/-! ### The loop that collapses -/

/-- Append an item that is not the last one already. -/
def addNew (kept : List α) (a : α) : List α :=
  if kept.getLast? = some a then kept else kept ++ [a]

lemma foldl_addNew_concat (kept : List α) (a : α) (l : List α) :
    l.foldl addNew (kept ++ [a]) = kept ++ l.destutter' (· ≠ ·) a := by
  induction l generalizing kept a with
  | nil => rfl
  | cons b l ih =>
    rw [List.foldl_cons, addNew, List.getLast?_concat]
    by_cases hab : a = b
    · rw [if_pos (congrArg some hab), List.destutter'_cons_neg _ (not_not.mpr hab), ih]
    · have hne : some a ≠ some b := fun h => hab (Option.some.inj h)
      rw [if_neg hne, List.destutter'_cons_pos _ hab, ih, List.append_assoc]
      rfl

/-- The loop collapses the list. -/
theorem foldl_addNew (l : List α) : l.foldl addNew [] = collapse l := by
  cases l with
  | nil => rfl
  | cons a l =>
    have h := foldl_addNew_concat [] a l
    rwa [List.nil_append, List.nil_append] at h

/-! ### What is kept -/

lemma head?_destutter' (a : α) (l : List α) : (l.destutter' (· ≠ ·) a).head? = some a := by
  induction l generalizing a with
  | nil => rfl
  | cons b l ih =>
    rw [List.destutter'_cons]
    split_ifs
    · rfl
    · exact ih a

lemma getLast?_destutter' (a : α) (l : List α) :
    (l.destutter' (· ≠ ·) a).getLast? = (a :: l).getLast? := by
  induction l generalizing a with
  | nil => rfl
  | cons b l ih =>
    rw [List.destutter'_cons]
    split_ifs with hab
    · obtain ⟨c, more, hmore⟩ := List.exists_cons_of_ne_nil
        (List.destutter'_ne_nil l (fun x y : α => x ≠ y) : l.destutter' (· ≠ ·) b ≠ [])
      rw [hmore, List.getLast?_cons_cons, ← hmore, ih, List.getLast?_cons_cons]
    · obtain rfl : a = b := not_not.mp hab
      rw [ih, List.getLast?_cons_cons]

lemma head?_collapse (l : List α) : (collapse l).head? = l.head? := by
  cases l with
  | nil => rfl
  | cons a l => exact head?_destutter' a l

lemma getLast?_collapse (l : List α) : (collapse l).getLast? = l.getLast? := by
  cases l with
  | nil => rfl
  | cons a l => exact getLast?_destutter' a l

lemma mem_destutter' (h : b ∈ a :: l) : b ∈ l.destutter' (· ≠ ·) a := by
  induction l generalizing a with
  | nil => exact h
  | cons c l ih =>
    rw [List.destutter'_cons]
    split_ifs with hac
    · rcases List.mem_cons.mp h with rfl | h
      · exact List.mem_cons_self
      · exact List.mem_cons_of_mem _ (ih h)
    · obtain rfl : a = c := not_not.mp hac
      refine ih ?_
      rcases List.mem_cons.mp h with rfl | h
      · exact List.mem_cons_self
      · exact h

/-- Collapsing loses no item altogether. -/
lemma mem_collapse_iff : a ∈ collapse l ↔ a ∈ l := by
  refine ⟨fun h => (List.destutter_sublist (· ≠ ·) l).subset h, fun h => ?_⟩
  cases l with
  | nil => exact h
  | cons b l => exact mem_destutter' h

/-! ### Distinct items -/

omit [DecidableEq α] in
/-- A list without runs has two items exactly when it has two distinct ones. -/
lemma length_lt_two_iff_of_isChain (h : l.IsChain (· ≠ ·)) :
    l.length < 2 ↔ ∀ a ∈ l, ∀ b ∈ l, a = b := by
  rcases l with _ | ⟨a, _ | ⟨b, l⟩⟩
  · simp
  · simp
  · refine iff_of_false (by simp) fun hall => ?_
    have hab : a ≠ b := (List.isChain_cons_cons.mp h).1
    exact hab (hall a (by simp) b (by simp))

/-- Fewer than two items are left of a list with fewer than two distinct ones. -/
theorem length_collapse_lt_two_iff (l : List α) : (collapse l).length < 2 ↔ l.dedup.length < 2 := by
  have hdedup : l.dedup.IsChain (· ≠ ·) := (List.nodup_dedup l).isChain
  rw [length_lt_two_iff_of_isChain (collapse_isChain l), length_lt_two_iff_of_isChain hdedup]
  simp only [mem_collapse_iff, List.mem_dedup]

end FleetMonitor.Library
