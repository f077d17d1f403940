import Mathlib.Data.List.Infix

/-!
# Replacement

Every occurrence of a target in a list is replaced, from the left, and what is put in is not looked
at again. Where the first element of the target does not occur, nothing is replaced.
-/

namespace FleetMonitor.Library

variable {α : Type*} [DecidableEq α] (target replacement : List α)

/-- Replace the occurrences that begin after the first elements, which are dropped. -/
def replaceFrom : ℕ → List α → List α
  | _, []             => []
  | skip + 1, _ :: xs => replaceFrom skip xs
  | 0, x :: xs        =>
    if target <+: x :: xs then replacement ++ replaceFrom (target.length - 1) xs
    else x :: replaceFrom 0 xs

/-- Replace all occurrences. -/
def replaceAll (xs : List α) : List α := replaceFrom target replacement 0 xs

variable {target}

lemma replaceFrom_eq_drop (n : ℕ) (xs : List α) :
    replaceFrom target replacement n xs = replaceAll target replacement (xs.drop n) := by
  induction n generalizing xs with
  | zero => rfl
  | succ n ih =>
    cases xs with
    | nil => rfl
    | cons x xs =>
      rw [replaceFrom, List.drop_succ_cons]
      exact ih xs

/-- An occurrence at the front. -/
lemma replaceAll_target_append (htarget : target ≠ []) (xs : List α) :
    replaceAll target replacement (target ++ xs) = replacement ++ replaceAll target replacement xs := by
  match target, htarget with
  | a :: rest, _ =>
    have hprefix : a :: rest <+: a :: (rest ++ xs) := List.prefix_append (a :: rest) xs
    rw [replaceAll, List.cons_append, replaceFrom, if_pos hprefix, replaceFrom_eq_drop]
    simp

/-- What is no occurrence stays. -/
lemma replaceAll_cons_of_not_prefix {x : α} {xs : List α} (h : ¬target <+: x :: xs) :
    replaceAll target replacement (x :: xs) = x :: replaceAll target replacement xs := by
  rw [replaceAll, replaceFrom, if_neg h]
  rfl

omit [DecidableEq α] in
/-- An occurrence that reaches into a second one begins with it, when the first element of the
target stands nowhere else in it. -/
lemma prefix_of_prefix_append {a : α} {rest before : List α} (hfirst : a ∉ rest) (hne : before ≠ [])
    (h : a :: rest <+: before ++ a :: rest) : a :: rest <+: before := by
  rcases le_or_gt (a :: rest).length before.length with hle | hlt
  · exact List.prefix_of_prefix_length_le h (List.prefix_append _ _) hle
  · exfalso
    obtain ⟨x, before, rfl⟩ := List.exists_cons_of_ne_nil hne
    obtain ⟨-, hrest⟩ := List.cons_prefix_cons.mp h
    have hshort : (before ++ [a]).length ≤ rest.length := by
      simp only [List.length_append, List.length_cons, List.length_nil] at hlt ⊢
      omega
    have hinside : before ++ [a] <+: rest := by
      refine List.prefix_of_prefix_length_le ?_ hrest hshort
      exact ⟨rest, by simp⟩
    exact hfirst (hinside.subset (by simp))

/-- An occurrence at the end. -/
lemma replaceAll_append_target {a : α} {rest : List α} (hfirst : a ∉ rest) (before : List α) :
    replaceAll (a :: rest) replacement (before ++ a :: rest) =
      replaceAll (a :: rest) replacement before ++ replacement := by
  induction hlength : before.length using Nat.strong_induction_on generalizing before with
  | _ n ih =>
    cases before with
    | nil =>
      have htarget := replaceAll_target_append replacement (List.cons_ne_nil a rest) []
      simpa [replaceAll, replaceFrom] using htarget
    | cons x before =>
      by_cases hprefix : a :: rest <+: x :: before
      · obtain ⟨after, hafter⟩ := hprefix
        have hshorter : after.length < n := by
          rw [← hlength, ← hafter, List.length_append, List.length_cons]
          omega
        rw [← hafter, List.append_assoc, replaceAll_target_append _ (List.cons_ne_nil _ _),
          replaceAll_target_append _ (List.cons_ne_nil _ _), ih _ hshorter after rfl,
          List.append_assoc]
      · have hlonger : ¬a :: rest <+: x :: (before ++ a :: rest) := fun h =>
          hprefix (prefix_of_prefix_append hfirst (List.cons_ne_nil _ _) h)
        have hshorter : before.length < n := by
          rw [← hlength, List.length_cons]
          omega
        rw [List.cons_append, replaceAll_cons_of_not_prefix _ hlonger,
          replaceAll_cons_of_not_prefix _ hprefix, ih _ hshorter before rfl, List.cons_append]

end FleetMonitor.Library
