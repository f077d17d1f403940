import Mathlib.Data.List.Basic
import Mathlib.Data.List.Infix

/-!
# Histories

A history is a list of entries, the newest last. An entry may be judged by what had happened before
it, and the last entry of a kind by what has happened since.
-/

namespace FleetMonitor.Library

variable {α : Type*}

/-! ### Entries judged by their past -/

/-- Every entry of a history stands in the relation to the entries before it. -/
def Justified (P : List α → α → Prop) (log : List α) : Prop :=
  ∀ before x after, log = before ++ x :: after → P before x

namespace Justified

variable {P Q : List α → α → Prop} {log : List α} {x : α}

@[simp] lemma nil : Justified P [] := by
  intro before x after h
  simp at h

lemma snoc_iff : Justified P (log ++ [x]) ↔ Justified P log ∧ P log x := by
  constructor
  · intro h
    refine ⟨fun before y after heq => h before y (after ++ [x]) ?_, h log x [] rfl⟩
    rw [heq, List.append_assoc, List.cons_append]
  · rintro ⟨hlog, hx⟩ before y after heq
    rcases List.eq_nil_or_concat after with rfl | ⟨after, z, rfl⟩
    · obtain ⟨rfl, hy⟩ := List.append_inj' heq rfl
      simp only [List.cons.injEq, and_true] at hy
      rwa [← hy]
    · rw [List.concat_eq_append, ← List.cons_append, ← List.append_assoc] at heq
      exact hlog before y after (List.append_inj' heq rfl).1

/-- A history goes on as long as each entry is justified by all before it. -/
lemma append {more : List α} (h : Justified P log)
    (hmore : ∀ before x after, more = before ++ x :: after → P (log ++ before) x) :
    Justified P (log ++ more) := by
  induction more using List.reverseRecOn with
  | nil => rwa [List.append_nil]
  | append_singleton more x ih =>
    rw [← List.append_assoc]
    refine snoc_iff.mpr ⟨ih fun before y after heq => hmore before y (after ++ [x]) ?_,
      hmore more x [] rfl⟩
    rw [heq, List.append_assoc, List.cons_append]

lemma mono (hPQ : ∀ before x, P before x → Q before x) (h : Justified P log) : Justified Q log :=
  fun before x after heq => hPQ before x (h before x after heq)

end Justified

/-! ### The last entry of a kind -/

/-- `x` is the last entry that `p` holds of, and `since` is what came after it. -/
def IsLast (p : α → Prop) (log : List α) (x : α) (since : List α) : Prop :=
  p x ∧ (∀ y ∈ since, ¬p y) ∧ ∃ before, log = before ++ x :: since

namespace IsLast

variable {p : α → Prop} {log since since' : List α} {x y : α}

lemma mem (h : IsLast p log x since) : x ∈ log := by
  obtain ⟨-, -, before, rfl⟩ := h
  simp

lemma snoc (h : p x) : IsLast p (log ++ [x]) x [] :=
  ⟨h, by simp, log, rfl⟩

/-- An entry of another kind leaves the last one in place. -/
lemma append (h : IsLast p log x since) (more : List α) (hmore : ∀ y ∈ more, ¬p y) :
    IsLast p (log ++ more) x (since ++ more) := by
  obtain ⟨hx, hsince, before, rfl⟩ := h
  refine ⟨hx, fun y hy => ?_, before, by simp⟩
  rcases List.mem_append.mp hy with hy | hy
  · exact hsince y hy
  · exact hmore y hy

lemma snoc_iff : IsLast p (log ++ [y]) x since ↔
    p y ∧ x = y ∧ since = [] ∨ ¬p y ∧ ∃ since', since = since' ++ [y] ∧ IsLast p log x since' := by
  constructor
  · rintro ⟨hx, hsince, before, heq⟩
    rcases List.eq_nil_or_concat since with rfl | ⟨since, z, rfl⟩
    · obtain ⟨-, hy⟩ := List.append_inj' heq rfl
      simp only [List.cons.injEq, and_true] at hy
      exact .inl ⟨hy ▸ hx, hy.symm, rfl⟩
    · rw [List.concat_eq_append] at hsince heq ⊢
      rw [← List.cons_append, ← List.append_assoc] at heq
      obtain ⟨hlog, hz⟩ := List.append_inj' heq rfl
      simp only [List.cons.injEq, and_true] at hz
      subst hz
      refine .inr ⟨hsince y (by simp), since, rfl, hx, fun w hw => ?_, before, hlog⟩
      exact hsince w (List.mem_append_left [y] hw)
  · rintro (⟨hy, rfl, rfl⟩ | ⟨hy, since', rfl, h⟩)
    · exact snoc hy
    · exact h.append [y] (by simpa using hy)

/-- There is one last entry. -/
lemma unique (h : IsLast p log x since) (h' : IsLast p log y since') : x = y ∧ since = since' := by
  induction log using List.reverseRecOn generalizing since since' with
  | nil =>
    obtain ⟨-, -, before, heq⟩ := h
    simp at heq
  | append_singleton log z ih =>
    rcases snoc_iff.mp h with ⟨hz, rfl, rfl⟩ | ⟨hz, older, rfl, holder⟩
    · rcases snoc_iff.mp h' with ⟨-, rfl, rfl⟩ | ⟨hz', -⟩
      · exact ⟨rfl, rfl⟩
      · exact absurd hz hz'
    · rcases snoc_iff.mp h' with ⟨hz', -⟩ | ⟨-, older', rfl, holder'⟩
      · exact absurd hz' hz
      · obtain ⟨rfl, rfl⟩ := ih holder holder'
        exact ⟨rfl, rfl⟩

end IsLast

end FleetMonitor.Library
