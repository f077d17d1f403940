import Mathlib.Order.Bounds.Image
import Mathlib.Order.Bounds.Lattice

/-!
# Least elements

The least element of a set that may be empty: none of the empty set. A monotone map takes least
elements to least elements, and the least element of a union is the smaller of two.
-/

namespace FleetMonitor.Library

variable {α β : Type*}

/-- The least element of a set, or none if it is empty. -/
def IsLeastOf [Preorder α] (s : Set α) : Option α → Prop
  | none   => s = ∅
  | some a => IsLeast s a

namespace IsLeastOf

lemma unique [PartialOrder α] {s : Set α} {a b : Option α} (ha : IsLeastOf s a)
    (hb : IsLeastOf s b) : a = b := by
  cases a with
  | none =>
    obtain rfl : s = ∅ := ha
    cases b with
    | none => rfl
    | some b => exact absurd hb.1 (Set.notMem_empty b)
  | some a =>
    cases b with
    | none =>
      obtain rfl : s = ∅ := hb
      exact absurd ha.1 (Set.notMem_empty a)
    | some b => exact congrArg some (IsLeast.unique ha hb)

lemma map [Preorder α] [Preorder β] {s : Set α} {a : Option α} {f : α → β} (hf : Monotone f)
    (h : IsLeastOf s a) : IsLeastOf (f '' s) (a.map f) := by
  cases a with
  | none =>
    obtain rfl : s = ∅ := h
    exact Set.image_empty f
  | some a => exact hf.map_isLeast h

lemma union [LinearOrder α] {s t : Set α} {a b : Option α} (ha : IsLeastOf s a)
    (hb : IsLeastOf t b) : IsLeastOf (s ∪ t) (a.merge min b) := by
  cases a with
  | none =>
    obtain rfl : s = ∅ := ha
    rw [Set.empty_union]
    cases b <;> exact hb
  | some a =>
    cases b with
    | none =>
      obtain rfl : t = ∅ := hb
      rw [Set.union_empty]
      exact ha
    | some b => exact IsLeast.union ha hb

/-- The elements of an option. -/
lemma toSet [Preorder α] (a : Option α) : IsLeastOf {x | a = some x} a := by
  cases a with
  | none => simp [IsLeastOf]
  | some a => exact ⟨rfl, fun x hx => (Option.some.inj hx).le⟩

/-- A set with something below every element of another has a least element below the other's. -/
lemma exists_le [Preorder α] {s t : Set α} {a : α} {b : Option α} (ha : IsLeastOf s (some a))
    (hb : IsLeastOf t b) (hbelow : ∀ x ∈ s, ∃ y ∈ t, y ≤ x) : ∃ b', b = some b' ∧ b' ≤ a := by
  obtain ⟨y, hy, hya⟩ := hbelow a ha.1
  cases b with
  | none =>
    obtain rfl : t = ∅ := hb
    exact absurd hy (Set.notMem_empty y)
  | some b => exact ⟨b, rfl, (hb.2 hy).trans hya⟩

end IsLeastOf

end FleetMonitor.Library
