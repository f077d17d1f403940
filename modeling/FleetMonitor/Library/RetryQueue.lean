import Mathlib.Algebra.BigOperators.Group.Finset.Piecewise
import Mathlib.Algebra.Order.BigOperators.Group.Finset

/-!
# A queue with attempts

Each key of a queue has some attempts left, and a round uses up an attempt of every key it serves. A
round that does not serve the key that waits is full of keys ahead of it. So it waits no longer than
those ahead have attempts, shared out among the places of a round, and its own attempts take.
-/

namespace FleetMonitor.Library

variable {κ : Type*}

/-- The attempts left of a key, and of those ahead of it, grow no more. -/
def NoMoreLeft (waiting : κ) (ahead : Finset κ) (left left' : κ → ℕ) : Prop :=
  ∀ k, k = waiting ∨ k ∈ ahead → left' k ≤ left k

/-- A round serves the key that waits, or as many of those ahead of it as it has places. -/
structure RetryRound (waiting : κ) (ahead : Finset κ) (places : ℕ) (left left' : κ → ℕ) : Prop where
  noMoreLeft : NoMoreLeft waiting ahead left left'
  full : left' waiting < left waiting ∨
    ∃ served ⊆ ahead, places ≤ served.card ∧ ∀ k ∈ served, left' k < left k

/-- So many rounds one after the other, with other events in between. -/
inductive RetryRounds (waiting : κ) (ahead : Finset κ) (places : ℕ) : ℕ → (κ → ℕ) → (κ → ℕ) → Prop
  | refl (left : κ → ℕ) : RetryRounds waiting ahead places 0 left left
  | quiet {n : ℕ} {left left' left'' : κ → ℕ} (h : NoMoreLeft waiting ahead left left')
      (hrest : RetryRounds waiting ahead places n left' left'') :
      RetryRounds waiting ahead places n left left''
  | round {n : ℕ} {left left' left'' : κ → ℕ} (h : RetryRound waiting ahead places left left')
      (hrest : RetryRounds waiting ahead places n left' left'') :
      RetryRounds waiting ahead places (n + 1) left left''

variable {waiting : κ} {ahead : Finset κ} {places : ℕ} {left left' : κ → ℕ}

/-- What is left counts a place for each attempt ahead, and all places for each of its own. -/
def placesLeft (waiting : κ) (ahead : Finset κ) (places : ℕ) (left : κ → ℕ) : ℕ :=
  places * left waiting + ∑ k ∈ ahead, left k

lemma NoMoreLeft.placesLeft_le (h : NoMoreLeft waiting ahead left left') :
    placesLeft waiting ahead places left' ≤ placesLeft waiting ahead places left := by
  apply Nat.add_le_add
  · exact Nat.mul_le_mul_left places (h waiting (.inl rfl))
  · exact Finset.sum_le_sum fun k hk => h k (.inr hk)

/-- A round uses up as much as it has places. -/
lemma RetryRound.placesLeft_add_le (h : RetryRound waiting ahead places left left') :
    places + placesLeft waiting ahead places left' ≤ placesLeft waiting ahead places left := by
  have hsum : ∑ k ∈ ahead, left' k ≤ ∑ k ∈ ahead, left k :=
    Finset.sum_le_sum fun k hk => h.noMoreLeft k (.inr hk)
  rw [placesLeft, placesLeft, ← Nat.add_assoc]
  rcases h.full with hserved | ⟨served, hsub, hcard, hserved⟩
  · have hown := Nat.mul_le_mul_left places hserved
    rw [Nat.mul_succ, Nat.add_comm] at hown
    exact Nat.add_le_add hown hsum
  · -- each of the keys served has spent an attempt
    have hspent : places + ∑ k ∈ ahead, left' k ≤ ∑ k ∈ ahead, left k := by
      classical
      have hbelow : ∑ k ∈ ahead, (left' k + if k ∈ served then 1 else 0) ≤ ∑ k ∈ ahead, left k := by
        apply Finset.sum_le_sum
        intro k hk
        split_ifs with hmem
        · exact hserved k hmem
        · exact h.noMoreLeft k (.inr hk)
      have hcount : ∑ k ∈ ahead, (if k ∈ served then 1 else 0) = served.card := by
        rw [Finset.sum_ite_mem, Finset.inter_eq_right.mpr hsub, Finset.card_eq_sum_ones]
      rw [Finset.sum_add_distrib, hcount] at hbelow
      omega
    have hown := Nat.mul_le_mul_left places (h.noMoreLeft waiting (.inl rfl))
    omega

/-- The rounds during which a key waits. -/
theorem RetryRounds.placesLeft_add_le {n : ℕ} (h : RetryRounds waiting ahead places n left left') :
    places * n + placesLeft waiting ahead places left' ≤ placesLeft waiting ahead places left := by
  induction h with
  | refl left => simp
  | quiet h hrest ih => exact ih.trans h.placesLeft_le
  | round h hrest ih =>
    have hround := h.placesLeft_add_le
    rw [Nat.mul_succ]
    omega

end FleetMonitor.Library
