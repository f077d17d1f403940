import Mathlib.Algebra.BigOperators.Group.List.Basic
import Mathlib.Data.Finset.Card
import Mathlib.Data.List.Nodup
import Mathlib.Order.Defs.LinearOrder

/-!
# Oldest first

Keys are served in rounds, those that were served longest ago first. While a key waits, every key
that is served instead of it moves behind it, so that no key is served twice before it is its turn.
-/

namespace FleetMonitor.Library

variable {κ τ : Type*} [LinearOrder τ]

/-- A round in which a key waits: the keys that are served instead have a stamp no newer than that
of the key, and get one that is newer. -/
structure Overtakes (waiting : κ) (stamp stamp' : κ → τ) (served : List κ) : Prop where
  nodup : served.Nodup
  ahead : ∀ k ∈ served, stamp k ≤ stamp waiting
  behind : ∀ k ∈ served, stamp waiting < stamp' k
  others : ∀ k ∉ served, stamp' k = stamp k
  waits : waiting ∉ served

/-- Rounds in all of which the key waits. -/
inductive Waits (waiting : κ) : (κ → τ) → List (List κ) → (κ → τ) → Prop
  | refl (stamp : κ → τ) : Waits waiting stamp [] stamp
  | round {stamp stamp' stamp'' : κ → τ} {served : List κ} {rounds : List (List κ)}
      (h : Overtakes waiting stamp stamp' served) (hrest : Waits waiting stamp' rounds stamp'') :
      Waits waiting stamp (served :: rounds) stamp''

variable {waiting : κ} {stamp stamp' : κ → τ} {served : List κ} {rounds : List (List κ)}

namespace Waits

/-- What is served while the key waits was ahead of it at the start. -/
lemma stamp_le (h : Waits waiting stamp rounds stamp') :
    ∀ k ∈ rounds.flatten, stamp k ≤ stamp waiting := by
  induction h with
  | refl stamp => simp
  | @round stamp stamp' stamp'' served rounds hround hrest ih =>
    intro k hk
    rw [List.flatten_cons, List.mem_append] at hk
    by_cases hserved : k ∈ served
    · exact hround.ahead k hserved
    · have hle := ih k (hk.resolve_left hserved)
      rwa [hround.others k hserved, hround.others waiting hround.waits] at hle

lemma notMem (h : Waits waiting stamp rounds stamp') : ∀ served ∈ rounds, waiting ∉ served := by
  induction h with
  | refl stamp => simp
  | round hround hrest ih =>
    intro served hserved
    rcases List.mem_cons.mp hserved with rfl | hserved
    · exact hround.waits
    · exact ih served hserved

/-- What is not served keeps its stamp. -/
lemma stamp_eq (h : Waits waiting stamp rounds stamp') :
    ∀ k ∉ rounds.flatten, stamp' k = stamp k := by
  induction h with
  | refl stamp => simp
  | @round stamp stamp' stamp'' served rounds hround hrest ih =>
    intro k hk
    rw [List.flatten_cons, List.mem_append, not_or] at hk
    rw [ih k hk.2, hround.others k hk.1]

/-- What has been served while the key waits is behind it in the end. -/
lemma stamp_lt (h : Waits waiting stamp rounds stamp') :
    ∀ k ∈ rounds.flatten, stamp' waiting < stamp' k := by
  induction h with
  | refl stamp => simp
  | @round stamp stamp' stamp'' served rounds hround hrest ih =>
    intro k hk
    by_cases hlater : k ∈ rounds.flatten
    · exact ih k hlater
    · rw [List.flatten_cons, List.mem_append] at hk
      have hbehind := hround.behind k (hk.resolve_right hlater)
      have hnot : waiting ∉ rounds.flatten := by
        intro hmem
        obtain ⟨served, hserved, hin⟩ := List.mem_flatten.mp hmem
        exact hrest.notMem served hserved hin
      rwa [hrest.stamp_eq k hlater, hrest.stamp_eq waiting hnot,
        hround.others waiting hround.waits]

/-- While a key waits, no key is served twice. -/
theorem nodup_flatten (h : Waits waiting stamp rounds stamp') : rounds.flatten.Nodup := by
  induction h with
  | refl stamp => simp
  | @round stamp stamp' stamp'' served rounds hround hrest ih =>
    rw [List.flatten_cons]
    refine List.Nodup.append hround.nodup ih ?_
    -- a key that is served has moved behind the one that waits
    intro k hk hlater
    have hle := hrest.stamp_le k hlater
    rw [hround.others waiting hround.waits] at hle
    exact absurd (hround.behind k hk) (not_lt.mpr hle)

/-- A key that waits for full rounds waits for fewer than there are keys to serve. -/
theorem length_mul_lt [DecidableEq κ] (h : Waits waiting stamp rounds stamp')
    {keys : Finset κ} (hwaiting : waiting ∈ keys)
    (hkeys : ∀ served ∈ rounds, ∀ k ∈ served, k ∈ keys) {cap : ℕ}
    (hfull : ∀ served ∈ rounds, served.length = cap) : rounds.length * cap < keys.card := by
  have hlength : rounds.flatten.length = rounds.length * cap := by
    rw [List.length_flatten, List.map_congr_left hfull, List.map_const', List.sum_replicate,
      Nat.nsmul_eq_mul]
  rw [← hlength, ← List.toFinset_card_of_nodup h.nodup_flatten]
  apply Finset.card_lt_card
  rw [Finset.ssubset_iff_of_subset]
  · refine ⟨waiting, hwaiting, fun hmem => ?_⟩
    obtain ⟨served, hserved, hin⟩ := List.mem_flatten.mp (List.mem_toFinset.mp hmem)
    exact h.notMem served hserved hin
  · intro k hk
    obtain ⟨served, hserved, hin⟩ := List.mem_flatten.mp (List.mem_toFinset.mp hk)
    exact hkeys served hserved k hin

end Waits

end FleetMonitor.Library
