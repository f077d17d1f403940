import Mathlib.Data.List.Basic

/-!
# Replayed batches

A batch of operations is carried out from its start, again and again, until a pass gets to its end;
a pass that fails leaves what it did. If an operation, once done, stays settled and is absorbed when
it comes again, then in the end the state is that of a single pass.
-/

namespace FleetMonitor.Library

variable {σ ι : Type*}

/-- The operations, in turn. -/
inductive Steps (step : ι → σ → σ → Prop) : List ι → σ → σ → Prop where
  | nil (s : σ) : Steps step [] s s
  | cons {i : ι} {is : List ι} {s t u : σ} (h : step i s t) (hs : Steps step is t u) :
      Steps step (i :: is) s u

/-- Passes over the batch that stop after so many operations, one after the other. -/
inductive Passes (step : ι → σ → σ → Prop) (batch : List ι) : List ℕ → σ → σ → Prop where
  | nil (s : σ) : Passes step batch [] s s
  | cons {k : ℕ} {ks : List ℕ} {s t u : σ} (h : Steps step (batch.take k) s t)
      (hs : Passes step batch ks t u) : Passes step batch (k :: ks) s u

/-- Once done, an operation of the batch is settled, stays settled, and is absorbed when it comes
again, up to what `same` does not tell apart. -/
structure ReplayRules (step : ι → σ → σ → Prop) (batch : List ι) (inv : σ → Prop)
    (same : σ → σ → Prop) (settled : ι → σ → Prop) : Prop where
  equivalence : Equivalence same
  total : ∀ {i s}, i ∈ batch → inv s → ∃ t, step i s t
  keeps : ∀ {i s t}, i ∈ batch → inv s → step i s t → inv t
  settles : ∀ {i s t}, i ∈ batch → inv s → step i s t → settled i t
  stays : ∀ {i j s t}, i ∈ batch → j ∈ batch → inv s → settled i s → step j s t → settled i t
  absorbs : ∀ {i s t}, i ∈ batch → inv s → settled i s → step i s t → same t s
  congr : ∀ {i s s' t t'}, i ∈ batch → inv s → inv s' → same s s' → step i s t → step i s' t' →
    same t t'

/-- Up to what `same` does not tell apart, the state is the one that the first `m` operations leave
once, and these are settled. -/
structure Progress (step : ι → σ → σ → Prop) (batch : List ι) (inv : σ → Prop)
    (same : σ → σ → Prop) (settled : ι → σ → Prop) (s₀ : σ) (m : ℕ) (s : σ) : Prop where
  inv : inv s
  settled : ∀ i ∈ batch.take m, settled i s
  same : ∃ w, Steps step (batch.take m) s₀ w ∧ same s w

variable {step : ι → σ → σ → Prop} {batch is js : List ι} {inv : σ → Prop} {same : σ → σ → Prop}
  {settled : ι → σ → Prop} {s s' t t' u v : σ} {ks : List ℕ}

lemma steps_append : Steps step (is ++ js) s u ↔ ∃ t, Steps step is s t ∧ Steps step js t u := by
  constructor
  · intro h
    induction is generalizing s with
    | nil => exact ⟨s, .nil s, h⟩
    | cons i is ih =>
      cases h with
      | cons hi hrest =>
        obtain ⟨t, his, hjs⟩ := ih hrest
        exact ⟨t, .cons hi his, hjs⟩
  · rintro ⟨t, his, hjs⟩
    induction his with
    | nil => exact hjs
    | cons hi _ ih => exact .cons hi (ih hjs)

namespace ReplayRules

variable (h : ReplayRules step batch inv same settled)
include h

lemma exists_steps (his : ∀ i ∈ is, i ∈ batch) (hinv : inv s) : ∃ t, Steps step is s t := by
  induction is generalizing s with
  | nil => exact ⟨s, .nil s⟩
  | cons i is ih =>
    obtain ⟨hi, his⟩ := List.forall_mem_cons.mp his
    obtain ⟨t, ht⟩ := h.total hi hinv
    obtain ⟨u, hu⟩ := ih his (h.keeps hi hinv ht)
    exact ⟨u, .cons ht hu⟩

lemma keeps_steps (his : ∀ i ∈ is, i ∈ batch) (hinv : inv s) (hs : Steps step is s t) : inv t := by
  induction hs with
  | nil => exact hinv
  | cons hi _ ih =>
    obtain ⟨hmem, his⟩ := List.forall_mem_cons.mp his
    exact ih his (h.keeps hmem hinv hi)

lemma keeps_passes (hinv : inv s) (hpasses : Passes step batch ks s t) : inv t := by
  induction hpasses with
  | nil => exact hinv
  | cons hpass _ ih => exact ih (h.keeps_steps (fun i => List.mem_of_mem_take) hinv hpass)

lemma stays_steps {i : ι} (hi : i ∈ batch) (his : ∀ j ∈ is, j ∈ batch) (hinv : inv s)
    (hsettled : settled i s) (hs : Steps step is s t) : settled i t := by
  induction hs with
  | nil => exact hsettled
  | cons hj _ ih =>
    obtain ⟨hmem, his⟩ := List.forall_mem_cons.mp his
    exact ih his (h.keeps hmem hinv hj) (h.stays hi hmem hinv hsettled hj)

lemma settles_steps (his : ∀ i ∈ is, i ∈ batch) (hinv : inv s) (hs : Steps step is s t) :
    ∀ i ∈ is, settled i t := by
  induction hs with
  | nil => simp
  | cons hi hrest ih =>
    obtain ⟨hmem, his⟩ := List.forall_mem_cons.mp his
    have hinv' := h.keeps hmem hinv hi
    exact List.forall_mem_cons.mpr
      ⟨h.stays_steps hmem his hinv' (h.settles hmem hinv hi) hrest, ih his hinv'⟩

lemma congr_steps (his : ∀ i ∈ is, i ∈ batch) (hinv : inv s) (hinv' : inv s') (hsame : same s s')
    (hs : Steps step is s t) (hs' : Steps step is s' t') : same t t' := by
  induction hs generalizing s' with
  | nil =>
    cases hs'
    exact hsame
  | cons hi _ ih =>
    cases hs' with
    | cons hi' hrest' =>
      obtain ⟨hmem, his⟩ := List.forall_mem_cons.mp his
      exact ih his (h.keeps hmem hinv hi) (h.keeps hmem hinv' hi')
        (h.congr hmem hinv hinv' hsame hi hi') hrest'

/-- Settled operations change nothing. -/
lemma absorbs_steps (his : ∀ i ∈ is, i ∈ batch) (hinv : inv s) (hsettled : ∀ i ∈ is, settled i s)
    (hs : Steps step is s t) : same t s := by
  induction hs with
  | nil => exact h.equivalence.refl _
  | cons hi _ ih =>
    obtain ⟨hmem, his⟩ := List.forall_mem_cons.mp his
    obtain ⟨hfirst, hrest⟩ := List.forall_mem_cons.mp hsettled
    have hsame := ih his (h.keeps hmem hinv hi)
      fun j hj => h.stays (his j hj) hmem hinv (hrest j hj) hi
    exact h.equivalence.trans hsame (h.absorbs hmem hinv hfirst hi)

/-- A pass gets as far as it goes, or leaves the state as it is. -/
lemma progress_pass {s₀ : σ} {m k : ℕ} (hinv₀ : inv s₀)
    (hs : Progress step batch inv same settled s₀ m s) (hpass : Steps step (batch.take k) s t) :
    Progress step batch inv same settled s₀ (max m k) t := by
  obtain ⟨hinv, hsettled, w, hw, hsame⟩ := hs
  have htake : ∀ k, ∀ i ∈ batch.take k, i ∈ batch := fun k i => List.mem_of_mem_take
  have hinv' := h.keeps_steps (htake k) hinv hpass
  have hkept : ∀ i ∈ batch.take m, settled i t := fun i hi =>
    h.stays_steps (htake m i hi) (htake k) hinv (hsettled i hi) hpass
  rcases Nat.le_total k m with hle | hle
  · -- All of the pass has been done before.
    rw [Nat.max_eq_left hle]
    have hdone : ∀ i ∈ batch.take k, settled i s := fun i hi =>
      hsettled i ((List.take_sublist_take_left hle).subset hi)
    exact ⟨hinv', hkept, w, hw, h.equivalence.trans (h.absorbs_steps (htake k) hinv hdone hpass) hsame⟩
  · rw [Nat.max_eq_right hle]
    have hsplit : batch.take k = batch.take m ++ (batch.take k).drop m := by
      have htwo := (List.take_append_drop m (batch.take k)).symm
      rwa [List.take_take, Nat.min_eq_left hle] at htwo
    have hrest : ∀ i ∈ (batch.take k).drop m, i ∈ batch := fun i hi =>
      htake k i (List.mem_of_mem_drop hi)
    have hinvw := h.keeps_steps (htake m) hinv₀ hw
    obtain ⟨w', hw'⟩ := h.exists_steps hrest hinvw
    have hsettles := h.settles_steps (htake k) hinv hpass
    rw [hsplit] at hpass
    obtain ⟨u, hu, hut⟩ := steps_append.mp hpass
    have hsame' := h.equivalence.trans (h.absorbs_steps (htake m) hinv hsettled hu) hsame
    refine ⟨hinv', hsettles, w', ?_, ?_⟩
    · rw [hsplit]
      exact steps_append.mpr ⟨w, hw, hw'⟩
    · exact h.congr_steps hrest (h.keeps_steps (htake m) hinv hu) hinvw hsame' hut hw'

lemma progress_passes {s₀ : σ} {m : ℕ} (hinv₀ : inv s₀)
    (hs : Progress step batch inv same settled s₀ m s) (hpasses : Passes step batch ks s t) :
    ∃ m', Progress step batch inv same settled s₀ m' t := by
  induction hpasses generalizing m with
  | nil => exact ⟨m, hs⟩
  | cons hpass _ ih => exact ih (h.progress_pass hinv₀ hs hpass)

/-- Failed passes and then one that gets to the end leave what a single pass leaves. -/
theorem replay (hinv : inv s) (hpasses : Passes step batch ks s t) (hlast : Steps step batch t u)
    (honce : Steps step batch s v) : same u v := by
  have hstart : Progress step batch inv same settled s 0 s :=
    ⟨hinv, by simp, s, .nil s, h.equivalence.refl s⟩
  obtain ⟨m, hm⟩ := h.progress_passes hinv hstart hpasses
  rw [← List.take_length (l := batch)] at hlast
  obtain ⟨-, -, w, hw, hsame⟩ := h.progress_pass hinv hm hlast
  rw [List.take_of_length_le (Nat.le_max_right m _)] at hw
  exact h.equivalence.trans hsame
    (h.congr_steps (fun _ => id) hinv hinv (h.equivalence.refl s) hw honce)

end ReplayRules

end FleetMonitor.Library
