import Mathlib.Logic.Basic

/-!
# Runs of a guarded transition system

A system is given by a step function `act : σ → α → Option σ`: `act s a` is the state after the
action `a`, and `none` when `a` is not enabled in `s`. What the environment chooses (the answer of a
remote service, the moment of a crash) is part of the action, so a run is a list of actions and an
interleaving of several parties is one such list.

`Reached act guard init` collects the states of the runs all of whose steps meet `guard`. A law
about every run is proved by what one step preserves (`Reached.invariant`).
-/

namespace FleetMonitor.Library

variable {σ α : Type*}

/-- The state after a list of actions; `none` as soon as one of them is not enabled. -/
def runActions (act : σ → α → Option σ) : σ → List α → Option σ
  | s, []      => some s
  | s, a :: as => (act s a).bind fun t => runActions act t as

/-- Every action of the list meets the guard in the state it is taken in. -/
def GuardsHold (act : σ → α → Option σ) (guard : σ → α → Prop) : σ → List α → Prop
  | _, []      => True
  | s, a :: as => guard s a ∧ ∀ t ∈ act s a, GuardsHold act guard t as

/-- The property holds in every state the list of actions passes through. -/
def StatesHold (act : σ → α → Option σ) (I : σ → Prop) : σ → List α → Prop
  | s, []      => I s
  | s, a :: as => I s ∧ ∀ t ∈ act s a, StatesHold act I t as

instance instDecidableGuardsHold (act : σ → α → Option σ) (guard : σ → α → Prop)
    [∀ s a, Decidable (guard s a)] : ∀ s as, Decidable (GuardsHold act guard s as)
  | _, []      => inferInstanceAs (Decidable True)
  | s, a :: as =>
    have : Decidable (∀ t ∈ act s a, GuardsHold act guard t as) :=
      match act s a with
      | none   => .isTrue fun _ h => nomatch h
      | some t =>
        match instDecidableGuardsHold act guard t as with
        | .isTrue h  => .isTrue fun _ ht => Option.mem_some.mp ht ▸ h
        | .isFalse h => .isFalse fun hall => h (hall t rfl)
    inferInstanceAs (Decidable (_ ∧ _))

/-- The states reached from `init` by steps that all meet `guard`. -/
inductive Reached (act : σ → α → Option σ) (guard : σ → α → Prop) (init : σ → Prop) : σ → Prop where
  | start {s : σ} (h : init s) : Reached act guard init s
  | step {s t : σ} {a : α} (h : Reached act guard init s) (hg : guard s a)
      (ha : act s a = some t) : Reached act guard init t

/-- The guard that lets every step through. -/
def unguarded : σ → α → Prop := fun _ _ => True

variable {act : σ → α → Option σ} {guard guard' : σ → α → Prop} {init : σ → Prop} {s t : σ}

/-- The invariant rule: what holds initially and is kept by every guarded step holds throughout. -/
theorem Reached.invariant {I : σ → Prop} (h0 : ∀ s, init s → I s)
    (hstep : ∀ s a t, I s → guard s a → act s a = some t → I t)
    (h : Reached act guard init s) : I s := by
  induction h with
  | start h => exact h0 _ h
  | step _ hg ha ih => exact hstep _ _ _ ih hg ha

/-- A stronger guard reaches fewer states. -/
lemma Reached.mono (hgg : ∀ s a, guard s a → guard' s a) (h : Reached act guard init s) :
    Reached act guard' init s := by
  induction h with
  | start h => exact .start h
  | step _ hg ha ih => exact .step ih (hgg _ _ hg) ha

/-- A list of actions taken from a reached state, guards included, reaches its last state. -/
lemma Reached.run {as : List α} (h : Reached act guard init s) (hg : GuardsHold act guard s as)
    (hrun : runActions act s as = some t) : Reached act guard init t := by
  induction as generalizing s with
  | nil =>
    simp only [runActions, Option.some.injEq] at hrun
    exact hrun ▸ h
  | cons a as ih =>
    simp only [runActions, Option.bind_eq_some_iff] at hrun
    obtain ⟨u, hu, hrun⟩ := hrun
    exact ih (h.step hg.1 hu) (hg.2 u hu) hrun

/-- A run that meets the guard reaches a state. -/
lemma Reached.exists_run {as : List α} (h : Reached act guard init s)
    (hg : GuardsHold act guard s as) (hsome : (runActions act s as).isSome) :
    ∃ t, runActions act s as = some t ∧ Reached act guard init t := by
  obtain ⟨t, ht⟩ := Option.isSome_iff_exists.mp hsome
  exact ⟨t, ht, h.run hg ht⟩

/-- A run that meets the guard, cut in two: the first part reaches the state the second one starts
from. -/
lemma Reached.exists_split {as bs : List α} (h : Reached act guard init s)
    (hg : GuardsHold act guard s (as ++ bs)) (hrun : (runActions act s (as ++ bs)).isSome) :
    ∃ u t, Reached act guard init u ∧ GuardsHold act guard u bs ∧
      runActions act s as = some u ∧ runActions act u bs = some t := by
  induction as generalizing s with
  | nil =>
    obtain ⟨t, ht⟩ := Option.isSome_iff_exists.mp hrun
    exact ⟨s, t, h, hg, rfl, ht⟩
  | cons a as ih =>
    simp only [List.cons_append, runActions] at hrun ⊢
    cases hact : act s a with
    | none => simp [hact] at hrun
    | some t =>
      rw [hact, Option.bind_some] at hrun
      exact ih (h.step hg.1 hact) (hg.2 t hact) hrun

lemma runActions_append (act : σ → α → Option σ) (s : σ) (as bs : List α) :
    runActions act s (as ++ bs) = (runActions act s as).bind fun u => runActions act u bs := by
  induction as generalizing s with
  | nil => rfl
  | cons a as ih =>
    simp only [List.cons_append, runActions, Option.bind_assoc]
    exact congrArg _ (funext fun t => ih t)

lemma runActions_singleton {a : α} : runActions act s [a] = act s a := by
  simp [runActions]

/-- Some list of actions leads from the one state to the other. -/
def LeadsTo (act : σ → α → Option σ) (s t : σ) : Prop := ∃ as, runActions act s as = some t

lemma LeadsTo.refl (s : σ) : LeadsTo act s s := ⟨[], rfl⟩

lemma LeadsTo.single {a : α} (h : act s a = some t) : LeadsTo act s t :=
  ⟨[a], runActions_singleton.trans h⟩

lemma LeadsTo.trans {u : σ} (hst : LeadsTo act s t) (htu : LeadsTo act t u) :
    LeadsTo act s u := by
  obtain ⟨as, has⟩ := hst
  obtain ⟨bs, hbs⟩ := htu
  exact ⟨as ++ bs, by rw [runActions_append, has, Option.bind_some, hbs]⟩

lemma LeadsTo.head {a : α} {u : σ} (h : act s a = some t) (htu : LeadsTo act t u) :
    LeadsTo act s u :=
  (LeadsTo.single h).trans htu

lemma guardsHold_unguarded (s : σ) (as : List α) : GuardsHold act unguarded s as := by
  induction as generalizing s with
  | nil => trivial
  | cons a as ih => exact ⟨trivial, fun t _ => ih t⟩

/-- What holds throughout a run holds in its last state. -/
lemma StatesHold.run {I : σ → Prop} {as : List α} (h : StatesHold act I s as)
    (hrun : runActions act s as = some t) : I t := by
  induction as generalizing s with
  | nil =>
    obtain rfl := Option.some.inj hrun
    exact h
  | cons a as ih =>
    obtain ⟨u, hu, hrun⟩ := Option.bind_eq_some_iff.mp hrun
    exact ih (h.2 u hu) hrun

/-- A property that a step keeps iff it meets the guard holds throughout a run iff every step of the
run meets the guard; what all steps keep may be used for it. -/
lemma statesHold_iff_guardsHold_of_invariant {J I : σ → Prop}
    (hkeep : ∀ s a t, J s → act s a = some t → J t)
    (hstep : ∀ s a t, J s → I s → act s a = some t → (I t ↔ guard s a))
    (henabled : ∀ s a, (act s a).isSome) {as : List α} (hJ : J s) (hs : I s) :
    StatesHold act I s as ↔ GuardsHold act guard s as := by
  induction as generalizing s with
  | nil => exact iff_of_true hs trivial
  | cons a as ih =>
    obtain ⟨t, ht⟩ := Option.isSome_iff_exists.mp (henabled s a)
    have hone : ∀ P : σ → Prop, (∀ u ∈ act s a, P u) ↔ P t := by
      intro P
      rw [ht]
      simp
    have hJt : J t := hkeep s a t hJ ht
    rw [StatesHold, GuardsHold, hone, hone, ← hstep s a t hJ hs ht]
    constructor
    · rintro ⟨-, h⟩
      have hI : I t := by
        cases as with
        | nil => exact h
        | cons => exact h.1
      exact ⟨hI, (ih hJt hI).mp h⟩
    · rintro ⟨hI, h⟩
      exact ⟨hs, (ih hJt hI).mpr h⟩

/-- The same without an invariant. -/
lemma statesHold_iff_guardsHold {I : σ → Prop}
    (hstep : ∀ s a t, I s → act s a = some t → (I t ↔ guard s a))
    (henabled : ∀ s a, (act s a).isSome) {as : List α} (hs : I s) :
    StatesHold act I s as ↔ GuardsHold act guard s as :=
  statesHold_iff_guardsHold_of_invariant (fun _ _ _ _ _ => trivial)
    (fun s a t (_ : True) => hstep s a t) henabled trivial hs

end FleetMonitor.Library
