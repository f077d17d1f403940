import Mathlib.Data.List.Forall2
import Mathlib.Data.List.Perm.Basic

/-!
# Owned writes

Jobs run one after the other on a shared state, of which each owns some keys. A job leaves what is
under the keys of others alone, and what it leaves under its own follows from what it finds there.
Jobs with no key in common then do what each would do alone on the first state, in whatever order
they run.
-/

namespace FleetMonitor.Library

variable {ι κ σ ν : Type*} {view : σ → κ → ν} {owns : ι → κ → Prop} {act : σ → ι → σ}

/-- A job reads and writes the state under its own keys. -/
structure OwnedWrites (view : σ → κ → ν) (owns : ι → κ → Prop) (act : σ → ι → σ) : Prop where
  frame : ∀ s i k, ¬owns i k → view (act s i) k = view s k
  congr : ∀ s s' i, (∀ k, owns i k → view s k = view s' k) →
    ∀ k, owns i k → view (act s i) k = view (act s' i) k

/-- Two jobs have no key in common. -/
def NoSharedKey (owns : ι → κ → Prop) (i j : ι) : Prop := ∀ k, owns i k → ¬owns j k

namespace OwnedWrites

lemma view_foldl_of_unowned (h : OwnedWrites view owns act) {is : List ι} {k : κ}
    (hunowned : ∀ i ∈ is, ¬owns i k) (s : σ) : view (is.foldl act s) k = view s k := by
  induction is generalizing s with
  | nil => rfl
  | cons i is ih =>
    rw [List.foldl_cons, ih (fun j hj => hunowned j (List.mem_cons_of_mem i hj)),
      h.frame s i k (hunowned i List.mem_cons_self)]

/-- Under its own keys a job leaves what it would have left on the first state. -/
theorem view_foldl_of_owned (h : OwnedWrites view owns act) {is : List ι}
    (hshared : is.Pairwise (NoSharedKey owns)) {i : ι} (hi : i ∈ is) {k : κ} (hk : owns i k)
    (s : σ) :
    view (is.foldl act s) k = view (act s i) k := by
  induction is generalizing s with
  | nil => cases hi
  | cons j is ih =>
    obtain ⟨hj, hrest⟩ := List.pairwise_cons.mp hshared
    rw [List.foldl_cons]
    rcases List.mem_cons.mp hi with rfl | hmem
    · exact h.view_foldl_of_unowned (fun j' hj' => hj j' hj' k hk) _
    · rw [ih hrest hmem]
      have hsame : ∀ k', owns i k' → view (act s j) k' = view s k' := by
        intro k' hk'
        exact h.frame s j k' fun hown => hj i hmem k' hown hk'
      exact h.congr _ _ i hsame k hk

/-- Jobs with no key in common leave the same state in every order. -/
theorem foldl_eq_of_perm (h : OwnedWrites view owns act) (hext : ∀ s s', view s = view s' → s = s')
    {is is' : List ι} (hperm : is.Perm is') (hshared : is.Pairwise (NoSharedKey owns)) (s : σ) :
    is.foldl act s = is'.foldl act s := by
  have hsymm : ∀ i j, NoSharedKey owns i j → NoSharedKey owns j i := fun i j hij k hj hi => hij k hi hj
  have hshared' : is'.Pairwise (NoSharedKey owns) := hperm.pairwise hshared (fun hij => hsymm _ _ hij)
  apply hext
  funext k
  by_cases howned : ∃ i ∈ is, owns i k
  · obtain ⟨i, hi, hk⟩ := howned
    rw [h.view_foldl_of_owned hshared hi hk,
      h.view_foldl_of_owned hshared' (hperm.mem_iff.mp hi) hk]
  · have hnone : ∀ i ∈ is, ¬owns i k := fun i hi hk => howned ⟨i, hi, hk⟩
    rw [h.view_foldl_of_unowned hnone,
      h.view_foldl_of_unowned fun i hi => hnone i (hperm.mem_iff.mpr hi)]

end OwnedWrites

/-! ### Rows of a list -/

variable {α β : Type*} [DecidableEq κ] {key : α → κ} {l l' : List α}

/-- The rows of a list that have a key, in their places. -/
def rowsAt (key : α → κ) (l : List α) (k : κ) : List (Option α) :=
  l.map fun x => if key x = k then some x else none

lemma rowsAt_ext (h : rowsAt key l = rowsAt key l') : l = l' := by
  induction l generalizing l' with
  | nil =>
    cases l' with
    | nil => rfl
    | cons y l' => simpa [rowsAt] using congrFun h (key y)
  | cons x l ih =>
    cases l' with
    | nil => simpa [rowsAt] using congrFun h (key x)
    | cons y l' =>
      have hheads :
          ∀ k, (if key x = k then some x else none) = if key y = k then some y else none :=
        fun k => (List.cons.inj (congrFun h k)).1
      have htails : rowsAt key l = rowsAt key l' := funext fun k => (List.cons.inj (congrFun h k)).2
      have hxy : x = y := by
        have hx := hheads (key x)
        rw [if_pos rfl] at hx
        split_ifs at hx
        exact Option.some.inj hx
      rw [hxy, ih htails]

/-- A row is where its key's rows are the same. -/
lemma mem_of_rowsAt_eq {k : κ} (h : rowsAt key l k = rowsAt key l' k) {x : α} (hx : x ∈ l')
    (hk : key x = k) : x ∈ l := by
  have hmem : some x ∈ rowsAt key l k := by
    rw [h]
    exact List.mem_map.mpr ⟨x, hx, if_pos hk⟩
  obtain ⟨y, hy, heq⟩ := List.mem_map.mp hmem
  split_ifs at heq
  exact Option.some.inj heq ▸ hy

/-- The rows that have one of some keys follow from the rows of each. -/
lemma filter_eq_of_rowsAt (key : α → κ) (P : κ → Prop) [DecidablePred P]
    (h : ∀ k, P k → rowsAt key l k = rowsAt key l' k) (hlength : l.length = l'.length) :
    l.filter (fun x => P (key x)) = l'.filter fun x => P (key x) := by
  induction l generalizing l' with
  | nil => rw [List.eq_nil_of_length_eq_zero hlength.symm]
  | cons x l ih =>
    match l', hlength with
    | y :: l', hlength =>
      have htails := ih (fun k hk => (List.cons.inj (h k hk)).2) (Nat.succ.inj hlength)
      have hheads : ∀ k, P k →
          (if key x = k then some x else none) = if key y = k then some y else none :=
        fun k hk => (List.cons.inj (h k hk)).1
      by_cases hx : P (key x)
      · have heq := hheads _ hx
        rw [if_pos rfl] at heq
        split_ifs at heq
        obtain rfl := Option.some.inj heq
        simp [hx, htails]
      · have hy : ¬P (key y) := by
          intro hy
          have heq := hheads _ hy
          rw [if_pos rfl] at heq
          split_ifs at heq with hkey
          exact hx (hkey ▸ hy)
        simp [hx, hy, htails]

/-- Maps that keep the keys and agree on the rows of a key leave the same rows of it. -/
lemma rowsAt_map_congr {f g : α → α} (hf : ∀ x, key (f x) = key x) (hg : ∀ x, key (g x) = key x)
    {k : κ} (hrows : rowsAt key l k = rowsAt key l' k) (h : ∀ x ∈ l, key x = k → f x = g x) :
    rowsAt key (l.map f) k = rowsAt key (l'.map g) k := by
  induction l generalizing l' with
  | nil =>
    cases l' with
    | nil => rfl
    | cons y l' => simp [rowsAt] at hrows
  | cons x l ih =>
    cases l' with
    | nil => simp [rowsAt] at hrows
    | cons y l' =>
      obtain ⟨hhead, htail⟩ := List.cons.inj hrows
      have hrest := ih htail fun z hz => h z (List.mem_cons_of_mem x hz)
      have hfirst : (if key (f x) = k then some (f x) else none) =
          if key (g y) = k then some (g y) else none := by
        rw [hf, hg]
        simp only at hhead
        split_ifs at hhead with hx hy
        · obtain rfl := Option.some.inj hhead
          rw [if_pos hx, if_pos hx, h x List.mem_cons_self hx]
        · rw [if_neg hx, if_neg ‹_›]
      exact congrArg₂ List.cons hfirst hrest

/-- Lists whose rows of each key are related by a map of that key are related place by place. -/
lemma forall₂_of_rowsAt (key : α → κ) {R : α → α → Prop}
    (h : ∀ k, ∃ f : α → α, (∀ x, key (f x) = key x) ∧
      rowsAt key l' k = rowsAt key (l.map f) k ∧ ∀ x ∈ l, key x = k → R x (f x)) :
    List.Forall₂ R l l' := by
  induction l generalizing l' with
  | nil =>
    cases l' with
    | nil => exact .nil
    | cons y l' =>
      obtain ⟨f, -, hrows, -⟩ := h (key y)
      simp [rowsAt] at hrows
  | cons x l ih =>
    obtain ⟨f, hf, hrows, hR⟩ := h (key x)
    cases l' with
    | nil => simp [rowsAt] at hrows
    | cons y l' =>
      have hhead : (if key y = key x then some y else none) =
          if key (f x) = key x then some (f x) else none := (List.cons.inj hrows).1
      rw [if_pos (hf x)] at hhead
      split_ifs at hhead
      obtain rfl := Option.some.inj hhead
      refine .cons (hR x List.mem_cons_self rfl) (ih fun k => ?_)
      obtain ⟨g, hg, hrows, hR⟩ := h k
      exact ⟨g, hg, (List.cons.inj hrows).2, fun z hz => hR z (List.mem_cons_of_mem x hz)⟩

end FleetMonitor.Library
