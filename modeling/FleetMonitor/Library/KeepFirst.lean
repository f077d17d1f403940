import Mathlib.Data.List.Basic

/-!
# Keeping the first of each key

A pass over a list keeps the items that are not blocked and whose key no item kept before has. What
is kept is a subsequence with distinct keys, what is dropped is accounted for, and a second pass
changes nothing.
-/

namespace FleetMonitor.Library

variable {α κ : Type*} [DecidableEq κ] (key : α → κ) (blocked : α → Bool)

/-- The items a pass keeps, when it has seen some keys already. -/
def keepFirst : List α → List κ → List α
  | [], _ => []
  | a :: l, seen =>
    if key a ∈ seen then keepFirst l seen
    else if blocked a then keepFirst l seen
    else a :: keepFirst l (key a :: seen)

variable {key blocked} {l l' : List α} {seen seen' : List κ} {a : α}

@[simp] lemma keepFirst_nil : keepFirst key blocked [] seen = [] := rfl

lemma keepFirst_cons_of_skipped (h : key a ∈ seen ∨ blocked a = true) :
    keepFirst key blocked (a :: l) seen = keepFirst key blocked l seen := by
  rw [keepFirst]
  split_ifs with hseen hblocked
  · rfl
  · rfl
  · exact absurd h (by simp [hseen, hblocked])

lemma keepFirst_cons_of_kept (hseen : key a ∉ seen) (hblocked : blocked a = false) :
    keepFirst key blocked (a :: l) seen = a :: keepFirst key blocked l (key a :: seen) := by
  simp [keepFirst, hseen, hblocked]

/-- Only membership in what has been seen matters. -/
lemma keepFirst_congr (h : ∀ k, k ∈ seen ↔ k ∈ seen') :
    keepFirst key blocked l seen = keepFirst key blocked l seen' := by
  induction l generalizing seen seen' with
  | nil => rfl
  | cons a l ih =>
    have hcons : ∀ k, k ∈ key a :: seen ↔ k ∈ key a :: seen' := by simp [h]
    rw [keepFirst, keepFirst, ih h, ih hcons]
    simp only [h]

lemma keepFirst_sublist : (keepFirst key blocked l seen).Sublist l := by
  induction l generalizing seen with
  | nil => exact List.Sublist.refl _
  | cons a l ih =>
    rw [keepFirst]
    split_ifs
    · exact ih.cons a
    · exact ih.cons a
    · exact ih.cons_cons a

/-- What is kept is not blocked, and its key has not been seen before. -/
lemma of_mem_keepFirst (h : a ∈ keepFirst key blocked l seen) :
    key a ∉ seen ∧ blocked a = false := by
  induction l generalizing seen with
  | nil => simp at h
  | cons b l ih =>
    rw [keepFirst] at h
    split_ifs at h with hseen hblocked
    · exact ih h
    · exact ih h
    · rcases List.mem_cons.mp h with rfl | h
      · exact ⟨hseen, by simpa using hblocked⟩
      · obtain ⟨hnot, hclear⟩ := ih h
        exact ⟨fun hs => hnot (List.mem_cons_of_mem _ hs), hclear⟩

/-- The keys of what is kept are distinct. -/
lemma keepFirst_pairwise :
    (keepFirst key blocked l seen).Pairwise fun a b => key a ≠ key b := by
  induction l generalizing seen with
  | nil => exact List.Pairwise.nil
  | cons a l ih =>
    rw [keepFirst]
    split_ifs
    · exact ih
    · exact ih
    · refine List.pairwise_cons.mpr ⟨fun b hb heq => ?_, ih⟩
      exact (of_mem_keepFirst hb).1 (heq ▸ List.mem_cons_self)

/-- The pass goes on with the keys of what it has kept. -/
lemma keepFirst_append : keepFirst key blocked (l ++ l') seen =
    keepFirst key blocked l seen ++
      keepFirst key blocked l' ((keepFirst key blocked l seen).map key ++ seen) := by
  induction l generalizing seen with
  | nil => rfl
  | cons a l ih =>
    rw [List.cons_append, keepFirst, keepFirst]
    split_ifs
    · exact ih
    · exact ih
    · rw [ih, List.cons_append, List.map_cons]
      refine congrArg (a :: keepFirst key blocked l _ ++ ·) (keepFirst_congr fun k => ?_)
      simp only [List.mem_append, List.mem_cons]
      tauto

/-- An item is dropped for its key, which an earlier one has been kept with, or because it is
blocked. -/
lemma keepFirst_concat : keepFirst key blocked (l ++ [a]) [] =
    if (∃ b ∈ keepFirst key blocked l [], key b = key a) ∨ blocked a = true then
      keepFirst key blocked l []
    else keepFirst key blocked l [] ++ [a] := by
  rw [keepFirst_append, List.append_nil]
  split_ifs with h
  · rw [keepFirst_cons_of_skipped (by simpa using h), keepFirst_nil, List.append_nil]
  · obtain ⟨hkey, hblocked⟩ := not_or.mp h
    rw [keepFirst_cons_of_kept (by simpa using hkey) (by simpa using hblocked), keepFirst_nil]

/-- What is kept of the items up to some point stands at the front of what is kept of all. -/
lemma exists_keepFirst_append : ∃ rest, rest.Sublist l' ∧
    keepFirst key blocked (l ++ l') seen = keepFirst key blocked l seen ++ rest :=
  ⟨_, keepFirst_sublist, keepFirst_append⟩

/-- Items with distinct new keys that are not blocked are all kept. -/
lemma keepFirst_eq_self (hpairwise : l.Pairwise fun a b => key a ≠ key b)
    (hclear : ∀ a ∈ l, key a ∉ seen ∧ blocked a = false) : keepFirst key blocked l seen = l := by
  induction l generalizing seen with
  | nil => rfl
  | cons a l ih =>
    obtain ⟨hne, hpairwise⟩ := List.pairwise_cons.mp hpairwise
    obtain ⟨hseen, hblocked⟩ := hclear a List.mem_cons_self
    rw [keepFirst_cons_of_kept hseen hblocked, ih hpairwise fun b hb => ?_]
    obtain ⟨hseen, hblocked⟩ := hclear b (List.mem_cons_of_mem _ hb)
    exact ⟨List.not_mem_cons_of_ne_of_not_mem (hne b hb).symm hseen, hblocked⟩

/-- A second pass changes nothing. -/
lemma keepFirst_keepFirst : keepFirst key blocked (keepFirst key blocked l []) [] =
    keepFirst key blocked l [] :=
  keepFirst_eq_self keepFirst_pairwise fun _ ha => of_mem_keepFirst ha

/-! ### Distinct keys -/

/-- Each item once, at its first place. -/
def distinct (l : List κ) : List κ := keepFirst id (fun _ => false) l []

variable (key blocked seen) in
/-- An item that is not blocked has its key seen or kept. -/
lemma exists_mem_keepFirst (ha : a ∈ l) (hclear : blocked a = false) :
    key a ∈ seen ∨ ∃ b ∈ keepFirst key blocked l seen, key b = key a := by
  induction l generalizing seen with
  | nil => cases ha
  | cons b l ih =>
    by_cases hskip : key b ∈ seen ∨ blocked b = true
    · rw [keepFirst_cons_of_skipped hskip]
      rcases List.mem_cons.mp ha with rfl | ha
      · exact .inl (hskip.resolve_right (by simp [hclear]))
      · exact ih _ ha
    · obtain ⟨hseen, hblocked⟩ := not_or.mp hskip
      rw [keepFirst_cons_of_kept hseen (by simpa using hblocked)]
      rcases List.mem_cons.mp ha with rfl | ha
      · exact .inr ⟨a, List.mem_cons_self, rfl⟩
      · rcases ih _ ha with hmem | ⟨c, hc, heq⟩
        · rcases List.mem_cons.mp hmem with heq | hmem
          · exact .inr ⟨b, List.mem_cons_self, heq.symm⟩
          · exact .inl hmem
        · exact .inr ⟨c, List.mem_cons_of_mem _ hc, heq⟩

lemma mem_distinct {l : List κ} {k : κ} : k ∈ distinct l ↔ k ∈ l := by
  constructor
  · intro h
    exact keepFirst_sublist.subset h
  · intro h
    rcases exists_mem_keepFirst id (fun _ => false) [] h rfl with hseen | ⟨k', hk', rfl⟩
    · cases hseen
    · exact hk'

end FleetMonitor.Library
