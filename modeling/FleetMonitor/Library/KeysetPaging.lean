import Mathlib.Data.List.Sort
import Mathlib.Order.MinMax

/-!
# Keyset pagination

A reader walks a list, sorted by a stamp, in pages of at most `n` rows: each page starts strictly
after a cursor, and the cursor then moves to the greatest stamp of the page. The walk stops at the
first page that is not full.

The stamp need not be a key. A row that shares its stamp with the last row of a full page is not
after the cursor, so the walk passes over it. Hence a walk returns every row exactly when no page
boundary falls between two rows of one stamp (`walk_complete_iff`).
-/

namespace FleetMonitor.Library.KeysetPaging

variable {ρ τ : Type*} [LinearOrder τ] (stamp : ρ → τ)

/-- The row comes strictly after the cursor; without a cursor every row does. -/
def After : Option τ → ρ → Prop
  | none,   _ => True
  | some c, r => c < stamp r

instance (c : Option τ) (r : ρ) : Decidable (After stamp c r) :=
  match c with
  | none   => inferInstanceAs (Decidable True)
  | some c => inferInstanceAs (Decidable (c < stamp r))

/-- The rows still to come, in order. -/
def window (l : List ρ) (c : Option τ) : List ρ := l.filter (After stamp c)

/-- The cursor after a page: its greatest stamp, or the old cursor when the page is empty. -/
def advance (c : Option τ) (page : List ρ) : Option τ := (page.map stamp).max?.or c

/-- Read pages of `n` rows from the cursor on, at most `fuel` of them. -/
def walk (n : ℕ) (l : List ρ) : ℕ → Option τ → Option (List ρ × Option τ)
  | 0, _ => none
  | fuel + 1, c =>
    let page := (window stamp l c).take n
    if n ≤ page.length then
      (walk n l fuel (advance stamp c page)).map fun rest => (page ++ rest.1, rest.2)
    else some (page, advance stamp c page)

/-- No page boundary, at a multiple of `n`, falls between two rows of one stamp. -/
def CleanBoundaries (n : ℕ) (w : List ρ) : Prop :=
  ∀ k, ∀ a ∈ w[(k + 1) * n - 1]?, ∀ b ∈ w[(k + 1) * n]?, stamp a ≠ stamp b

/-- The list is sorted by stamp. -/
def Sorted (l : List ρ) : Prop := l.Pairwise fun a b => stamp a ≤ stamp b

variable {stamp} {n : ℕ} {l w : List ρ} {c d : Option τ}

@[simp] lemma after_none (r : ρ) : After stamp none r := trivial

@[simp] lemma after_some {c : τ} {r : ρ} : After stamp (some c) r ↔ c < stamp r := Iff.rfl

lemma mem_window {r : ρ} : r ∈ window stamp l c ↔ r ∈ l ∧ After stamp c r := by
  simp [window]

lemma Sorted.window (h : Sorted stamp l) : Sorted stamp (window stamp l c) := h.filter _

lemma Sorted.drop (h : Sorted stamp w) (k : ℕ) : Sorted stamp (w.drop k) :=
  List.Pairwise.sublist (List.drop_sublist k w) h

/-! ### The cursor -/

instance instLawfulOrderMax : Std.LawfulOrderMax τ where
  max_eq_or := max_choice

@[simp] lemma advance_nil : advance stamp c [] = c := rfl

/-- A row of the page that no other exceeds gives the cursor. -/
lemma advance_eq_of_max {p : List ρ} {r : ρ} (hr : r ∈ p) (hmax : ∀ x ∈ p, stamp x ≤ stamp r) :
    advance stamp c p = some (stamp r) := by
  have : (p.map stamp).max? = some (stamp r) := by
    rw [List.max?_eq_some_iff]
    refine ⟨List.mem_map_of_mem hr, fun b hb => ?_⟩
    obtain ⟨x, hx, rfl⟩ := List.mem_map.mp hb
    exact hmax x hx
  rw [advance, this, Option.some_or]

/-- A page that is not empty has a row that no other exceeds. -/
lemma exists_max (stamp : ρ → τ) {p : List ρ} (hp : p ≠ []) :
    ∃ r ∈ p, ∀ x ∈ p, stamp x ≤ stamp r := by
  cases hm : (p.map stamp).max? with
  | none => exact absurd (List.map_eq_nil_iff.mp (List.max?_eq_none_iff.mp hm)) hp
  | some m =>
    rw [List.max?_eq_some_iff] at hm
    obtain ⟨r, hr, rfl⟩ := List.mem_map.mp hm.1
    exact ⟨r, hr, fun x hx => hm.2 _ (List.mem_map_of_mem hx)⟩

/-- The order of a page's rows does not matter to the cursor. -/
lemma advance_perm {p q : List ρ} (h : p.Perm q) : advance stamp c p = advance stamp c q := by
  by_cases hp : p = []
  · subst hp
    rw [h.nil_eq]
  · obtain ⟨r, hr, hmax⟩ := exists_max stamp hp
    rw [advance_eq_of_max hr hmax,
      advance_eq_of_max (h.mem_iff.mp hr) fun x hx => hmax x (h.mem_iff.mpr hx)]

/-- A later cursor leaves a part of the window. -/
lemma window_some_of_after {r : ρ} (h : After stamp c r) :
    window stamp l (some (stamp r)) =
      (window stamp l c).filter (fun x => stamp r < stamp x) := by
  rw [window, window, List.filter_filter]
  refine List.filter_congr fun x _ => ?_
  cases c with
  | none => simp
  | some c =>
    simp only [after_some] at h ⊢
    simp only [decide_eq_decide, ← Bool.decide_and]
    exact ⟨fun hx => ⟨hx, h.trans hx⟩, And.left⟩

/-- Moving the cursor to a row of the window and then over what is left moves it over the window. -/
lemma advance_window {r : ρ} (hr : r ∈ window stamp l c) :
    advance stamp (some (stamp r)) (window stamp l (some (stamp r))) =
      advance stamp c (window stamp l c) := by
  rw [window_some_of_after (mem_window.mp hr).2]
  by_cases hrest : (window stamp l c).filter (fun x => stamp r < stamp x) = []
  · rw [hrest, advance_nil, advance_eq_of_max hr]
    intro x hx
    have := List.filter_eq_nil_iff.mp hrest x hx
    simpa using this
  · obtain ⟨m, hm, hmax⟩ := exists_max stamp hrest
    have hm' := List.mem_filter.mp hm
    rw [advance_eq_of_max hm hmax, advance_eq_of_max hm'.1]
    intro x hx
    by_cases hxr : stamp r < stamp x
    · exact hmax x (List.mem_filter.mpr ⟨hx, by simpa using hxr⟩)
    · have hlt : stamp r < stamp m := by simpa using hm'.2
      exact (not_lt.mp hxr).trans hlt.le

/-- A full page moves the cursor to one of its rows. -/
lemma exists_advance_take (hn : 1 ≤ n) (hfull : n ≤ ((window stamp l c).take n).length) :
    ∃ r ∈ window stamp l c, advance stamp c ((window stamp l c).take n) = some (stamp r) := by
  have hne : (window stamp l c).take n ≠ [] := by
    intro h
    rw [h] at hfull
    simp at hfull
    omega
  obtain ⟨r, hr, hmax⟩ := exists_max stamp hne
  exact ⟨r, List.mem_of_mem_take hr, advance_eq_of_max hr hmax⟩

/-- A walk goes on after a full page and ends with any other. -/
lemma walk_succ_cases {fuel : ℕ} {rs : List ρ} (h : walk stamp n l (fuel + 1) c = some (rs, d)) :
    (n ≤ ((window stamp l c).take n).length ∧ ∃ rest,
      walk stamp n l fuel (advance stamp c ((window stamp l c).take n)) = some (rest, d) ∧
        rs = (window stamp l c).take n ++ rest) ∨
    (window stamp l c).length < n ∧ rs = window stamp l c ∧
      d = advance stamp c (window stamp l c) := by
  simp only [walk] at h
  split at h
  next hfull =>
    obtain ⟨⟨rest, d'⟩, hrest, heq⟩ := Option.map_eq_some_iff.mp h
    obtain ⟨rfl, rfl⟩ := Prod.mk.inj heq
    exact .inl ⟨hfull, rest, hrest, rfl⟩
  next hshort =>
    have hlength : (window stamp l c).length < n := by
      rw [List.length_take] at hshort
      omega
    rw [List.take_of_length_le hlength.le] at h
    obtain ⟨rfl, rfl⟩ := Prod.mk.inj (Option.some.inj h)
    exact .inr ⟨hlength, rfl, rfl⟩

/-- Where a walk ends, its cursor has moved over the whole window, ties or not. -/
theorem walk_cursor (hn : 1 ≤ n) {fuel : ℕ} {rs : List ρ}
    (h : walk stamp n l fuel c = some (rs, d)) : d = advance stamp c (window stamp l c) := by
  induction fuel generalizing c rs with
  | zero => simp [walk] at h
  | succ fuel ih =>
    rcases walk_succ_cases h with ⟨hfull, rest, hrest, -⟩ | ⟨-, -, hcursor⟩
    · obtain ⟨r, hr, hadv⟩ := exists_advance_take hn hfull
      rw [hadv] at hrest
      rw [ih hrest, advance_window hr]
    · exact hcursor

/-! ### Termination -/

/-- A walk ends: every full page leaves fewer rows after the cursor. -/
theorem walk_isSome (hn : 1 ≤ n) {fuel : ℕ} (h : (window stamp l c).length < fuel) :
    (walk stamp n l fuel c).isSome := by
  induction fuel generalizing c with
  | zero => omega
  | succ fuel ih =>
    simp only [walk]
    split
    next hfull =>
      obtain ⟨r, hr, hadv⟩ := exists_advance_take hn hfull
      rw [Option.isSome_map, hadv]
      apply ih
      have hlt : (window stamp l (some (stamp r))).length < (window stamp l c).length := by
        rw [window_some_of_after (mem_window.mp hr).2,
          List.length_filter_lt_length_iff_exists]
        exact ⟨r, hr, by simp⟩
      omega
    next => rfl

/-! ### Completeness -/

/-- After a full page of a sorted window the cursor is the stamp of the page's last row, and what
is left comes after the page. -/
lemma Sorted.filter_after_page {w : List ρ} (hw : Sorted stamp w) {r : ρ} (hn : 1 ≤ n)
    (hr : w[n - 1]? = some r) :
    w.filter (fun x => stamp r < stamp x) = (w.drop n).filter (fun x => stamp r < stamp x) := by
  conv_lhs => rw [← List.take_append_drop n w, List.filter_append]
  have htake : (w.take n).filter (fun x => stamp r < stamp x) = [] := by
    rw [List.filter_eq_nil_iff]
    intro x hx
    obtain ⟨i, hi, rfl⟩ := List.mem_take_iff_getElem.mp hx
    obtain ⟨hlt, rfl⟩ := List.getElem?_eq_some_iff.mp hr
    have : stamp w[i] ≤ stamp w[n - 1] := by
      rcases Nat.lt_or_ge i (n - 1) with h | h
      · exact List.pairwise_iff_getElem.mp hw i (n - 1) _ hlt h
      · have : i = n - 1 := by omega
        subst this
        exact le_rfl
    simpa using this
  rw [htake, List.nil_append]

/-- The cursor leaves everything after the page exactly when the next row has another stamp. -/
lemma Sorted.filter_drop_eq_self_iff (hw : Sorted stamp w) {r : ρ} (hn : 1 ≤ n)
    (hr : w[n - 1]? = some r) :
    (w.drop n).filter (fun x => stamp r < stamp x) = w.drop n ↔
      ∀ b ∈ w[n]?, stamp r ≠ stamp b := by
  rw [List.filter_eq_self]
  constructor
  · intro h b hb
    obtain ⟨hlt, rfl⟩ := List.getElem?_eq_some_iff.mp hb
    have hmem : w[n] ∈ w.drop n := List.mem_drop_iff_getElem.mpr ⟨0, by omega, by simp⟩
    exact (by simpa using h _ hmem : stamp r < stamp w[n]).ne
  · intro h x hx
    obtain ⟨i, hi, rfl⟩ := List.mem_drop_iff_getElem.mp hx
    obtain ⟨hlt, rfl⟩ := List.getElem?_eq_some_iff.mp hr
    have hn' : n < w.length := by omega
    have hne := h w[n] (List.getElem?_eq_getElem hn')
    have hle : stamp w[n - 1] ≤ stamp w[n] :=
      List.pairwise_iff_getElem.mp hw (n - 1) n hlt hn' (by omega)
    have hle' : stamp w[n] ≤ stamp w[n + i] := by
      rcases Nat.eq_zero_or_pos i with rfl | hi'
      · exact le_rfl
      · exact List.pairwise_iff_getElem.mp hw n (n + i) hn' _ (by omega)
    simpa using (lt_of_le_of_ne hle hne).trans_le hle'

/-- The last row of a full first page, and the cursor it gives. -/
lemma Sorted.exists_last (hw : Sorted stamp w) (hn : 1 ≤ n) (hfull : n ≤ (w.take n).length) :
    ∃ r, w[n - 1]? = some r ∧ r ∈ w ∧ advance stamp c (w.take n) = some (stamp r) := by
  have hlen : n - 1 < w.length := by
    rw [List.length_take] at hfull
    omega
  refine ⟨w[n - 1], List.getElem?_eq_getElem hlen, List.getElem_mem hlen, ?_⟩
  refine advance_eq_of_max (List.mem_take_iff_getElem.mpr ⟨n - 1, by omega, rfl⟩) fun x hx => ?_
  obtain ⟨i, hi, rfl⟩ := List.mem_take_iff_getElem.mp hx
  rcases Nat.lt_or_ge i (n - 1) with h | h
  · exact List.pairwise_iff_getElem.mp hw i (n - 1) _ hlen h
  · exact (by omega : i = n - 1) ▸ le_rfl

/-- What a walk of a sorted list returns is read in order and without repetition. -/
theorem walk_sublist (hl : Sorted stamp l) (hn : 1 ≤ n) {fuel : ℕ} {rs : List ρ}
    (h : walk stamp n l fuel c = some (rs, d)) : rs.Sublist (window stamp l c) := by
  induction fuel generalizing c rs with
  | zero => simp [walk] at h
  | succ fuel ih =>
    rcases walk_succ_cases h with ⟨hfull, rest, hrest, rfl⟩ | ⟨-, rfl, -⟩
    · obtain ⟨r, hr, hmem, hadv⟩ := hl.window.exists_last hn hfull
      rw [hadv] at hrest
      have hsub := ih hrest
      rw [window_some_of_after (mem_window.mp hmem).2, hl.window.filter_after_page hn hr] at hsub
      conv_rhs => rw [← List.take_append_drop n (window stamp l c)]
      exact (List.Sublist.refl _).append (hsub.trans List.filter_sublist)
    · exact List.Sublist.refl _

omit [LinearOrder τ] in
/-- The first boundary is split off from the later ones. -/
lemma cleanBoundaries_iff :
    CleanBoundaries stamp n w ↔
      (∀ a ∈ w[n - 1]?, ∀ b ∈ w[n]?, stamp a ≠ stamp b) ∧ CleanBoundaries stamp n (w.drop n) := by
  have hshift : ∀ k, 1 ≤ n → (k + 1 + 1) * n - 1 = n + ((k + 1) * n - 1) := by
    intro k hn
    have : n ≤ (k + 1) * n := Nat.le_mul_of_pos_left n (by omega)
    rw [Nat.add_one_mul (k + 1) n]
    omega
  constructor
  · intro h
    refine ⟨by simpa using h 0, fun k a ha b hb => ?_⟩
    rcases Nat.eq_zero_or_pos n with rfl | hn
    · simp only [Nat.mul_zero, Nat.zero_sub, List.drop_zero] at ha hb
      exact h k a (by simpa using ha) b (by simpa using hb)
    · rw [List.getElem?_drop] at ha hb
      refine h (k + 1) a (hshift k hn ▸ ha) b ?_
      rwa [Nat.add_one_mul (k + 1) n, Nat.add_comm]
  · rintro ⟨h0, h⟩ k a ha b hb
    cases k with
    | zero => exact h0 a (by simpa using ha) b (by simpa using hb)
    | succ k =>
      rcases Nat.eq_zero_or_pos n with rfl | hn
      · exact h0 a (by simpa using ha) b (by simpa using hb)
      · refine h k a ?_ b ?_
        · rw [List.getElem?_drop, ← hshift k hn]
          exact ha
        · rw [List.getElem?_drop, Nat.add_comm, ← Nat.add_one_mul]
          exact hb

omit [LinearOrder τ] in
lemma cleanBoundaries_of_length_lt (h : w.length < n) : CleanBoundaries stamp n w := by
  intro k a _ b hb
  obtain ⟨hlt, -⟩ := List.getElem?_eq_some_iff.mp hb
  have : n ≤ (k + 1) * n := Nat.le_mul_of_pos_left n (by omega)
  omega

/-- A walk of a sorted list returns every row after its cursor exactly when no page boundary falls
between two rows of one stamp. -/
theorem walk_complete_iff (hl : Sorted stamp l) (hn : 1 ≤ n) {fuel : ℕ} {rs : List ρ}
    (h : walk stamp n l fuel c = some (rs, d)) :
    rs = window stamp l c ↔ CleanBoundaries stamp n (window stamp l c) := by
  induction fuel generalizing c rs with
  | zero => simp [walk] at h
  | succ fuel ih =>
    rcases walk_succ_cases h with ⟨hfull, rest, hrest, rfl⟩ | ⟨hshort, rfl, -⟩
    · obtain ⟨r, hr, hmem, hadv⟩ := hl.window.exists_last hn hfull
      rw [hadv] at hrest
      have hiff := ih hrest
      have hsub := walk_sublist hl hn hrest
      rw [window_some_of_after (mem_window.mp hmem).2, hl.window.filter_after_page hn hr]
        at hiff hsub
      have hsplit : (window stamp l c).take n ++ rest = window stamp l c ↔
          rest = (window stamp l c).drop n := by
        conv_lhs => rhs; rw [← List.take_append_drop n (window stamp l c)]
        exact List.append_right_inj _
      have hclean : (∀ a ∈ (window stamp l c)[n - 1]?, ∀ b ∈ (window stamp l c)[n]?,
          stamp a ≠ stamp b) ↔ ∀ b ∈ (window stamp l c)[n]?, stamp r ≠ stamp b := by
        rw [hr]
        simp
      have hself := hl.window.filter_drop_eq_self_iff hn hr
      rw [hsplit, cleanBoundaries_iff, hclean, ← hself]
      constructor
      · rintro rfl
        have hall := hsub.antisymm List.filter_sublist
        exact ⟨hall.symm, by rw [← hall] at hiff; exact hiff.mp rfl⟩
      · rintro ⟨hall, hc⟩
        rw [hall] at hiff
        exact hiff.mpr hc
    · exact iff_of_true rfl (cleanBoundaries_of_length_lt hshort)

end FleetMonitor.Library.KeysetPaging
