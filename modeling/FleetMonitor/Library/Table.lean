import Mathlib.Data.List.Nodup

/-!
# Keyed tables

A table is a finite list of rows no two of which share a key; the order of the rows carries no
meaning. `lookup` reads a row by its key, `upsert` writes one (modify-or-create), `delete` removes
the rows of a list of keys. Everything about a table follows from how these act on `lookup`.
-/

namespace FleetMonitor.Library

/-- Rows of type `ρ` with pairwise distinct keys. -/
@[ext] structure Table {κ ρ : Type*} (key : ρ → κ) where
  rows : List ρ
  nodup : (rows.map key).Nodup

namespace Table

variable {κ ρ : Type*} [DecidableEq κ] {key : ρ → κ}

/-- The table without rows. -/
def empty : Table key := ⟨[], List.nodup_nil⟩

def keys (t : Table key) : List κ := t.rows.map key

/-- The row stored under a key. -/
def lookup (t : Table key) (k : κ) : Option ρ := t.rows.find? (fun r => key r = k)

/-- Write a row, replacing the one that has its key. -/
def upsert (t : Table key) (r : ρ) : Table key where
  rows := r :: t.rows.filter (fun x => key x ≠ key r)
  nodup := by
    rw [List.map_cons, List.nodup_cons]
    refine ⟨?_, (List.filter_sublist.map key).nodup t.nodup⟩
    simp only [List.mem_map, List.mem_filter, not_exists, not_and, decide_eq_true_eq]
    exact fun x hx => hx.2

/-- Write the rows of a list in order. -/
def upsertAll (t : Table key) (rs : List ρ) : Table key := rs.foldl upsert t

/-- Remove the rows stored under the given keys. -/
def delete (t : Table key) (ks : List κ) : Table key where
  rows := t.rows.filter (fun x => key x ∉ ks)
  nodup := (List.filter_sublist.map key).nodup t.nodup

/-! ### Reading -/

omit [DecidableEq κ] in
/-- Two rows with one key are one row. -/
lemma row_eq_of_key_eq {t : Table key} {r x : ρ} (hr : r ∈ t.rows) (hx : x ∈ t.rows)
    (h : key r = key x) : r = x :=
  List.inj_on_of_nodup_map t.nodup hr hx h

lemma lookup_eq_some_iff {t : Table key} {k : κ} {r : ρ} :
    t.lookup k = some r ↔ r ∈ t.rows ∧ key r = k := by
  constructor
  · intro h
    exact ⟨List.mem_of_find?_eq_some h, by simpa using List.find?_some h⟩
  · rintro ⟨hr, rfl⟩
    cases hf : t.rows.find? (fun x => key x = key r) with
    | none =>
      have := List.find?_eq_none.mp hf r hr
      simp at this
    | some x =>
      have hx : key x = key r := by simpa using List.find?_some hf
      have : x = r := row_eq_of_key_eq (List.mem_of_find?_eq_some hf) hr hx
      rw [lookup, hf, this]

lemma lookup_eq_none_iff {t : Table key} {k : κ} :
    t.lookup k = none ↔ ∀ r ∈ t.rows, key r ≠ k := by
  simp [lookup, List.find?_eq_none]

lemma key_of_lookup {t : Table key} {k : κ} {r : ρ} (h : t.lookup k = some r) : key r = k :=
  (lookup_eq_some_iff.mp h).2

lemma mem_rows_of_lookup {t : Table key} {k : κ} {r : ρ} (h : t.lookup k = some r) :
    r ∈ t.rows :=
  (lookup_eq_some_iff.mp h).1

lemma lookup_of_mem {t : Table key} {r : ρ} (h : r ∈ t.rows) : t.lookup (key r) = some r :=
  lookup_eq_some_iff.mpr ⟨h, rfl⟩

lemma mem_keys_iff {t : Table key} {k : κ} : k ∈ t.keys ↔ t.lookup k ≠ none := by
  rw [Ne, lookup_eq_none_iff]
  simp [keys]

@[simp] lemma lookup_empty (k : κ) : (empty : Table key).lookup k = none := rfl

/-- Of rows with distinct keys one at most has the given one. -/
lemma filter_key_eq {rows : List ρ} (h : (rows.map key).Nodup) (k : κ) :
    rows.filter (fun r => key r = k) = (rows.find? fun r => key r = k).toList := by
  induction rows with
  | nil => rfl
  | cons r rows ih =>
    obtain ⟨hnotin, hnodup⟩ := List.nodup_cons.mp h
    by_cases hr : key r = k
    · have hnone : ∀ x ∈ rows, ¬key x = k := fun x hx hxk =>
        hnotin (List.mem_map.mpr ⟨x, hx, hxk.trans hr.symm⟩)
      have hnil : rows.filter (fun x => key x = k) = [] :=
        List.filter_eq_nil_iff.mpr fun x hx => by simpa using hnone x hx
      rw [List.filter_cons_of_pos (by simpa), hnil]
      simp [hr]
    · rw [List.filter_cons_of_neg (by simpa), ih hnodup]
      simp [hr]

/-! ### Writing -/

lemma lookup_upsert (t : Table key) (r : ρ) (k : κ) :
    (t.upsert r).lookup k = if key r = k then some r else t.lookup k := by
  by_cases hk : key r = k
  · simp [lookup, upsert, hk]
  · have hcomp : ∀ x : ρ, (key x ≠ key r ∧ key x = k) ↔ key x = k :=
      fun x => ⟨And.right, fun h => ⟨fun h' => hk (h' ▸ h), h⟩⟩
    simp only [lookup, upsert, List.find?_cons, hk, decide_false, List.find?_filter, if_false]
    congr 1
    funext x
    simpa using hcomp x

@[simp] lemma lookup_upsert_self (t : Table key) (r : ρ) :
    (t.upsert r).lookup (key r) = some r := by
  simp [lookup_upsert]

lemma lookup_upsert_of_ne (t : Table key) {r : ρ} {k : κ} (h : key r ≠ k) :
    (t.upsert r).lookup k = t.lookup k := by
  rw [lookup_upsert, if_neg h]

lemma mem_rows_upsert {t : Table key} {r x : ρ} :
    x ∈ (t.upsert r).rows ↔ x = r ∨ x ∈ t.rows ∧ key x ≠ key r := by
  simp [upsert]

lemma mem_keys_upsert {t : Table key} {r : ρ} {k : κ} :
    k ∈ (t.upsert r).keys ↔ k = key r ∨ k ∈ t.keys := by
  rw [mem_keys_iff, mem_keys_iff, lookup_upsert]
  by_cases h : key r = k
  · simp [h]
  · simp [h, Ne.symm h]

@[simp] lemma upsertAll_nil (t : Table key) : t.upsertAll [] = t := rfl

@[simp] lemma upsertAll_cons (t : Table key) (r : ρ) (rs : List ρ) :
    t.upsertAll (r :: rs) = (t.upsert r).upsertAll rs := rfl

/-- The last row of the batch with the key, else the row before. -/
lemma lookup_upsertAll (t : Table key) (rs : List ρ) (k : κ) :
    (t.upsertAll rs).lookup k = (rs.reverse.find? (key · = k)).or (t.lookup k) := by
  induction rs generalizing t with
  | nil => rfl
  | cons r rs ih =>
    rw [upsertAll_cons, ih, List.reverse_cons, List.find?_append, Option.or_assoc]
    congr 1
    by_cases hr : key r = k
    · rw [← hr, lookup_upsert_self]
      simp
    · rw [lookup_upsert_of_ne _ hr]
      simp [hr]

lemma mem_of_mem_upsertAll {t : Table key} {rs : List ρ} {r : ρ} (h : r ∈ (t.upsertAll rs).rows) :
    r ∈ rs ∨ r ∈ t.rows := by
  have hlookup := lookup_of_mem h
  rw [lookup_upsertAll, Option.or_eq_some_iff] at hlookup
  rcases hlookup with hfound | ⟨-, hold⟩
  · exact .inl (List.mem_reverse.mp (List.mem_of_find?_eq_some hfound))
  · exact .inr (mem_rows_of_lookup hold)

/-! ### Deleting -/

lemma lookup_delete (t : Table key) (ks : List κ) (k : κ) :
    (t.delete ks).lookup k = if k ∈ ks then none else t.lookup k := by
  by_cases hk : k ∈ ks
  · rw [if_pos hk, lookup_eq_none_iff]
    rintro r hr rfl
    simp only [delete, List.mem_filter, decide_eq_true_eq] at hr
    exact hr.2 hk
  · have hcomp : ∀ x : ρ, (key x ∉ ks ∧ key x = k) ↔ key x = k :=
      fun x => ⟨And.right, fun h => ⟨h ▸ hk, h⟩⟩
    simp only [lookup, delete, List.find?_filter, if_neg hk]
    congr 1
    funext x
    simpa using hcomp x

lemma mem_keys_delete {t : Table key} {ks : List κ} {k : κ} :
    k ∈ (t.delete ks).keys ↔ k ∈ t.keys ∧ k ∉ ks := by
  rw [mem_keys_iff, mem_keys_iff, lookup_delete]
  by_cases h : k ∈ ks <;> simp [h]

/-! ### Joining -/

section Join

variable {σ γ : Type*} {key' : σ → κ}

/-- The rows of a table with those of another that have the same keys. -/
def join (s : Table key) (t : Table key') : List (ρ × σ) :=
  s.rows.filterMap fun r => (t.lookup (key r)).map (r, ·)

lemma mem_join {s : Table key} {t : Table key'} {r : ρ} {r' : σ} :
    (r, r') ∈ s.join t ↔ r ∈ s.rows ∧ r' ∈ t.rows ∧ key' r' = key r := by
  simp only [join, List.mem_filterMap, Option.map_eq_some_iff, Prod.mk.injEq, lookup_eq_some_iff]
  constructor
  · rintro ⟨x, hx, y, hy, rfl, rfl⟩
    exact ⟨hx, hy⟩
  · rintro ⟨hr, hr', hkey⟩
    exact ⟨r, hr, r', ⟨hr', hkey⟩, rfl, rfl⟩

omit [DecidableEq κ] in
lemma nodup_rows (t : Table key) : t.rows.Nodup := t.nodup.of_map

lemma nodup_join (s : Table key) (t : Table key') : (s.join t).Nodup := by
  refine s.nodup_rows.filterMap fun x x' p hx hx' => ?_
  obtain ⟨y, -, rfl⟩ := Option.map_eq_some_iff.mp hx
  obtain ⟨y', -, heq⟩ := Option.map_eq_some_iff.mp hx'
  exact (Prod.mk.inj heq).1.symm

/-- It does not matter which of the tables is gone through. -/
lemma join_perm (s : Table key) (t : Table key') :
    (s.join t).Perm ((t.join s).map Prod.swap) := by
  refine (List.perm_ext_iff_of_nodup (s.nodup_join t) ?_).mpr ?_
  · exact (t.nodup_join s).map fun p q h => by simpa using congrArg Prod.swap h
  · rintro ⟨r, r'⟩
    rw [mem_join, List.mem_map]
    constructor
    · rintro ⟨hr, hr', hkey⟩
      exact ⟨(r', r), mem_join.mpr ⟨hr', hr, hkey.symm⟩, rfl⟩
    · rintro ⟨⟨y, x⟩, hyx, heq⟩
      obtain ⟨rfl, rfl⟩ := Prod.mk.inj heq
      obtain ⟨hy, hx, hkey⟩ := mem_join.mp hyx
      exact ⟨hx, hy, hkey.symm⟩

/-- The rows with a partner, and those without. -/
lemma map_join_append (s : Table key) (t : Table key') (f : ρ → Option σ → γ) :
    ((s.join t).map (fun p => f p.1 (some p.2)) ++
      (s.rows.filter fun r => t.lookup (key r) = none).map (f · none)).Perm
      (s.rows.map fun r => f r (t.lookup (key r))) := by
  unfold join
  induction s.rows with
  | nil => rfl
  | cons r rows ih =>
    cases hr : t.lookup (key r) with
    | none =>
      rw [List.filterMap_cons_none (by rw [hr]; rfl), List.filter_cons_of_pos (by simpa using hr),
        List.map_cons, List.map_cons, hr]
      exact List.perm_middle.trans (ih.cons _)
    | some r' =>
      rw [List.filterMap_cons_some (by rw [hr]; rfl), List.filter_cons_of_neg (by simp [hr]),
        List.map_cons, List.map_cons, hr, List.cons_append]
      exact ih.cons _

end Join

end Table

end FleetMonitor.Library
