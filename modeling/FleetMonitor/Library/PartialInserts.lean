import Mathlib.Data.List.Basic
import Mathlib.Data.List.Induction

/-!
# Inserts with partial success

An insert that allows partial success answers, in the order of its rows, whether each was saved. A
caller goes through the answer by index and reads the row at the index of each success; the loop
fails where it reads an index that is not there. Over the answer to its own insert such a loop
visits the saved rows, each once and in order.
-/

namespace FleetMonitor.Library

variable {ρ σ τ : Type*} {saved : ℕ → Bool} {rows : List ρ}

/-- The answer to an insert of `n` rows. -/
def saveResults (saved : ℕ → Bool) (n : ℕ) : List Bool := (List.range n).map saved

/-- The rows of an insert that are saved. -/
def savedRows (saved : ℕ → Bool) (rows : List ρ) : List ρ :=
  (rows.zipIdx.filter fun row => saved row.2).map Prod.fst

lemma savedRows_sublist : (savedRows saved rows).Sublist rows := by
  have hsub := (List.filter_sublist (p := fun row => saved row.2) (l := rows.zipIdx)).map Prod.fst
  rwa [List.zipIdx_map_fst] at hsub

lemma savedRows_map (f : ρ → τ) : savedRows saved (rows.map f) = (savedRows saved rows).map f := by
  simp only [savedRows, List.zipIdx_map, List.filter_map, List.map_map]
  rfl

/-- The rows to the last index, and those before it. -/
lemma savedRows_concat (row : ρ) : savedRows saved (rows ++ [row]) =
    if saved rows.length then savedRows saved rows ++ [row] else savedRows saved rows := by
  rw [savedRows, List.zipIdx_append, List.filter_append, List.map_append]
  cases hsaved : saved rows.length with
  | true => simp [savedRows, hsaved]
  | false => simp [savedRows, hsaved]

/-- One turn of a loop over the answer. -/
def visitSaved (f : σ → ρ → Option σ) (results : List Bool) (rows : List ρ) (s : σ) (i : ℕ) :
    Option σ :=
  results[i]?.bind fun success => if success then rows[i]?.bind (f s) else some s

/-- A turn reads nothing behind its own index. -/
lemma visitSaved_concat {f : σ → ρ → Option σ} {row : ρ} {s : σ} {i : ℕ} (h : i < rows.length) :
    visitSaved f (saveResults saved (rows ++ [row]).length) (rows ++ [row]) s i =
      visitSaved f (saveResults saved rows.length) rows s i := by
  have hlong : i < (rows ++ [row]).length := by simpa using Nat.lt_succ_of_lt h
  simp only [visitSaved, saveResults, List.getElem?_map, List.getElem?_range h,
    List.getElem?_range hlong, List.getElem?_append_left h]

lemma visitSaved_last {f : σ → ρ → Option σ} {row : ρ} {s : σ} :
    visitSaved f (saveResults saved (rows ++ [row]).length) (rows ++ [row]) s rows.length =
      if saved rows.length then f s row else some s := by
  have hlast : rows.length < (rows ++ [row]).length := by simp
  simp only [visitSaved, saveResults, List.getElem?_map, List.getElem?_range hlast,
    List.getElem?_concat_length, Option.map_some, Option.bind_some]

/-- The loop over the answer to an insert visits the rows that were saved. -/
theorem foldlM_visitSaved (f : σ → ρ → Option σ) (s : σ) :
    (List.range (saveResults saved rows.length).length).foldlM
        (visitSaved f (saveResults saved rows.length) rows) s =
      (savedRows saved rows).foldlM f s := by
  have hlength : ∀ n, (saveResults saved n).length = n := by simp [saveResults]
  rw [hlength]
  induction rows using List.reverseRecOn with
  | nil => rfl
  | append_singleton rows row ih =>
    let turn := visitSaved f (saveResults saved (rows ++ [row]).length) (rows ++ [row])
    have hbefore : (List.range rows.length).foldlM turn s = (savedRows saved rows).foldlM f s := by
      rw [← ih, List.foldlM_eq_foldl, List.foldlM_eq_foldl]
      apply List.foldl_ext
      intro s? i hi
      refine congrArg (s? >>= ·) (funext fun s => ?_)
      exact visitSaved_concat (List.mem_range.mp hi)
    have hlast : ∀ s, turn s rows.length = if saved rows.length then f s row else some s :=
      fun s => visitSaved_last
    show (List.range (rows ++ [row]).length).foldlM turn s = _
    rw [List.length_append, List.length_singleton, List.range_succ, List.foldlM_append, hbefore,
      savedRows_concat]
    simp only [List.foldlM_cons, List.foldlM_nil, hlast, bind_pure]
    split_ifs with hsaved
    · simp
    · exact bind_pure _

end FleetMonitor.Library
