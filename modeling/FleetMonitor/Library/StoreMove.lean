import FleetMonitor.Library.Table
import Mathlib.Data.List.Induction

/-!
# Moving rows between two stores

A mover copies rows of a keyed source into a second store, reads the copies back and deletes the
rows from the source. The two stores share no transaction, so what counts is the order of the calls.
`Verified` says of a trace of calls that only rows of the source are copied, that only what was
written is read back, and that only keys that were read back are deleted. Then no row is lost, at
any moment (`Verified.lossless`).
-/

namespace FleetMonitor.Library.StoreMove

variable {κ ρ σ : Type*} {key : ρ → κ}

/-- One call of a mover. A delete may fail and be applied or not all the same. -/
inductive Event (κ σ : Type*) where
  | write (copies : List σ)
  | readBack (ks : List κ)
  | delete (ks : List κ) (applied : Bool)
  deriving DecidableEq

/-- The copies a trace has written. -/
def written (trace : List (Event κ σ)) : List σ :=
  trace.flatMap fun
    | .write copies => copies
    | _             => []

variable {trace done : List (Event κ σ)} {e : Event κ σ}

@[simp] lemma written_nil : written ([] : List (Event κ σ)) = [] := rfl

@[simp] lemma written_append (as bs : List (Event κ σ)) :
    written (as ++ bs) = written as ++ written bs := by
  simp [written]

@[simp] lemma written_write (copies : List σ) :
    written [(.write copies : Event κ σ)] = copies := by
  simp [written]

@[simp] lemma written_readBack (ks : List κ) : written [(.readBack ks : Event κ σ)] = [] := rfl

@[simp] lemma written_delete (ks : List κ) (applied : Bool) :
    written [(.delete ks applied : Event κ σ)] = [] := rfl

lemma written_eq_nil (h : ∀ e ∈ trace, ∃ ks applied, e = .delete ks applied) :
    written trace = [] := by
  refine List.flatMap_eq_nil_iff.mpr fun e he => ?_
  obtain ⟨ks, applied, rfl⟩ := h e he
  rfl

lemma exists_write_of_mem_written {c : σ} (h : c ∈ written trace) :
    ∃ copies, .write copies ∈ trace ∧ c ∈ copies := by
  obtain ⟨e, he, hc⟩ := List.mem_flatMap.mp h
  cases e with
  | write copies => exact ⟨copies, he, hc⟩
  | readBack ks => simp at hc
  | delete ks applied => simp at hc

/-! ### Verified traces -/

variable (source : Table key) (copyKey : σ → κ) (IsCopy : ρ → σ → Prop)

/-- The call is in order after the calls in `done`. -/
def EventOk (done : List (Event κ σ)) : Event κ σ → Prop
  | .write copies => ∀ c ∈ copies, ∃ r ∈ source.rows, IsCopy r c
  | .readBack ks  => ∀ k ∈ ks, ∃ c ∈ written done, copyKey c = k
  | .delete ks _  => ∀ k ∈ ks, ∃ read, .readBack read ∈ done ∧ k ∈ read

/-- Every call of the trace is in order. -/
def Verified (trace : List (Event κ σ)) : Prop :=
  ∀ done e rest, trace = done ++ e :: rest → EventOk source copyKey IsCopy done e

variable {source copyKey IsCopy}

lemma verified_nil : Verified source copyKey IsCopy [] := by
  intro done e rest h
  simp at h

lemma Verified.concat (h : Verified source copyKey IsCopy trace)
    (he : EventOk source copyKey IsCopy trace e) :
    Verified source copyKey IsCopy (trace ++ [e]) := by
  intro done e' rest heq
  rcases List.eq_nil_or_concat rest with rfl | ⟨rest, last, rfl⟩
  · obtain ⟨hdone, hlast⟩ := List.append_inj' heq rfl
    obtain rfl := hdone
    obtain rfl := List.singleton_inj.mp hlast
    exact he
  · rw [List.concat_eq_append, ← List.cons_append, ← List.append_assoc] at heq
    exact h done e' rest (List.append_inj' heq rfl).1

lemma EventOk.mono {more : List (Event κ σ)} (h : EventOk source copyKey IsCopy done e) :
    EventOk source copyKey IsCopy (done ++ more) e := by
  cases e with
  | write copies => exact h
  | readBack ks =>
    intro k hk
    obtain ⟨c, hc, hck⟩ := h k hk
    exact ⟨c, by rw [written_append]; exact List.mem_append_left _ hc, hck⟩
  | delete ks applied =>
    intro k hk
    obtain ⟨read, hread, hkread⟩ := h k hk
    exact ⟨read, List.mem_append_left _ hread, hkread⟩

/-- Calls that are each in order now are in order one after the other. -/
lemma Verified.append {evs : List (Event κ σ)} (h : Verified source copyKey IsCopy trace)
    (hevs : ∀ e ∈ evs, EventOk source copyKey IsCopy trace e) :
    Verified source copyKey IsCopy (trace ++ evs) := by
  induction evs using List.reverseRecOn with
  | nil => simpa using h
  | append_singleton evs e ih =>
    rw [← List.append_assoc]
    exact (ih fun e he => hevs e (List.mem_append_left _ he)).concat (hevs e (by simp)).mono

lemma Verified.eventOk_of_mem (h : Verified source copyKey IsCopy trace) (he : e ∈ trace) :
    ∃ done rest, trace = done ++ e :: rest ∧ EventOk source copyKey IsCopy done e := by
  obtain ⟨done, rest, rfl⟩ := List.append_of_mem he
  exact ⟨done, rest, rfl, h done e rest rfl⟩

lemma Verified.of_prefix (h : Verified source copyKey IsCopy trace) (hdone : done <+: trace) :
    Verified source copyKey IsCopy done := by
  obtain ⟨rest, rfl⟩ := hdone
  intro a e b heq
  exact h a e (b ++ rest) (by rw [heq, List.append_assoc, List.cons_append])

/-- What is written is a copy of a row of the source. -/
lemma Verified.isCopy (h : Verified source copyKey IsCopy trace) {c : σ} (hc : c ∈ written trace) :
    ∃ r ∈ source.rows, IsCopy r c := by
  obtain ⟨copies, hwrite, hcc⟩ := exists_write_of_mem_written hc
  obtain ⟨_, _, -, hok⟩ := h.eventOk_of_mem hwrite
  exact hok c hcc

/-- What is deleted was copied from a row of its key and read back before. -/
lemma Verified.exists_copy (h : Verified source copyKey IsCopy trace) {ks : List κ} {applied : Bool}
    (hdel : .delete ks applied ∈ trace) {k : κ} (hk : k ∈ ks) :
    ∃ c ∈ written trace, copyKey c = k ∧ ∃ r ∈ source.rows, IsCopy r c := by
  obtain ⟨done, rest, rfl, hok⟩ := h.eventOk_of_mem hdel
  obtain ⟨read, hread, hkread⟩ := hok k hk
  have hdone : Verified source copyKey IsCopy done := h.of_prefix (List.prefix_append _ _)
  obtain ⟨before, after, rfl, hokread⟩ := hdone.eventOk_of_mem hread
  obtain ⟨c, hc, hck⟩ := hokread k hkread
  have hcw : c ∈ written (before ++ .readBack read :: after ++ .delete ks applied :: rest) := by
    rw [written_append, written_append]
    exact List.mem_append_left _ (List.mem_append_left _ hc)
  exact ⟨c, hcw, hck, h.isCopy hcw⟩

/-! ### The two stores -/

variable [DecidableEq κ]

/-- The source and the second store. -/
structure Stores (key : ρ → κ) (σ : Type*) where
  source : Table key
  copies : List σ

def Stores.apply (s : Stores key σ) : Event κ σ → Stores key σ
  | .write copies      => { s with copies := s.copies ++ copies }
  | .readBack _        => s
  | .delete ks applied => if applied then { s with source := s.source.delete ks } else s

/-- The stores after a trace. -/
def Stores.after (s : Stores key σ) (trace : List (Event κ σ)) : Stores key σ :=
  trace.foldl Stores.apply s

variable {s : Stores key σ}

@[simp] lemma after_nil : s.after [] = s := rfl

@[simp] lemma after_cons : s.after (e :: trace) = (s.apply e).after trace := rfl

lemma copies_after (s : Stores key σ) (trace : List (Event κ σ)) :
    (s.after trace).copies = s.copies ++ written trace := by
  induction trace generalizing s with
  | nil => simp
  | cons e trace ih =>
    rw [after_cons, ih, ← List.singleton_append, written_append, ← List.append_assoc]
    congr 1
    cases e with
    | write copies => simp [Stores.apply]
    | readBack ks => simp [Stores.apply]
    | delete ks applied => cases applied <;> simp [Stores.apply]

/-- A row stays in the source until its key is deleted. -/
lemma mem_source_after {r : ρ} : r ∈ (s.after trace).source.rows ↔
    r ∈ s.source.rows ∧ ∀ ks, .delete ks true ∈ trace → key r ∉ ks := by
  induction trace generalizing s with
  | nil => simp
  | cons e trace ih =>
    rw [after_cons, ih]
    cases e with
    | write copies => simp [Stores.apply]
    | readBack ks => simp [Stores.apply]
    | delete ks applied =>
      cases applied with
      | false => simp [Stores.apply]
      | true =>
        simp only [Stores.apply, if_true, Table.delete, List.mem_filter, decide_eq_true_eq,
          List.mem_cons, Event.delete.injEq, and_true]
        constructor
        · rintro ⟨⟨hr, hks⟩, hrest⟩
          refine ⟨hr, ?_⟩
          rintro ks' (rfl | hmem)
          · exact hks
          · exact hrest ks' hmem
        · rintro ⟨hr, hall⟩
          exact ⟨⟨hr, hall ks (.inl rfl)⟩, fun ks' hmem => hall ks' (.inr hmem)⟩

/-- At every moment of a verified trace each row of the source is still there or has its copy. -/
theorem Verified.lossless (h : Verified s.source copyKey IsCopy trace)
    (hkey : ∀ r c, IsCopy r c → copyKey c = key r) (hdone : done <+: trace) {r : ρ}
    (hr : r ∈ s.source.rows) :
    r ∈ (s.after done).source.rows ∨ ∃ c ∈ (s.after done).copies, IsCopy r c := by
  by_cases hkept : ∀ ks, .delete ks true ∈ done → key r ∉ ks
  · exact .inl (mem_source_after.mpr ⟨hr, hkept⟩)
  · right
    push Not at hkept
    obtain ⟨ks, hdel, hk⟩ := hkept
    obtain ⟨c, hc, hck, r', hr', hcopy⟩ := (h.of_prefix hdone).exists_copy hdel hk
    obtain rfl : r' = r :=
      Table.row_eq_of_key_eq hr' hr ((hkey r' c hcopy).symm.trans hck)
    rw [copies_after]
    exact ⟨c, List.mem_append_right _ hc, hcopy⟩

end FleetMonitor.Library.StoreMove
