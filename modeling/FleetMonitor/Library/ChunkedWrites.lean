import Mathlib.Data.List.Nodup
import Mathlib.Tactic.Linarith

/-!
# Writes in chunks

Items are collected in a buffer, which is written as one chunk when it is full and once more in the
end. A write that fails is raised, and what it had stays in the buffer: items are neither lost nor
counted as written.
-/

namespace FleetMonitor.Library

/-- A write of some items. -/
structure Write (ε β : Type*) where
  items : List β
  outcome : Except ε Unit
  deriving DecidableEq, Repr

/-- The items a write has put into the store. -/
def Write.written {ε β : Type*} (w : Write ε β) : List β :=
  match w.outcome with
  | .ok ()   => w.items
  | .error _ => []

/-- The items that wait, and the writes so far. -/
structure ChunkedWrites (ε β : Type*) where
  buffer : List β := []
  writes : List (Write ε β) := []
  deriving DecidableEq, Repr

namespace ChunkedWrites

variable {ε β : Type*}

/-- The items of the writes that succeeded. -/
def written (w : ChunkedWrites ε β) : List β := w.writes.flatMap Write.written

/-- Let one more item wait. -/
def wait (w : ChunkedWrites ε β) (b : β) : ChunkedWrites ε β :=
  { w with buffer := w.buffer ++ [b] }

@[simp] lemma wait_buffer (w : ChunkedWrites ε β) (b : β) :
    (w.wait b).buffer = w.buffer ++ [b] := rfl

@[simp] lemma wait_writes (w : ChunkedWrites ε β) (b : β) : (w.wait b).writes = w.writes := rfl

@[simp] lemma wait_written (w : ChunkedWrites ε β) (b : β) : (w.wait b).written = w.written := rfl

variable (write : ℕ → Except ε Unit) (size : ℕ)

/-- Write what waits, if anything does; the `n`-th write has the `n`-th outcome. -/
def flush (w : ChunkedWrites ε β) : ChunkedWrites ε β × Except ε Unit :=
  if w.buffer.isEmpty then (w, .ok ())
  else
    match write w.writes.length with
    | .ok ()   => (⟨[], w.writes ++ [⟨w.buffer, .ok ()⟩]⟩, .ok ())
    | .error e => (⟨w.buffer, w.writes ++ [⟨w.buffer, .error e⟩]⟩, .error e)

/-- Let one more item wait, and write when there are enough. -/
def add (w : ChunkedWrites ε β) (b : β) : ChunkedWrites ε β × Except ε Unit :=
  if size ≤ (w.wait b).buffer.length then (w.wait b).flush write else (w.wait b, .ok ())

/-- Add items one by one, up to the first write that fails. -/
def addAll : ChunkedWrites ε β → List β → ChunkedWrites ε β × Except ε Unit
  | w, [] => (w, .ok ())
  | w, b :: bs =>
    match w.add write size b with
    | (w', .ok ())   => addAll w' bs
    | (w', .error e) => (w', .error e)

/-- Add items, and write what is left. -/
def drain (w : ChunkedWrites ε β) (bs : List β) : ChunkedWrites ε β × Except ε Unit :=
  match w.addAll write size bs with
  | (w', .ok ())   => w'.flush write
  | (w', .error e) => (w', .error e)

variable {write size} {w : ChunkedWrites ε β} {b : β} {bs : List β} {e : ε}

lemma addAll_cons_ok (h : (w.add write size b).2 = .ok ()) :
    w.addAll write size (b :: bs) = (w.add write size b).1.addAll write size bs := by
  rw [addAll]
  split
  next w' hadd => rw [hadd]
  next w' e hadd => simp [hadd] at h

lemma addAll_cons_error (h : (w.add write size b).2 = .error e) :
    w.addAll write size (b :: bs) = ((w.add write size b).1, .error e) := by
  rw [addAll]
  split
  next w' hadd => simp [hadd] at h
  next w' e' hadd =>
    rw [hadd] at h ⊢
    rw [Except.error.inj h]

lemma drain_of_ok (h : (w.addAll write size bs).2 = .ok ()) :
    w.drain write size bs = (w.addAll write size bs).1.flush write := by
  rw [drain]
  split
  next w' hadd => rw [hadd]
  next w' e hadd => simp [hadd] at h

lemma drain_of_error (h : (w.addAll write size bs).2 = .error e) :
    w.drain write size bs = ((w.addAll write size bs).1, .error e) := by
  rw [drain]
  split
  next w' hadd => simp [hadd] at h
  next w' e' hadd =>
    rw [hadd] at h ⊢
    rw [Except.error.inj h]

/-- A write is unit-valued: it succeeds or raises. -/
lemma ok_or_error (r : Except ε Unit) : r = .ok () ∨ ∃ e, r = .error e := by
  cases r with
  | ok u => exact .inl rfl
  | error e => exact .inr ⟨e, rfl⟩

/-! ### No item is lost -/

lemma flush_of_nil (h : w.buffer = []) : w.flush write = (w, .ok ()) := by
  simp [flush, h]

lemma flush_of_ok (h : w.buffer ≠ []) (hwrite : write w.writes.length = .ok ()) :
    w.flush write = (⟨[], w.writes ++ [⟨w.buffer, .ok ()⟩]⟩, .ok ()) := by
  simp [flush, h, hwrite]

lemma flush_of_error (h : w.buffer ≠ []) (hwrite : write w.writes.length = .error e) :
    w.flush write = (⟨w.buffer, w.writes ++ [⟨w.buffer, .error e⟩]⟩, .error e) := by
  simp [flush, h, hwrite]

variable (write) in
/-- A flush keeps the items, written or waiting. -/
lemma flush_contents :
    (w.flush write).1.written ++ (w.flush write).1.buffer = w.written ++ w.buffer := by
  by_cases hnil : w.buffer = []
  · rw [flush_of_nil hnil]
  · rcases ok_or_error (write w.writes.length) with hwrite | ⟨e, hwrite⟩
    · simp [flush_of_ok hnil hwrite, written, Write.written]
    · simp [flush_of_error hnil hwrite, written, Write.written]

/-- After a flush that succeeds nothing waits. -/
lemma flush_buffer (h : (w.flush write).2 = .ok ()) : (w.flush write).1.buffer = [] := by
  by_cases hnil : w.buffer = []
  · rw [flush_of_nil hnil]
    exact hnil
  · rcases ok_or_error (write w.writes.length) with hwrite | ⟨e, hwrite⟩
    · rw [flush_of_ok hnil hwrite]
    · rw [flush_of_error hnil hwrite] at h
      cases h

lemma flush_written_of_ok (h : (w.flush write).2 = .ok ()) :
    (w.flush write).1.written = w.written ++ w.buffer := by
  rw [← flush_contents write, flush_buffer h, List.append_nil]

lemma flush_written_of_error (h : (w.flush write).2 = .error e) :
    (w.flush write).1.written = w.written := by
  by_cases hnil : w.buffer = []
  · rw [flush_of_nil hnil]
  · rcases ok_or_error (write w.writes.length) with hwrite | ⟨e', hwrite⟩
    · rw [flush_of_ok hnil hwrite] at h
      cases h
    · simp [flush_of_error hnil hwrite, written, Write.written]

lemma add_contents :
    (w.add write size b).1.written ++ (w.add write size b).1.buffer =
      w.written ++ w.buffer ++ [b] := by
  unfold add
  split_ifs
  · rw [flush_contents]
    simp
  · simp

/-- When no write fails, all items are written or wait. -/
lemma addAll_contents (h : (w.addAll write size bs).2 = .ok ()) :
    (w.addAll write size bs).1.written ++ (w.addAll write size bs).1.buffer =
      w.written ++ w.buffer ++ bs := by
  induction bs generalizing w with
  | nil => simp [addAll]
  | cons b bs ih =>
    rcases ok_or_error (w.add write size b).2 with hadd | ⟨e, hadd⟩
    · rw [addAll_cons_ok hadd] at h ⊢
      rw [ih h, add_contents]
      simp
    · rw [addAll_cons_error hadd] at h
      cases h

/-- When no write fails, all items are written in the end. -/
lemma drain_written (h : (w.drain write size bs).2 = .ok ()) :
    (w.drain write size bs).1.written = w.written ++ w.buffer ++ bs := by
  rcases ok_or_error (w.addAll write size bs).2 with hadd | ⟨e, hadd⟩
  · rw [drain_of_ok hadd] at h ⊢
    rw [flush_written_of_ok h, addAll_contents hadd]
  · rw [drain_of_error hadd] at h
    cases h

/-! ### The first write that fails is the last -/

/-- No write has failed. -/
def Clean (w : ChunkedWrites ε β) : Prop := ∀ x ∈ w.writes, x.outcome = .ok ()

/-- The last write has failed, and no other; its items wait. -/
def FailedLast (w : ChunkedWrites ε β) (e : ε) : Prop :=
  ∃ before, w.writes = before ++ [⟨w.buffer, .error e⟩] ∧
    (∀ x ∈ before, x.outcome = .ok ()) ∧ w.buffer ≠ []

/-- The writes agree with what is raised. -/
def Ends (w : ChunkedWrites ε β) : Except ε Unit → Prop
  | .ok ()   => w.Clean
  | .error e => w.FailedLast e

/-- When no write has failed, the items written are those of the writes. -/
lemma Clean.written_eq (h : w.Clean) : w.written = w.writes.flatMap Write.items := by
  refine List.flatMap_congr fun x hx => ?_
  rw [Write.written, h x hx]

/-- The write that fails is the last one. -/
lemma FailedLast.eq_last (h : w.FailedLast e) {before after : List (Write ε β)} {x : Write ε β}
    {e' : ε} (heq : w.writes = before ++ x :: after) (hx : x.outcome = .error e') :
    after = [] ∧ e' = e := by
  obtain ⟨init, hwrites, hinit, -⟩ := h
  rw [hwrites] at heq
  rcases List.eq_nil_or_concat after with rfl | ⟨after, y, rfl⟩
  · obtain ⟨-, hlast⟩ := List.append_inj' heq rfl
    obtain rfl := (List.cons.inj hlast).1
    exact ⟨rfl, (Except.error.inj hx).symm⟩
  · have hinner : init ++ [⟨w.buffer, .error e⟩] = (before ++ x :: after) ++ [y] := by
      simpa using heq
    obtain ⟨rfl, -⟩ := List.append_inj' hinner rfl
    have hok := hinit x (by simp)
    rw [hx] at hok
    cases hok

lemma flush_ends (h : w.Clean) : (w.flush write).1.Ends (w.flush write).2 := by
  by_cases hnil : w.buffer = []
  · rw [flush_of_nil hnil]
    exact h
  · rcases ok_or_error (write w.writes.length) with hwrite | ⟨e, hwrite⟩
    · rw [flush_of_ok hnil hwrite]
      intro x hx
      rcases List.mem_append.mp hx with hx | hx
      · exact h x hx
      · obtain rfl := List.mem_singleton.mp hx
        rfl
    · rw [flush_of_error hnil hwrite]
      exact ⟨w.writes, rfl, h, hnil⟩

lemma add_ends (h : w.Clean) : (w.add write size b).1.Ends (w.add write size b).2 := by
  unfold add
  split_ifs
  · exact flush_ends h
  · exact h

lemma addAll_ends (h : w.Clean) :
    (w.addAll write size bs).1.Ends (w.addAll write size bs).2 := by
  induction bs generalizing w with
  | nil => exact h
  | cons b bs ih =>
    have hends : (w.add write size b).1.Ends (w.add write size b).2 := add_ends h
    rcases ok_or_error (w.add write size b).2 with hadd | ⟨e, hadd⟩
    · rw [hadd] at hends
      rw [addAll_cons_ok hadd]
      exact ih hends
    · rw [hadd] at hends
      rw [addAll_cons_error hadd]
      exact hends

lemma drain_ends (h : w.Clean) : (w.drain write size bs).1.Ends (w.drain write size bs).2 := by
  have hends : (w.addAll write size bs).1.Ends (w.addAll write size bs).2 := addAll_ends h
  rcases ok_or_error (w.addAll write size bs).2 with hadd | ⟨e, hadd⟩
  · rw [hadd] at hends
    rw [drain_of_ok hadd]
    exact flush_ends hends
  · rw [hadd] at hends
    rw [drain_of_error hadd]
    exact hends

/-! ### Which writes are made -/

/-- Adding items makes one write for every full chunk. -/
lemma addAll_ok_iff (hsize : w.buffer.length < size) :
    (w.addAll write size bs).2 = .ok () ↔
      ∀ n, w.writes.length ≤ n → n < w.writes.length + (w.buffer.length + bs.length) / size →
        write n = .ok () := by
  induction bs generalizing w with
  | nil =>
    refine iff_of_true rfl fun n hle hlt => ?_
    rw [List.length_nil, Nat.add_zero, Nat.div_eq_of_lt hsize] at hlt
    omega
  | cons b bs ih =>
    by_cases hfull : size ≤ (w.wait b).buffer.length
    · have hadd : w.add write size b = (w.wait b).flush write := if_pos hfull
      have hne : (w.wait b).buffer ≠ [] := by simp
      have hcount : (w.buffer.length + (b :: bs).length) / size = bs.length / size + 1 := by
        rw [wait_buffer, List.length_append, List.length_singleton] at hfull
        rw [List.length_cons, show w.buffer.length + (bs.length + 1) = bs.length + size by omega,
          Nat.add_div_right _ (by omega)]
      rw [hcount]
      rcases ok_or_error (write w.writes.length) with hwrite | ⟨e, hwrite⟩
      · rw [flush_of_ok hne hwrite] at hadd
        rw [addAll_cons_ok (by rw [hadd]), hadd, ih (by simpa using by omega)]
        simp only [List.length_append, List.length_singleton, List.length_nil, Nat.zero_add,
          wait_writes]
        constructor
        · intro h n hle hlt
          rcases hle.eq_or_lt with rfl | hle
          · exact hwrite
          · exact h n hle (by omega)
        · intro h n hle hlt
          exact h n (by omega) (by omega)
      · rw [flush_of_error hne hwrite] at hadd
        rw [addAll_cons_error (by rw [hadd])]
        refine iff_of_false (fun h => nomatch h) fun h => ?_
        have hok := h w.writes.length le_rfl (Nat.lt_add_of_pos_right (Nat.succ_pos _))
        rw [hwrite] at hok
        cases hok
    · have hadd : w.add write size b = (w.wait b, .ok ()) := if_neg hfull
      rw [addAll_cons_ok (by rw [hadd]), hadd, ih (not_le.mp hfull)]
      have hcount : (w.wait b).buffer.length + bs.length = w.buffer.length + (b :: bs).length := by
        rw [wait_buffer, List.length_append, List.length_singleton, List.length_cons]
        omega
      rw [hcount, wait_writes]

/-! ### Writes only come to the ones before -/

lemma flush_prefix : w.writes <+: (w.flush write).1.writes := by
  by_cases hnil : w.buffer = []
  · simp [flush_of_nil hnil]
  · rcases ok_or_error (write w.writes.length) with hwrite | ⟨e, hwrite⟩
    · rw [flush_of_ok hnil hwrite]
      exact List.prefix_append _ _
    · rw [flush_of_error hnil hwrite]
      exact List.prefix_append _ _

lemma add_prefix : w.writes <+: (w.add write size b).1.writes := by
  unfold add
  split_ifs
  · rw [← wait_writes w b]
    exact flush_prefix
  · exact List.prefix_rfl

lemma addAll_prefix : w.writes <+: (w.addAll write size bs).1.writes := by
  induction bs generalizing w with
  | nil => exact List.prefix_rfl
  | cons b bs ih =>
    rcases ok_or_error (w.add write size b).2 with hadd | ⟨e, hadd⟩
    · rw [addAll_cons_ok hadd]
      exact add_prefix.trans ih
    · rw [addAll_cons_error hadd]
      exact add_prefix

lemma drain_prefix : w.writes <+: (w.drain write size bs).1.writes := by
  rcases ok_or_error (w.addAll write size bs).2 with hadd | ⟨e, hadd⟩
  · rw [drain_of_ok hadd]
    exact addAll_prefix.trans flush_prefix
  · rw [drain_of_error hadd]
    exact addAll_prefix

lemma drain_cons_ok (h : (w.add write size b).2 = .ok ()) :
    w.drain write size (b :: bs) = (w.add write size b).1.drain write size bs := by
  rw [drain, addAll_cons_ok h, drain]

lemma drain_cons_error (h : (w.add write size b).2 = .error e) :
    w.drain write size (b :: bs) = ((w.add write size b).1, .error e) := by
  rw [drain, addAll_cons_error h]

variable (write) in
/-- A flush of items is a write. -/
lemma flush_writes (h : w.buffer ≠ []) : ∃ x, (w.flush write).1.writes = w.writes ++ [x] := by
  rcases ok_or_error (write w.writes.length) with hwrite | ⟨e, hwrite⟩
  · exact ⟨_, by rw [flush_of_ok h hwrite]⟩
  · exact ⟨_, by rw [flush_of_error h hwrite]⟩

/-- What waits is written by the end, or a write fails. -/
lemma drain_writes (h : w.buffer ≠ []) :
    ∃ x more, (w.drain write size bs).1.writes = w.writes ++ x :: more := by
  induction bs generalizing w with
  | nil =>
    rw [drain_of_ok rfl, addAll]
    obtain ⟨x, hx⟩ := flush_writes write h
    exact ⟨x, [], hx⟩
  | cons b bs ih =>
    by_cases hfull : size ≤ (w.wait b).buffer.length
    · have hadd : w.add write size b = (w.wait b).flush write := if_pos hfull
      obtain ⟨x, hx⟩ := flush_writes write (w := w.wait b) (by simp)
      have hunder : (w.add write size b).1.writes <+: (w.drain write size (b :: bs)).1.writes := by
        rcases ok_or_error (w.add write size b).2 with hok | ⟨e, herror⟩
        · rw [drain_cons_ok hok]
          exact drain_prefix
        · simp [drain_cons_error herror]
      obtain ⟨more, hmore⟩ := hunder
      refine ⟨x, more, ?_⟩
      rw [← hmore, hadd, hx]
      simp
    · have hadd : w.add write size b = (w.wait b, .ok ()) := if_neg hfull
      rw [drain_cons_ok (by rw [hadd]), hadd]
      exact ih (by simp)

end ChunkedWrites

end FleetMonitor.Library
