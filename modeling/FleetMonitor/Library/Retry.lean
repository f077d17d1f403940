import Mathlib.Tactic.Linarith

/-!
# Retries

An attempt is made again while it fails with an error that is worth it, up to a number of attempts.
What comes out in the end is the last attempt.
-/

namespace FleetMonitor.Library

variable {ε α : Type*} (again : ε → Bool) (attempt : ℕ → Except ε α)

/-- The attempts from the `n`-th on, with that many left after it. -/
def retryFrom : ℕ → ℕ → Except ε α
  | 0, n        => attempt n
  | left + 1, n =>
    match attempt n with
    | .ok a    => .ok a
    | .error e => if again e then retryFrom left (n + 1) else .error e

/-- At most that many attempts. -/
def retry (attempts : ℕ) : Except ε α := retryFrom again attempt (attempts - 1) 0

/-- The attempts made from the `n`-th on, with that many left after it. -/
def attemptsFrom : ℕ → ℕ → List ℕ
  | 0, n        => [n]
  | left + 1, n =>
    match attempt n with
    | .ok _    => [n]
    | .error e => if again e then n :: attemptsFrom left (n + 1) else [n]

/-- The attempts made, of at most that many. -/
def attemptsMade (attempts : ℕ) : List ℕ := attemptsFrom again attempt (attempts - 1) 0

/-- The attempts before the `n`-th all failed with an error worth another. -/
def FailedBefore (n : ℕ) : Prop := ∀ m < n, ∃ e, attempt m = .error e ∧ again e = true

variable {again attempt} {left n : ℕ} {e : ε}

lemma failedBefore_succ_iff :
    FailedBefore again attempt (n + 1) ↔
      FailedBefore again attempt n ∧ ∃ e, attempt n = .error e ∧ again e = true := by
  constructor
  · intro h
    exact ⟨fun m hm => h m (hm.trans (Nat.lt_succ_self n)), h n (Nat.lt_succ_self n)⟩
  · rintro ⟨hbefore, hn⟩ m hm
    rcases Nat.lt_succ_iff_lt_or_eq.mp hm with hm | rfl
    · exact hbefore m hm
    · exact hn

/-- No attempt comes after one that succeeds or that fails with an error not worth another. -/
lemma FailedBefore.eq_of_stop {m : ℕ} (h : FailedBefore again attempt m) (hle : n ≤ m)
    (hstop : ∀ e, attempt n = .error e → again e = false) : n = m := by
  rcases hle.eq_or_lt with heq | hlt
  · exact heq
  · obtain ⟨e, he, hagain⟩ := h n hlt
    rw [hstop e he] at hagain
    cases hagain

/-- Retrying fails with the error of the attempt it stops at: the last one, or the first that is not
worth another. -/
lemma retryFrom_eq_error_iff (hbefore : FailedBefore again attempt n) :
    retryFrom again attempt left n = .error e ↔
      ∃ m, n ≤ m ∧ m ≤ n + left ∧ FailedBefore again attempt m ∧ attempt m = .error e ∧
        (m = n + left ∨ again e = false) := by
  induction left generalizing n with
  | zero =>
    rw [retryFrom]
    constructor
    · intro h
      exact ⟨n, le_rfl, le_rfl, hbefore, h, .inl rfl⟩
    · rintro ⟨m, hle, hge, -, h, -⟩
      rwa [le_antisymm hge hle] at h
  | succ left ih =>
    rw [retryFrom]
    cases hn : attempt n with
    | ok a =>
      refine iff_of_false (fun h => nomatch h) ?_
      rintro ⟨m, hle, -, hm, h, -⟩
      obtain rfl := hm.eq_of_stop hle (by simp [hn])
      rw [hn] at h
      cases h
    | error e' =>
      show (if again e' = true then retryFrom again attempt left (n + 1) else .error e') = .error e ↔ _
      cases hagain : again e' with
      | true =>
        have hnext : FailedBefore again attempt (n + 1) :=
          failedBefore_succ_iff.mpr ⟨hbefore, e', hn, hagain⟩
        rw [if_pos rfl, ih hnext, Nat.add_right_comm n 1 left, ← Nat.add_assoc]
        constructor
        · rintro ⟨m, hle, hrest⟩
          exact ⟨m, (Nat.le_succ n).trans hle, hrest⟩
        · rintro ⟨m, hle, hge, hm, h, hstop⟩
          refine ⟨m, hle.lt_of_ne ?_, hge, hm, h, hstop⟩
          -- the attempt that is worth another is not the one it stops at
          rintro rfl
          obtain rfl := Except.error.inj (hn.symm.trans h)
          rcases hstop with heq | hfalse
          · omega
          · rw [hagain] at hfalse
            cases hfalse
      | false =>
        rw [if_neg Bool.false_ne_true]
        constructor
        · intro h
          obtain rfl := Except.error.inj h
          exact ⟨n, le_rfl, Nat.le_add_right _ _, hbefore, hn, .inr hagain⟩
        · rintro ⟨m, hle, -, hm, h, -⟩
          obtain rfl := hm.eq_of_stop hle (by simp [hn, hagain])
          rw [← h, hn]

/-- Retrying succeeds with the last attempt made, and the ones before it failed. -/
lemma attemptsFrom_of_ok {a : α} (h : retryFrom again attempt left n = .ok a) :
    ∃ failed m, attemptsFrom again attempt left n = failed ++ [m] ∧
      (∀ i ∈ failed, ∃ e, attempt i = .error e) ∧ attempt m = .ok a := by
  induction left generalizing n with
  | zero => exact ⟨[], n, rfl, by simp, h⟩
  | succ left ih =>
    rw [retryFrom] at h
    rw [attemptsFrom]
    cases hn : attempt n with
    | ok a' =>
      rw [hn] at h
      exact ⟨[], n, rfl, by simp, hn.trans h⟩
    | error e =>
      rw [hn] at h
      simp only at h ⊢
      split_ifs at h ⊢ with hagain
      obtain ⟨failed, m, hmade, hfailed, hm⟩ := ih h
      refine ⟨n :: failed, m, by rw [hmade, List.cons_append], fun i hi => ?_, hm⟩
      rcases List.mem_cons.mp hi with rfl | hi
      · exact ⟨e, hn⟩
      · exact hfailed i hi

/-- When retrying fails, so has every attempt made. -/
lemma attemptsFrom_of_error (h : retryFrom again attempt left n = .error e) :
    ∀ i ∈ attemptsFrom again attempt left n, ∃ e, attempt i = .error e := by
  induction left generalizing n with
  | zero =>
    intro i hi
    obtain rfl := List.mem_singleton.mp hi
    exact ⟨e, h⟩
  | succ left ih =>
    rw [retryFrom] at h
    rw [attemptsFrom]
    cases hn : attempt n with
    | ok a =>
      rw [hn] at h
      cases h
    | error e' =>
      rw [hn] at h
      simp only at h ⊢
      split_ifs at h ⊢ with hagain
      · intro i hi
        rcases List.mem_cons.mp hi with rfl | hi
        · exact ⟨e', hn⟩
        · exact ih h i hi
      · intro i hi
        obtain rfl := List.mem_singleton.mp hi
        exact ⟨e', hn⟩

/-- Attempts that are all alike end like each of them. -/
lemma retry_const (x : Except ε α) (attempts : ℕ) : retry again (fun _ => x) attempts = x := by
  have hfrom : ∀ left n, retryFrom again (fun _ => x) left n = x := by
    intro left
    induction left with
    | zero => exact fun n => rfl
    | succ left ih =>
      intro n
      rw [retryFrom]
      cases x with
      | ok a => rfl
      | error e =>
        show (if again e = true then _ else _) = _
        rw [ih, ite_self]
  exact hfrom _ _

/-- The first attempt has none before it. -/
lemma failedBefore_zero : FailedBefore again attempt 0 := fun m hm => absurd hm (Nat.not_lt_zero m)

/-- Retrying fails with an error worth another attempt when all attempts did. -/
lemma retry_eq_error_of_again {attempts : ℕ} (hagain : again e = true) :
    retry again attempt (attempts + 1) = .error e ↔
      FailedBefore again attempt (attempts + 1) ∧ attempt attempts = .error e := by
  rw [retry, retryFrom_eq_error_iff failedBefore_zero, failedBefore_succ_iff]
  constructor
  · rintro ⟨m, -, -, hm, h, hstop⟩
    obtain rfl : m = attempts := by
      rcases hstop with heq | hfalse
      · omega
      · rw [hagain] at hfalse
        cases hfalse
    exact ⟨⟨hm, e, h, hagain⟩, h⟩
  · rintro ⟨⟨hm, -⟩, h⟩
    exact ⟨attempts, Nat.zero_le _, by omega, hm, h, .inl (by omega)⟩

/-- It fails with any other error at once. -/
lemma retry_eq_error_of_not_again {attempts : ℕ} (hagain : again e = false) :
    retry again attempt (attempts + 1) = .error e ↔
      ∃ n ≤ attempts, FailedBefore again attempt n ∧ attempt n = .error e := by
  rw [retry, retryFrom_eq_error_iff failedBefore_zero]
  constructor
  · rintro ⟨m, -, hle, hm, h, -⟩
    exact ⟨m, by omega, hm, h⟩
  · rintro ⟨m, hle, hm, h⟩
    exact ⟨m, Nat.zero_le _, by omega, hm, h, .inr hagain⟩

end FleetMonitor.Library
