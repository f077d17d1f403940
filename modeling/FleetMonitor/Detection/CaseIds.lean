import FleetMonitor.Archive.ArchiveWrites
import FleetMonitor.Library.Runs

/-!
# Case ids

`app.next_case_id` draws from a sequence that is never reset and keeps six digits of the number.
While fewer than a million are drawn no two draws have one id, whatever the years, so no insert of
the detectors meets a case with its id. Each later draw has the id of an earlier one, if that was in
the same year.
-/

namespace FleetMonitor

open Library

/-! ### The function -/

/-- `LPAD(value::text, 6, '0')`, which cuts a longer text. -/
def lpadSix (value : ℕ) : List Char := (zeroPad 6 value).toList.take 6

/-- `app.next_case_id`, for the value that `nextval` gives in a year. -/
def nextCaseId (year value : ℕ) : String :=
  "CASE-" ++ toString year ++ "-" ++ String.ofList (lpadSix value)

variable {year year' m n : ℕ}

lemma length_lpadSix (n : ℕ) : (lpadSix n).length = 6 := by
  rw [lpadSix, List.length_take, zeroPad, String.toList_ofList, List.length_leftpad]
  omega

/-- Six digits are kept as they are. -/
lemma lpadSix_of_lt (h : n < 10 ^ 6) : lpadSix n = (zeroPad 6 n).toList := by
  have hlength : (zeroPad 6 n).toList.length ≤ 6 := by
    rw [zeroPad, String.toList_ofList, List.length_leftpad]
    exact max_le le_rfl ((Nat.length_toDigits_le_iff (by decide) (by decide)).mpr h)
  exact List.take_of_length_le hlength

lemma lpadSix_inj (hm : m < 10 ^ 6) (hn : n < 10 ^ 6) (h : lpadSix m = lpadSix n) : m = n := by
  rw [lpadSix_of_lt hm, lpadSix_of_lt hn] at h
  exact zeroPad_injective 6 (String.toList_injective h)

/-- From a million on the last digit is lost. -/
lemma lpadSix_div (h : 10 ^ 6 ≤ n) : lpadSix n = lpadSix (n / 10) := by
  have hlong : ∀ {k : ℕ}, 10 ^ 5 ≤ k → 6 ≤ (Nat.toDigits 10 k).length := by
    intro k hk
    by_contra hshort
    have hle : (Nat.toDigits 10 k).length ≤ 5 := by omega
    exact absurd ((Nat.length_toDigits_le_iff (by decide) (by decide)).mp hle) (by omega)
  have htext : ∀ {k : ℕ}, 10 ^ 5 ≤ k → (zeroPad 6 k).toList = Nat.toDigits 10 k := by
    intro k hk
    rw [toList_zeroPad, Nat.sub_eq_zero_of_le (hlong hk)]
    simp
  have hdiv : 10 ^ 5 ≤ n / 10 := by omega
  rw [lpadSix, lpadSix, htext (by omega), htext hdiv, Nat.toDigits_of_base_le (by decide) (by omega),
    List.take_append_of_le_length (hlong hdiv)]

/-- The six digits of a number from a million on are those of a number with six digits. -/
lemma exists_lpadSix_eq (h : 10 ^ 6 ≤ n) :
    ∃ k, 10 ^ 5 ≤ k ∧ k < 10 ^ 6 ∧ lpadSix n = lpadSix k := by
  induction n using Nat.strong_induction_on with
  | _ n ih =>
    by_cases hdiv : n / 10 < 10 ^ 6
    · exact ⟨n / 10, by omega, hdiv, lpadSix_div h⟩
    · obtain ⟨k, hlow, hhigh, hk⟩ := ih (n / 10) (by omega) (by omega)
      exact ⟨k, hlow, hhigh, (lpadSix_div h).trans hk⟩

/-- An id has its year and its six digits. -/
lemma nextCaseId_eq_iff :
    nextCaseId year m = nextCaseId year' n ↔ year = year' ∧ lpadSix m = lpadSix n := by
  have htext : ∀ year n, (nextCaseId year n).toList =
      "CASE-".toList ++ (Nat.toDigits 10 year ++ '-' :: lpadSix n) := by
    intro year n
    simp only [nextCaseId, String.toList_append, String.toList_ofList,
      Nat.toString_eq_ofList_toDigits,
      List.append_assoc]
    rfl
  constructor
  · intro h
    have hlist := congrArg String.toList h
    rw [htext, htext, List.append_cancel_left_eq] at hlist
    obtain ⟨hyear, hdigits⟩ := List.append_inj' hlist (by simp [length_lpadSix])
    exact ⟨toDigits_injective hyear, (List.cons.inj hdigits).2⟩
  · rintro ⟨rfl, hdigits⟩
    rw [nextCaseId, nextCaseId, hdigits]

/-- Every draw from the millionth on has the id of a draw with a number of six digits, if the two
are in one year. -/
theorem nextCaseId_repeats (h : 10 ^ 6 ≤ m) : ∃ n, 10 ^ 5 ≤ n ∧ n < 10 ^ 6 ∧
    ∀ year year', nextCaseId year m = nextCaseId year' n ↔ year = year' := by
  obtain ⟨n, hlow, hhigh, hn⟩ := exists_lpadSix_eq h
  refine ⟨n, hlow, hhigh, fun year year' => ?_⟩
  rw [nextCaseId_eq_iff]
  exact and_iff_left hn

/-- The millionth draw. -/
theorem nextCaseId_million : ∃ n, 10 ^ 5 ≤ n ∧ n < 10 ^ 6 ∧
    ∀ year year', nextCaseId year 1000000 = nextCaseId year' n ↔ year = year' :=
  nextCaseId_repeats (by decide)

/-! ### Drawing and inserting -/

namespace CaseIds

/-- The last value of the sequence, the ids that runs of the detector have drawn and not inserted
yet, the ids in `app.cases`, and how often an insert was refused for its id. -/
structure State where
  drawn : ℕ
  held : ℕ → Option String
  caseIds : List String
  refused : ℕ

/-- `draw`: a run draws an id with its first connection; `insert`: it inserts the case with another
one; `stop`: it raises or dies in between, and the value is lost. -/
inductive Action where
  | draw (run year : ℕ)
  | insert (run : ℕ)
  | stop (run : ℕ)
  deriving DecidableEq, Repr

def State.hold (s : State) (run : ℕ) (id : Option String) : State :=
  { s with held := Function.update s.held run id }

def step (s : State) : Action → Option State
  | .draw run year =>
    match s.held run with
    | none   => some { s.hold run (some (nextCaseId year (s.drawn + 1))) with drawn := s.drawn + 1 }
    | some _ => none
  | .insert run =>
    (s.held run).map fun id =>
      if id ∈ s.caseIds then { s.hold run none with refused := s.refused + 1 }
      else { s.hold run none with caseIds := s.caseIds ++ [id] }
  | .stop run => (s.held run).map fun _ => s.hold run none

/-- The database as it is migrated. -/
structure Fresh (s : State) : Prop where
  drawn : s.drawn = 0
  held : ∀ run, s.held run = none
  caseIds : s.caseIds = []
  refused : s.refused = 0

/-- The id is that of one of the draws so far. -/
def Drawn (drawn : ℕ) (id : String) : Prop := ∃ year n, n ≤ drawn ∧ id = nextCaseId year n

lemma Drawn.mono {drawn drawn' : ℕ} {id : String} (hle : drawn ≤ drawn') (h : Drawn drawn id) :
    Drawn drawn' id := by
  obtain ⟨year, n, hn, hid⟩ := h
  exact ⟨year, n, hn.trans hle, hid⟩

/-- The next draw has a new id while there are six digits. -/
lemma not_drawn_next {drawn : ℕ} (h : drawn + 1 < 10 ^ 6) (year : ℕ) :
    ¬Drawn drawn (nextCaseId year (drawn + 1)) := by
  rintro ⟨year', n, hn, hid⟩
  have heq := lpadSix_inj h (by omega) (nextCaseId_eq_iff.mp hid).2
  omega

/-- Every id is held or inserted once. -/
structure Inv (s : State) : Prop where
  held : ∀ run id, s.held run = some id → Drawn s.drawn id ∧ id ∉ s.caseIds
  apart : ∀ run run' id, s.held run = some id → s.held run' = some id → run = run'
  caseIds : ∀ id ∈ s.caseIds, Drawn s.drawn id
  refused : s.refused = 0

variable {s s' : State} {a : Action} {run run' : ℕ} {id : String}

lemma held_hold {value : Option String} (h : (s.hold run value).held run' = some id) :
    run' = run ∧ value = some id ∨ run' ≠ run ∧ s.held run' = some id := by
  rcases eq_or_ne run' run with rfl | hne
  · exact .inl ⟨rfl, by simpa [State.hold] using h⟩
  · exact .inr ⟨hne, by simpa [State.hold, hne] using h⟩

/-- A run lets go of its id. -/
lemma Inv.drop (h : Inv s) (run : ℕ) : Inv (s.hold run none) where
  held run' id hid := by
    rcases held_hold hid with ⟨-, hnone⟩ | ⟨-, hid⟩
    · cases hnone
    · exact h.held run' id hid
  apart run₁ run₂ id h₁ h₂ := by
    rcases held_hold h₁ with ⟨-, hnone⟩ | ⟨-, h₁⟩
    · cases hnone
    · rcases held_hold h₂ with ⟨-, hnone⟩ | ⟨-, h₂⟩
      · cases hnone
      · exact h.apart run₁ run₂ id h₁ h₂
  caseIds := h.caseIds
  refused := h.refused

lemma Inv.draw (h : Inv s) (hdrawn : s.drawn + 1 < 10 ^ 6) (run year : ℕ) :
    Inv { s.hold run (some (nextCaseId year (s.drawn + 1))) with drawn := s.drawn + 1 } where
  held run' id hid := by
    rcases held_hold (s := s) hid with ⟨-, hnew⟩ | ⟨-, hid⟩
    · obtain rfl := Option.some.inj hnew
      exact ⟨⟨year, s.drawn + 1, le_rfl, rfl⟩,
        fun hmem => not_drawn_next hdrawn year (h.caseIds _ hmem)⟩
    · exact ⟨(h.held run' id hid).1.mono (Nat.le_succ _), (h.held run' id hid).2⟩
  apart run₁ run₂ id h₁ h₂ := by
    rcases held_hold (s := s) h₁ with ⟨rfl, hnew⟩ | ⟨-, hold₁⟩ <;>
      rcases held_hold (s := s) h₂ with ⟨rfl, hnew'⟩ | ⟨-, hold₂⟩
    · rfl
    · obtain rfl := Option.some.inj hnew
      exact absurd (h.held run₂ _ hold₂).1 (not_drawn_next hdrawn year)
    · obtain rfl := Option.some.inj hnew'
      exact absurd (h.held run₁ _ hold₁).1 (not_drawn_next hdrawn year)
    · exact h.apart run₁ run₂ id hold₁ hold₂
  caseIds id hid := (h.caseIds id hid).mono (Nat.le_succ _)
  refused := h.refused

lemma Inv.insert (h : Inv s) (hid : s.held run = some id) :
    Inv { s.hold run none with caseIds := s.caseIds ++ [id] } where
  held run' id' hid' := by
    rcases held_hold (s := s) hid' with ⟨-, hnone⟩ | ⟨hne, hold⟩
    · cases hnone
    · obtain ⟨hdrawn, hnot⟩ := h.held run' id' hold
      refine ⟨hdrawn, ?_⟩
      rw [List.mem_append, List.mem_singleton, not_or]
      refine ⟨hnot, ?_⟩
      rintro rfl
      exact hne (h.apart run' run _ hold hid)
  apart run₁ run₂ id := (h.drop run).apart run₁ run₂ id
  caseIds id' hid' := by
    rcases List.mem_append.mp hid' with hmem | hmem
    · exact h.caseIds id' hmem
    · obtain rfl := List.mem_singleton.mp hmem
      exact (h.held run _ hid).1
  refused := h.refused

lemma Fresh.inv (h : Fresh s) : Inv s where
  held run id hid := by simp [h.held] at hid
  apart run run' id hid := by simp [h.held] at hid
  caseIds id hid := by simp [h.caseIds] at hid
  refused := h.refused

/-- A step keeps the invariant while fewer than a million are drawn. -/
lemma Inv.step (h : s.drawn < 10 ^ 6 → Inv s) (hstep : step s a = some s') :
    s'.drawn < 10 ^ 6 → Inv s' := by
  intro hdrawn
  cases a with
  | draw run year =>
    rw [CaseIds.step] at hstep
    split at hstep
    next =>
      obtain rfl := Option.some.inj hstep
      have hnext : s.drawn + 1 < 10 ^ 6 := hdrawn
      exact (h (by omega)).draw hnext run year
    next => cases hstep
  | insert run =>
    obtain ⟨id, hid, rfl⟩ := Option.map_eq_some_iff.mp hstep
    split_ifs at hdrawn ⊢ with hmem
    · exact absurd hmem ((h hdrawn).held run id hid).2
    · exact (h hdrawn).insert hid
  | stop run =>
    obtain ⟨id, hid, rfl⟩ := Option.map_eq_some_iff.mp hstep
    exact (h hdrawn).drop run

/-- In every interleaving of runs that draw, insert and stop, no insert meets a case with its id
while fewer than a million ids are drawn, and no two runs hold one id. -/
theorem no_insert_refused (h : Reached step unguarded Fresh s) (hdrawn : s.drawn < 10 ^ 6) :
    s.refused = 0 ∧ ∀ run id, s.held run = some id → id ∉ s.caseIds ∧
      ∀ run', s.held run' = some id → run' = run := by
  have hinv : s.drawn < 10 ^ 6 → Inv s :=
    h.invariant (I := fun s => s.drawn < 10 ^ 6 → Inv s) (fun _ hs _ => hs.inv)
      fun _ _ _ hs _ hstep => Inv.step hs hstep
  refine ⟨(hinv hdrawn).refused, fun run id hid => ⟨((hinv hdrawn).held run id hid).2, ?_⟩⟩
  exact fun run' hid' => (hinv hdrawn).apart run' run id hid' hid

/-! ### Two runs -/

def migrated : State := ⟨0, fun _ => none, [], 0⟩

/-- The second run inserts first; the first one stops and draws again. -/
def twoRuns : List Action :=
  [.draw 1 2026, .draw 2 2026, .insert 2, .stop 1, .draw 1 2027]

example : (runActions step migrated twoRuns).map (fun s => (s.caseIds, s.held 1)) =
    some (["CASE-2026-000002"], some "CASE-2027-000003") := by
  decide +kernel

theorem twoRuns_not_refused :
    ∃ s, Reached step unguarded Fresh s ∧ s.held 1 = some "CASE-2027-000003" ∧
    s.refused = 0 ∧ "CASE-2027-000003" ∉ s.caseIds := by
  have hrun : (runActions step migrated twoRuns).any (fun s =>
      s.drawn < 10 ^ 6 ∧ s.held 1 = some "CASE-2027-000003") = true := by decide +kernel
  obtain ⟨s, hs, hends⟩ := (Option.any_eq_true _ _).mp hrun
  obtain ⟨hdrawn, hheld⟩ := of_decide_eq_true hends
  have hreached : Reached step unguarded Fresh s :=
    (Reached.start ⟨rfl, fun _ => rfl, rfl, rfl⟩).run (guardsHold_unguarded migrated _) hs
  obtain ⟨hrefused, hfree⟩ := no_insert_refused hreached hdrawn
  exact ⟨s, hreached, hheld, hrefused, (hfree 1 _ hheld).1⟩

end CaseIds

end FleetMonitor
