import FleetMonitor.Positions.Ingestion
import Mathlib.Data.List.ReduceOption

/-!
# Repeated aircraft

Nothing between the payload and the upsert keeps the aircraft of a poll apart: two state vectors
whose addresses are equal in lower case become two rows. When both are on one page the statement is
aborted, and the snapshot of the cycle is in the lake by then.
-/

namespace FleetMonitor

open Library

/-! ### Pages -/

/-- Two equal keys stand on one page of the given size. -/
def RepeatsOnPage {α : Type*} (size : ℕ) (keys : List α) : Prop :=
  ∃ i j k, i < j ∧ i / size = j / size ∧ keys[i]? = some k ∧ keys[j]? = some k

section

variable {α β : Type} {size : ℕ}

lemma repeatsOnPage_nil : ¬RepeatsOnPage size ([] : List α) := by
  rintro ⟨i, j, k, -, -, hi, -⟩
  simp at hi

/-- Equal keys stand on the first page, or on one of the others. -/
lemma repeatsOnPage_iff (hsize : 0 < size) (keys : List α) :
    RepeatsOnPage size keys ↔ ¬(keys.take size).Nodup ∨ RepeatsOnPage size (keys.drop size) := by
  rw [List.nodup_iff_getElem?_ne_getElem?]
  push Not
  constructor
  · rintro ⟨i, j, k, hij, hpage, hi, hj⟩
    rcases lt_or_ge i size with hfirst | hlater
    · have hjsize : j < size := by
        rw [Nat.div_eq_of_lt hfirst] at hpage
        exact (Nat.div_eq_zero_iff_lt hsize).mp hpage.symm
      have hlength : j < keys.length := (List.getElem?_eq_some_iff.mp hj).1
      refine .inl ⟨i, j, hij, ?_, ?_⟩
      · rw [List.length_take]
        omega
      · rw [List.getElem?_take_of_lt hfirst, List.getElem?_take_of_lt hjsize, hi, hj]
    · obtain ⟨i', rfl⟩ := Nat.exists_eq_add_of_le hlater
      obtain ⟨j', rfl⟩ := Nat.exists_eq_add_of_le (hlater.trans hij.le)
      rw [Nat.add_div_left _ hsize, Nat.add_div_left _ hsize] at hpage
      exact .inr ⟨i', j', k, by omega, by omega, by rwa [List.getElem?_drop],
        by rwa [List.getElem?_drop]⟩
  · rintro (⟨i, j, hij, hlength, heq⟩ | ⟨i, j, k, hij, hpage, hi, hj⟩)
    · rw [List.length_take] at hlength
      have hjsize : j < size := by omega
      have hisize : i < size := by omega
      rw [List.getElem?_take_of_lt hisize, List.getElem?_take_of_lt hjsize] at heq
      have hj : keys[j]? = some keys[j] := List.getElem?_eq_getElem (by omega)
      exact ⟨i, j, keys[j], hij, by rw [Nat.div_eq_of_lt hisize, Nat.div_eq_of_lt hjsize],
        heq.trans hj, hj⟩
    · rw [List.getElem?_drop] at hi hj
      refine ⟨size + i, size + j, k, by omega, ?_, hi, hj⟩
      rw [Nat.add_div_left _ hsize, Nat.add_div_left _ hsize, hpage]

lemma nodup_chunks_go_iff (hsize : 0 < size) (key : β → α) {fuel : ℕ} {rows : List β}
    (hfuel : rows.length ≤ fuel) :
    (∀ page ∈ chunks.go size fuel rows, (page.map key).Nodup) ↔
      ¬RepeatsOnPage size (rows.map key) := by
  induction fuel generalizing rows with
  | zero =>
    obtain rfl := List.length_eq_zero_iff.mp (Nat.le_zero.mp hfuel)
    simp [chunks.go, repeatsOnPage_nil]
  | succ fuel ih =>
    cases rows with
    | nil => simp [chunks.go, repeatsOnPage_nil]
    | cons row rows =>
      have hdrop : ((row :: rows).drop size).length ≤ fuel := by
        rw [List.length_drop]
        simp only [List.length_cons] at hfuel ⊢
        omega
      rw [repeatsOnPage_iff hsize ((row :: rows).map key), not_or, not_not, ← List.map_take,
        ← List.map_drop, ← ih hdrop, chunks.go, List.forall_mem_cons]
      simp

/-- No page has a key twice exactly when no two equal keys stand on one page. -/
lemma nodup_chunks_iff (hsize : 0 < size) (key : β → α) (rows : List β) :
    (∀ page ∈ chunks size rows, (page.map key).Nodup) ↔ ¬RepeatsOnPage size (rows.map key) :=
  nodup_chunks_go_iff hsize key le_rfl

end

/-! ### What the pages are for -/

variable (py : TextFunctions) (denylist : List String)
  (inferRegion : FloatValue → FloatValue → Option (List CustomerRegion)) (polledAt : Instant)

variable {py denylist inferRegion polledAt} {services : CycleServices} {row : List Json}
  {state : OpenSkyState} {states : List OpenSkyState} {rows : List PolledRow}

/-! ### One state -/

variable {pages : List (List PolledRow)}

/-- A statement fails with an error of the database, or for a repeat. -/
lemma statementError_cases {page : List PolledRow} {e : CycleError}
    (h : statementError services page = some e) :
    (∃ text, e = .database text) ∨ e = .affectedTwice ∧ ¬(page.map PolledRow.icao24).Nodup := by
  rw [statementError] at h
  cases hrefuses : services.refuses page with
  | some text =>
    rw [hrefuses] at h
    exact .inl ⟨text, (Option.some.inj h).symm⟩
  | none =>
    rw [hrefuses] at h
    obtain ⟨hrepeat, htwice⟩ := Option.ite_none_left_eq_some.mp h
    exact .inr ⟨(Option.some.inj htwice).symm, hrepeat⟩

/-- What the statements raise is the error of one of the pages. -/
lemma exists_statementError_of_upsertPages {e : CycleError}
    (h : (upsertPages services pages).2 = .error e) :
    ∃ page ∈ pages, statementError services page = some e := by
  induction pages with
  | nil => cases h
  | cons page pages ih =>
    rw [upsertPages] at h
    cases hpage : statementError services page with
    | some d =>
      rw [hpage] at h
      exact ⟨page, List.mem_cons_self, hpage.trans (congrArg some (Except.error.inj h))⟩
    | none =>
      rw [hpage] at h
      simp only at h
      split_ifs at h
      obtain ⟨failed, hfailed, herror⟩ := ih h
      exact ⟨failed, List.mem_cons_of_mem _ hfailed, herror⟩

/-- The services of a cycle that has no other error. -/
def soundServices : CycleServices where
  writeSnapshot _ := none
  fetchAircraftTypes _ := .ok fun _ => none
  refuses _ := none

/-- A response is read from a payload with a time and a list of states. -/
lemma exists_payload_of_parseResponse {body : Except String Json} {rateLimit : Option String}
    {response : OpenSkyResponse} (h : parseResponse py body rateLimit = .ok response) :
    ∃ payload rawStates, body = .ok (.obj payload) ∧ payload.any (·.1 = "time") = true ∧
      parseStates (JsonObject.get payload "states") = .ok rawStates ∧
      (stateRows rawStates).mapM (rowToState py) = .ok response.states := by
  unfold parseResponse at h
  split at h
  next => cases h
  next payload =>
    split_ifs at h with hnamed
    · obtain ⟨apiTime, -, h⟩ := bind_eq_ok_iff.mp h
      obtain ⟨rawStates, hraw, h⟩ := bind_eq_ok_iff.mp h
      obtain ⟨states, hstates, h⟩ := bind_eq_ok_iff.mp h
      obtain ⟨_, -, h⟩ := bind_eq_ok_iff.mp h
      obtain rfl := Except.ok.inj h
      exact ⟨payload, rawStates, rfl, hnamed, hraw, mapError_eq_ok_iff.mp hstates⟩
  next => cases h

end FleetMonitor
