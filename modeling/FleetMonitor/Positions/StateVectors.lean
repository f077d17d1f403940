import FleetMonitor.Positions.RepeatedAircraft

/-!
# The slots of a state vector

`_parse_response` converts the slots of a state vector with `int` and `float`, some of them unless
they are null, and catches nothing of what the two raise. One slot of one aircraft that is no number
ends the poll with an exception that `opensky_positions` does not skip for. A body that is nested
too deeply for `response.json()` is left out.
-/

namespace FleetMonitor

open Library

/-! ### What is converted -/

/-- A value `int` converts: a finite number, or the text of an integer. -/
def IsIntegral : Json → Prop
  | .bool _  => True
  | .int _   => True
  | .float x => x.isFinite = true
  | .str s   => (pyInt s.toList).isSome = true
  | _        => False

variable (py : TextFunctions)

/-- A value `float` converts: a number that is not too large, or the text of one. -/
def IsNumeric : Json → Prop
  | .bool _  => True
  | .int n   => n.natAbs < 2 ^ 1024 - 2 ^ 970
  | .float _ => True
  | .str s   => (py.float s).isSome = true
  | _        => False

/-- The slots that are read as integers, unless they are null. -/
def integerSlots : List ℕ := [3, 16]

/-- The slots that are read as floats, unless they are null. -/
def floatSlots : List ℕ := [5, 6, 7, 9, 10, 11, 13]

/-- A state vector whose slots are converted; only the last contact must not be null. -/
structure IsStateVector (row : List Json) : Prop where
  integers : ∀ k ∈ integerSlots, isNull (cell row k) = false → IsIntegral (cell row k)
  lastContact : IsIntegral (cell row 4)
  floats : ∀ k ∈ floatSlots, isNull (cell row k) = false → IsNumeric py (cell row k)

/-- The header is not taken for a number, or it is one. -/
def RateLimitIsRead (rateLimit : Option String) : Prop :=
  ∀ text ∈ rateLimit,
    py.isDigit (String.ofList (text.toList.dropWhile (· = '-'))) = true →
      (pyInt text.toList).isSome = true

/-- Every conversion of the payload that is reached succeeds, or raises what is caught: the time is
not infinite, and when it is an integer the state vectors and the header are converted. -/
structure IsConverted (payload : JsonObject) (rateLimit : Option String) : Prop where
  time : ∀ negative, JsonObject.get payload "time" ≠ .float (.infinite negative)
  rows : IsIntegral (JsonObject.get payload "time") →
    ∀ rawStates, parseStates (JsonObject.get payload "states") = .ok rawStates →
      (∀ row ∈ stateRows rawStates, IsStateVector py row) ∧ RateLimitIsRead py rateLimit

/-- The response has the states of the state vectors of the payload, in order. -/
def IsResponseTo (body : Except String Json) (response : OpenSkyResponse) : Prop :=
  ∃ payload rawStates, body = .ok (.obj payload) ∧ payload.any (·.1 = "time") = true ∧
    parseStates (JsonObject.get payload "states") = .ok rawStates ∧
    List.Forall₂ (fun row state => rowToState py row = .ok state) (stateRows rawStates)
      response.states

/-- The answer is parsed to its state vectors, or it is an `OpenSkyParseError`; so nothing that is
raised fails the asset. -/
structure ParsesOrSkips (body : Except String Json) (rateLimit : Option String) : Prop where
  outcome :
    (∃ response, parseResponse py body rateLimit = .ok response ∧ IsResponseTo py body response) ∨
    ∃ text, parseResponse py body rateLimit = .error (.parseError text)
  skipped : ∀ inferRegion polledAt services denylist e,
    (openskyPositions py inferRegion polledAt services denylist body rateLimit).result ≠
      .error (.parse e)

/-! ### Conversions -/

variable {py} {value : Json} {row : List Json}

lemma exists_jsonInt_iff : (∃ n, jsonInt value = .ok n) ↔ IsIntegral value := by
  cases value with
  | str s =>
    rw [jsonInt, IsIntegral]
    cases pyInt s.toList <;> simp
  | float x =>
    simp [jsonInt, Json.number?, IsIntegral, mapError_eq_ok_iff, exists_truncate_iff]
  | bool b => simp [jsonInt, Json.number?, IsIntegral, mapError_eq_ok_iff, truncate]
  | int n => simp [jsonInt, Json.number?, IsIntegral, mapError_eq_ok_iff, truncate]
  | null | arr items | obj fields => simp [jsonInt, Json.number?, IsIntegral]

lemma exists_jsonFloat_iff : (∃ x, jsonFloat py value = .ok x) ↔ IsNumeric py value := by
  cases value with
  | str s =>
    rw [jsonFloat, IsNumeric]
    cases py.float s <;> simp
  | int n =>
    simp only [jsonFloat, Json.number?, IsNumeric, mapError_eq_ok_iff, exists_toFloat_iff,
      JsonNumber.int.injEq, forall_eq']
  | float x => simp [jsonFloat, Json.number?, IsNumeric, mapError_eq_ok_iff, toFloat]
  | bool b =>
    simp only [jsonFloat, Json.number?, IsNumeric, mapError_eq_ok_iff, exists_toFloat_iff,
      JsonNumber.int.injEq, forall_eq', iff_true]
    cases b <;> decide +kernel
  | null | arr items | obj fields => simp [jsonFloat, Json.number?, IsNumeric]

/-- A slot that may be null. -/
lemma exists_unlessNull_iff {α : Type} {convert : Json → Except StateError α} :
    (∃ result, unlessNull convert value = .ok result) ↔
      (isNull value = false → ∃ a, convert value = .ok a) := by
  rw [unlessNull]
  cases hnull : isNull value with
  | true => simp
  | false => cases convert value <;> simp [Except.map]

/-- A state vector becomes a state exactly when its slots are converted. -/
lemma exists_rowToState_iff : (∃ state, rowToState py row = .ok state) ↔ IsStateVector py row := by
  have hint : ∀ k, (∃ r, unlessNull jsonInt (cell row k) = .ok r) ↔
      (isNull (cell row k) = false → IsIntegral (cell row k)) := by
    intro k
    rw [exists_unlessNull_iff, exists_jsonInt_iff]
  have hfloat : ∀ k, (∃ r, unlessNull (jsonFloat py) (cell row k) = .ok r) ↔
      (isNull (cell row k) = false → IsNumeric py (cell row k)) := by
    intro k
    rw [exists_unlessNull_iff, exists_jsonFloat_iff]
  constructor
  · rintro ⟨state, h⟩
    unfold rowToState at h
    obtain ⟨_, h16, h⟩ := bind_eq_ok_iff.mp h
    obtain ⟨_, h3, h⟩ := bind_eq_ok_iff.mp h
    obtain ⟨_, h4, h⟩ := bind_eq_ok_iff.mp h
    obtain ⟨_, h5, h⟩ := bind_eq_ok_iff.mp h
    obtain ⟨_, h6, h⟩ := bind_eq_ok_iff.mp h
    obtain ⟨_, h7, h⟩ := bind_eq_ok_iff.mp h
    obtain ⟨_, h9, h⟩ := bind_eq_ok_iff.mp h
    obtain ⟨_, h10, h⟩ := bind_eq_ok_iff.mp h
    obtain ⟨_, h11, h⟩ := bind_eq_ok_iff.mp h
    obtain ⟨_, h13, -⟩ := bind_eq_ok_iff.mp h
    refine ⟨?_, exists_jsonInt_iff.mp ⟨_, h4⟩, ?_⟩
    · simp only [integerSlots, List.forall_mem_cons, ← hint]
      exact ⟨⟨_, h3⟩, ⟨_, h16⟩, by simp⟩
    · simp only [floatSlots, List.forall_mem_cons, ← hfloat]
      exact ⟨⟨_, h5⟩, ⟨_, h6⟩, ⟨_, h7⟩, ⟨_, h9⟩, ⟨_, h10⟩, ⟨_, h11⟩, ⟨_, h13⟩, by simp⟩
  · intro h
    have hintegers := h.integers
    have hfloats := h.floats
    simp only [integerSlots, List.forall_mem_cons, ← hint] at hintegers
    simp only [floatSlots, List.forall_mem_cons, ← hfloat] at hfloats
    obtain ⟨⟨_, h3⟩, ⟨_, h16⟩, -⟩ := hintegers
    obtain ⟨_, h4⟩ := exists_jsonInt_iff.mpr h.lastContact
    obtain ⟨⟨_, h5⟩, ⟨_, h6⟩, ⟨_, h7⟩, ⟨_, h9⟩, ⟨_, h10⟩, ⟨_, h11⟩, ⟨_, h13⟩, -⟩ := hfloats
    simp only [rowToState, bind_eq_ok_iff]
    exact ⟨_, _, h16, _, h3, _, h4, _, h5, _, h6, _, h7, _, h9, _, h10, _, h11, _, h13, rfl⟩

/-! ### What is raised -/

/-- The time of a payload: it is converted, it is refused, or it is infinite. -/
lemma parseTime_cases (py : TextFunctions) (value : Json) :
    (IsIntegral value ∧ ∃ n, parseTime py value = .ok n) ∨
    (¬IsIntegral value ∧ ∃ text, parseTime py value = .error (.parseError text)) ∨
    ∃ negative, value = .float (.infinite negative) ∧
      parseTime py value = .error (.raised (.conversion .overflowError)) := by
  cases value with
  | bool b => exact .inl ⟨trivial, _, rfl⟩
  | int n => exact .inl ⟨trivial, _, rfl⟩
  | float x =>
    cases x with
    | finite x => exact .inl ⟨rfl, _, rfl⟩
    | infinite negative => exact .inr (.inr ⟨negative, rfl, rfl⟩)
    | nan => exact .inr (.inl ⟨nofun, _, rfl⟩)
  | str s =>
    cases hint : pyInt s.toList with
    | some n => exact .inl ⟨by simp [IsIntegral, hint], n, by simp [parseTime, jsonInt, hint]⟩
    | none =>
      exact .inr (.inl ⟨by simp [IsIntegral, hint], _, by simp [parseTime, jsonInt, hint]; rfl⟩)
  | null | arr items | obj fields => exact .inr (.inl ⟨id, _, rfl⟩)

/-- What is no list of states is an `OpenSkyParseError`. -/
lemma parseStates_error {e : ParseFailure} (h : parseStates value = .error e) :
    ∃ text, e = .parseError text := by
  unfold parseStates at h
  split at h
  next => cases h
  next =>
    split_ifs at h
    exact ⟨_, (Except.error.inj h).symm⟩

variable {rateLimit : Option String} {payload : JsonObject} {apiTime : ℤ} {rawStates : List Json}

lemma parseRateLimit_cases (py : TextFunctions) (rateLimit : Option String) :
    (RateLimitIsRead py rateLimit ∧ ∃ remaining, parseRateLimit py rateLimit = .ok remaining) ∨
    (¬RateLimitIsRead py rateLimit ∧ ∃ e, parseRateLimit py rateLimit = .error (.raised e)) := by
  cases rateLimit with
  | none => exact .inl ⟨by simp [RateLimitIsRead], none, rfl⟩
  | some text =>
    cases hdigits : py.isDigit (String.ofList (text.toList.dropWhile (· = '-'))) with
    | false => exact .inl ⟨by simp [RateLimitIsRead, hdigits], none, by simp [parseRateLimit, hdigits]⟩
    | true =>
      cases hint : pyInt text.toList with
      | some n =>
        exact .inl ⟨by simp [RateLimitIsRead, hint], some n, by simp [parseRateLimit, hdigits, hint]⟩
      | none =>
        refine .inr ⟨fun h => ?_, _, by simp [parseRateLimit, hdigits, hint]; rfl⟩
        have hsome := h text rfl hdigits
        rw [hint] at hsome
        cases hsome

/-- Once the time and the list of the states are read, the response is built, or a conversion
raises. -/
lemma parseResponse_cases (hnamed : payload.any (·.1 = "time") = true)
    (htime : parseTime py (JsonObject.get payload "time") = .ok apiTime)
    (hstates : parseStates (JsonObject.get payload "states") = .ok rawStates) :
    ((∀ row ∈ stateRows rawStates, IsStateVector py row) ∧ RateLimitIsRead py rateLimit ∧
      ∃ response, parseResponse py (.ok (.obj payload)) rateLimit = .ok response) ∨
    (¬((∀ row ∈ stateRows rawStates, IsStateVector py row) ∧ RateLimitIsRead py rateLimit) ∧
      ∃ e, parseResponse py (.ok (.obj payload)) rateLimit = .error (.raised e)) := by
  have hrows : (∃ states, (stateRows rawStates).mapM (rowToState py) = .ok states) ↔
      ∀ row ∈ stateRows rawStates, IsStateVector py row := by
    simp only [exists_mapM_ok_iff, exists_rowToState_iff]
  have hparse : parseResponse py (.ok (.obj payload)) rateLimit = (do
      let states ← ((stateRows rawStates).mapM (rowToState py)).mapError .raised
      let rateLimitRemaining ← parseRateLimit py rateLimit
      return { apiTime, states, rateLimitRemaining }) := by
    simp only [parseResponse, hnamed, if_true, htime, hstates]
    rfl
  rw [hparse]
  cases hmapM : (stateRows rawStates).mapM (rowToState py) with
  | error e =>
    refine .inr ⟨fun h => ?_, e, rfl⟩
    obtain ⟨states, hok⟩ := hrows.mpr h.1
    cases hmapM.symm.trans hok
  | ok states =>
    have hvectors := hrows.mp ⟨states, hmapM⟩
    rcases parseRateLimit_cases py rateLimit with ⟨hread, remaining, hlimit⟩ | ⟨hnot, e, hlimit⟩
    · exact .inl ⟨hvectors, hread, _, by rw [hlimit]; rfl⟩
    · exact .inr ⟨fun h => hnot h.2, e, by rw [hlimit]; rfl⟩

/-! ### The asset -/

variable {inferRegion : FloatValue → FloatValue → Option (List CustomerRegion)}
  {polledAt : Instant} {services : CycleServices} {states : List OpenSkyState}

/-- No statement fails with what a conversion of the parser raises. -/
lemma upsertPages_ne_parse (pages : List (List PolledRow)) (e : StateError) :
    (upsertPages services pages).2 ≠ .error (.parse e) := by
  intro hparse
  obtain ⟨page, -, herror⟩ := exists_statementError_of_upsertPages hparse
  rcases statementError_cases herror with ⟨text, hdatabase⟩ | ⟨htwice, -⟩
  · cases hdatabase
  · cases htwice

lemma ingestStates_ne_parse (e : StateError) :
    (ingestStates inferRegion polledAt services states).result ≠ .error (.parse e) := by
  unfold ingestStates
  split
  next => simp
  next rows _ =>
    split_ifs
    · simp
    · split
      next => simp
      next =>
        split
        next => simp
        next => exact upsertPages_ne_parse _ e

/-- An answer that is a response, or an `OpenSkyParseError`, does not fail the asset. -/
lemma openskyPositions_ne_parse {body : Except String Json} {denylist : List String}
    (h : ∀ e, parseResponse py body rateLimit ≠ .error (.raised e)) (e : StateError) :
    (openskyPositions py inferRegion polledAt services denylist body rateLimit).result ≠
      .error (.parse e) := by
  unfold openskyPositions
  split
  next => exact nofun
  next d herror => exact absurd herror (h d)
  next => exact ingestStates_ne_parse e

lemma isResponseTo_of_ok {body : Except String Json} {response : OpenSkyResponse}
    (h : parseResponse py body rateLimit = .ok response) : IsResponseTo py body response := by
  obtain ⟨payload, rawStates, hbody, hnamed, hraw, hstates⟩ := exists_payload_of_parseResponse h
  exact ⟨payload, rawStates, hbody, hnamed, hraw, forall₂_of_mapM_ok hstates⟩

lemma parsesOrSkips_of_outcome {body : Except String Json}
    (h : (∃ response, parseResponse py body rateLimit = .ok response) ∨
      ∃ text, parseResponse py body rateLimit = .error (.parseError text)) :
    ParsesOrSkips py body rateLimit := by
  refine ⟨h.imp_left ?_, fun inferRegion polledAt services denylist e =>
    openskyPositions_ne_parse (fun d hraised => ?_) e⟩
  · rintro ⟨response, hresponse⟩
    exact ⟨response, hresponse, isResponseTo_of_ok hresponse⟩
  · rcases h with ⟨response, hresponse⟩ | ⟨text, hskipped⟩
    · cases hresponse.symm.trans hraised
    · cases hskipped.symm.trans hraised

lemma parsesOrSkips_iff_not_raised {body : Except String Json} : ParsesOrSkips py body rateLimit ↔
    ∀ e, parseResponse py body rateLimit ≠ .error (.raised e) := by
  constructor
  · intro h e hraised
    rcases h.outcome with ⟨response, hresponse, -⟩ | ⟨text, hskipped⟩
    · cases hresponse.symm.trans hraised
    · cases hskipped.symm.trans hraised
  · intro h
    apply parsesOrSkips_of_outcome
    cases hparse : parseResponse py body rateLimit with
    | ok response => exact .inl ⟨response, rfl⟩
    | error failure =>
      cases failure with
      | parseError text => exact .inr ⟨text, rfl⟩
      | raised e => exact absurd hparse (h e)

/-- Of a payload with a time nothing is raised exactly when it is converted. -/
lemma not_raised_iff_isConverted (hnamed : payload.any (·.1 = "time") = true) :
    (∀ e, parseResponse py (.ok (.obj payload)) rateLimit ≠ .error (.raised e)) ↔
      IsConverted py payload rateLimit := by
  rcases parseTime_cases py (JsonObject.get payload "time") with
    ⟨hintegral, n, htime⟩ | ⟨hnot, text, htime⟩ | ⟨negative, hinfinite, htime⟩
  · have hfinite : ∀ negative, JsonObject.get payload "time" ≠ .float (.infinite negative) := by
      intro negative hinfinite
      rw [hinfinite] at hintegral
      exact absurd hintegral nofun
    cases hstates : parseStates (JsonObject.get payload "states") with
    | error failure =>
      obtain ⟨text, rfl⟩ := parseStates_error hstates
      have hskipped :
          parseResponse py (.ok (.obj payload)) rateLimit = .error (.parseError text) := by
        simp only [parseResponse, hnamed, if_true, htime, hstates]
        rfl
      refine iff_of_true (fun e hraised => ?_) ⟨hfinite, fun _ rawStates hraw => ?_⟩
      · cases hskipped.symm.trans hraised
      · cases hstates.symm.trans hraw
    | ok rawStates =>
      rcases parseResponse_cases hnamed htime hstates with
        ⟨hvectors, hread, response, hresponse⟩ | ⟨hnot, e, herror⟩
      · refine iff_of_true (fun e hraised => ?_) ⟨hfinite, fun _ raw hraw => ?_⟩
        · cases hresponse.symm.trans hraised
        · obtain rfl := Except.ok.inj (hstates.symm.trans hraw)
          exact ⟨hvectors, hread⟩
      · exact iff_of_false (fun h => h e herror) fun h => hnot (h.rows hintegral rawStates hstates)
  · have hskipped :
        parseResponse py (.ok (.obj payload)) rateLimit = .error (.parseError text) := by
      simp only [parseResponse, hnamed, if_true, htime]
      rfl
    refine iff_of_true (fun e hraised => ?_)
      ⟨fun negative hinfinite => ?_, fun hintegral => absurd hintegral hnot⟩
    · cases hskipped.symm.trans hraised
    · rw [hinfinite] at htime
      cases htime
  · refine iff_of_false (fun h => h (.conversion .overflowError) ?_) fun h => h.time negative hinfinite
    simp only [parseResponse, hnamed, if_true, htime]
    rfl

/-- The parser answers with a response or an `OpenSkyParseError` exactly when every conversion it
gets to succeeds or raises what is caught. -/
theorem parsesOrSkips_iff (py : TextFunctions) (body : Except String Json)
    (rateLimit : Option String) :
    ParsesOrSkips py body rateLimit ↔
      ∀ payload, body = .ok (.obj payload) → payload.any (·.1 = "time") = true →
        IsConverted py payload rateLimit := by
  rw [parsesOrSkips_iff_not_raised]
  constructor
  · rintro h payload rfl hnamed
    exact (not_raised_iff_isConverted hnamed).mp h
  · intro h
    rcases body with text | value
    · exact nofun
    · cases value with
      | obj payload =>
        by_cases hnamed : payload.any (·.1 = "time") = true
        · exact (not_raised_iff_isConverted hnamed).mpr (h payload rfl hnamed)
        · intro e hraised
          simp only [parseResponse, if_neg hnamed] at hraised
          cases hraised
      | null | bool b | int n | float x | str s | arr items => exact nofun

/-- A payload with one aircraft whose last contact is null. -/
def uncontactedPayload : JsonObject :=
  [("time", .int 1767225600),
   ("states", .arr [.arr [.str "a1b2c3", .null, .null, .null, .null, .null, .null, .null,
     .bool false, .null, .null, .null, .null, .null, .null, .bool false, .int 0]])]

/-- The `TypeError` of its conversion fails the asset. -/
theorem null_contact_raises :
    ¬∀ (py : TextFunctions) (body : Except String Json) (rateLimit : Option String),
      ParsesOrSkips py body rateLimit := by
  intro h
  have hskipped := (h asciiText (.ok (.obj uncontactedPayload)) none).skipped
    (fun _ _ => none) 0 soundServices [] .typeError
  exact hskipped (by decide +kernel)

end FleetMonitor
