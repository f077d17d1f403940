import FleetMonitor.Library.Retry
import FleetMonitor.Library.Validation

/-!
# Errors of the sync jobs

`guarded_sync` turns the exceptions of a job into a skipped run or lets them through. It goes by the
type of the exception: what makes a job skip-worthy, absent settings or an endpoint that is not
reached, has the types of a response that fails its model and of a request that is refused.
-/

namespace FleetMonitor

open Library

/-! ### Requests -/

/-- `httpx.HTTPError`: a `TransportError`, another `RequestError` such as `DecodingError`, or the
`HTTPStatusError` of an answer. -/
inductive HttpError where
  | transport (text : String)
  | request (text : String)
  | status (code : ℕ) (text : String)
  deriving DecidableEq, Repr

/-- `str(exc)`. -/
def HttpError.text : HttpError → String
  | .transport text => text
  | .request text   => text
  | .status _ text  => text

/-- `RETRIABLE_STATUSES`. -/
def retriableStatuses : List ℕ := [502, 503, 504]

/-- `should_retry`. -/
def shouldRetry : HttpError → Bool
  | .transport _   => true
  | .request _     => false
  | .status code _ => code ∈ retriableStatuses

/-- `transient_retry`. -/
def transientRetry (attempt : ℕ → Except HttpError Unit) : Except HttpError Unit :=
  retry shouldRetry attempt 3

/-! ### Bodies of jobs -/

/-- What is validated after the settings. -/
inductive ModelOrigin where
  | response
  | ontologyObject
  | transform
  deriving DecidableEq, Repr

/-- An exception of a body. The two kinds of `ValidationError` are one type. -/
inductive BodyException where
  | settings (e : ValidationError)
  | validation (origin : ModelOrigin) (e : ValidationError)
  | http (e : HttpError)
  | other (kind text : String)
  deriving DecidableEq, Repr

/-- A step of a body; an exception the job handles itself is no failure of the step. -/
inductive Step where
  /-- `FoundrySettings()`. -/
  | loadSettings (outcome : Except ValidationError Unit)
  /-- A request under `transient_retry`, with its attempts. -/
  | call (attempt : ℕ → Except HttpError Unit)
  /-- The request of `stream_flight_trails`, which is not retried. -/
  | stream (outcome : Except HttpError Unit)
  /-- A model built from a response or an object, or by a transform. -/
  | readModel (origin : ModelOrigin) (outcome : Except ValidationError Unit)
  /-- Anything else. -/
  | compute (outcome : Except (String × String) Unit)

/-- What a step raises. -/
def Step.run : Step → Except BodyException Unit
  | .loadSettings outcome     => outcome.mapError .settings
  | .call attempt             => (transientRetry attempt).mapError .http
  | .stream outcome           => outcome.mapError .http
  | .readModel origin outcome => outcome.mapError (.validation origin)
  | .compute outcome          => outcome.mapError fun e => .other e.1 e.2

/-- A body runs its steps up to the first that raises. -/
def runBody : List Step → Except BodyException Unit
  | [] => .ok ()
  | step :: steps =>
    match step.run with
    | .error e => .error e
    | .ok ()   => runBody steps

/-! ### The guard -/

/-- What leaves the guard: `FoundrySyncSkipped`, or the exception of the body. -/
inductive GuardException where
  | skipped (message : String)
  | raised (e : BodyException)
  deriving DecidableEq, Repr

/-- `guarded_sync` around a body. -/
def guardedSync (job : String) (body : Except BodyException Unit) : Except GuardException Unit :=
  match body with
  | .ok ()                   => .ok ()
  | .error (.settings _)     => .error (.skipped (job ++ ": foundry config absent"))
  | .error (.validation _ _) => .error (.skipped (job ++ ": foundry config absent"))
  | .error (.http e)         =>
    .error (.skipped (job ++ ": foundry/api unreachable: " ++ e.text))
  | .error (.other kind text) => .error (.raised (.other kind text))

/-! ### What the guard is for -/

/-- The step at which a body ends. -/
def EndsAt (steps : List Step) (step : Step) (e : BodyException) : Prop :=
  ∃ before after, steps = before ++ step :: after ∧ (∀ s ∈ before, s.run = .ok ()) ∧
    step.run = .error e

/-- The settings fail validation. -/
def SettingsFail : Step → Prop
  | .loadSettings outcome => ∃ e, outcome = .error e
  | _                     => False

/-- An endpoint is not reached: every attempt ends in a transport error or a retriable status. -/
def Unreachable : Step → Prop
  | .call attempt   => FailedBefore shouldRetry attempt 3
  | .stream outcome => ∃ e, outcome = .error e ∧ shouldRetry e = true
  | _               => False

/-- A model that is not the settings fails validation, or a request fails in another way. -/
def Misread : Step → Prop
  | .readModel _ outcome => ∃ e, outcome = .error e
  | .call attempt        => ∃ n ≤ 2, FailedBefore shouldRetry attempt n ∧
      ∃ e, attempt n = .error e ∧ shouldRetry e = false
  | .stream outcome      => ∃ e, outcome = .error e ∧ shouldRetry e = false
  | _                    => False

/-- A run is skipped exactly when the settings fail or an endpoint is not reached, and every other
failure comes out of the guard as it is. -/
structure SkipsOutages (job : String) (steps : List Step) : Prop where
  skipped : (∃ message, guardedSync job (runBody steps) = .error (.skipped message)) ↔
    ∃ step e, EndsAt steps step e ∧ (SettingsFail step ∨ Unreachable step)
  unchanged : ∀ step e, EndsAt steps step e → ¬SettingsFail step → ¬Unreachable step →
    guardedSync job (runBody steps) = .error (.raised e)

variable {steps : List Step} {step step' : Step} {e e' : BodyException} {job : String}

lemma EndsAt.cons (h : EndsAt steps step e) {s : Step} (hs : s.run = .ok ()) :
    EndsAt (s :: steps) step e := by
  obtain ⟨before, after, rfl, hbefore, hstep⟩ := h
  refine ⟨s :: before, after, rfl, fun s' hs' => ?_, hstep⟩
  rcases List.mem_cons.mp hs' with rfl | hs'
  · exact hs
  · exact hbefore s' hs'

/-- A body ends at its first step, or after it. -/
lemma endsAt_cons_iff {s : Step} : EndsAt (s :: steps) step e ↔
    (s = step ∧ s.run = .error e) ∨ (s.run = .ok () ∧ EndsAt steps step e) := by
  constructor
  · rintro ⟨before, after, heq, hbefore, hstep⟩
    cases before with
    | nil =>
      obtain ⟨rfl, rfl⟩ := List.cons.inj heq
      exact .inl ⟨rfl, hstep⟩
    | cons b before =>
      obtain ⟨rfl, rfl⟩ := List.cons.inj heq
      exact .inr ⟨hbefore s List.mem_cons_self, before, after, rfl,
        fun s' hs' => hbefore s' (List.mem_cons_of_mem _ hs'), hstep⟩
  · rintro (⟨rfl, hs⟩ | ⟨hs, hends⟩)
    · exact ⟨[], steps, rfl, by simp, hs⟩
    · exact hends.cons hs

lemma not_endsAt_nil : ¬EndsAt [] step e := by
  rintro ⟨before, after, heq, -⟩
  simp at heq

/-- A body raises what its last step does. -/
lemma runBody_eq_error_iff : runBody steps = .error e ↔ ∃ step, EndsAt steps step e := by
  induction steps with
  | nil => exact iff_of_false (fun h => nomatch h) fun ⟨_, hends⟩ => not_endsAt_nil hends
  | cons s steps ih =>
    rw [runBody]
    cases hs : s.run with
    | error e' =>
      constructor
      · intro h
        obtain rfl := Except.error.inj h
        exact ⟨s, endsAt_cons_iff.mpr (.inl ⟨rfl, hs⟩)⟩
      · rintro ⟨step, hends⟩
        rcases endsAt_cons_iff.mp hends with ⟨-, hstep⟩ | ⟨hok, -⟩
        · rw [hs] at hstep
          exact hstep
        · cases hs.symm.trans hok
    | ok u =>
      constructor
      · intro h
        obtain ⟨step, hends⟩ := ih.mp h
        exact ⟨step, hends.cons hs⟩
      · rintro ⟨step, hends⟩
        rcases endsAt_cons_iff.mp hends with ⟨-, hstep⟩ | ⟨-, hends⟩
        · cases hs.symm.trans hstep
        · exact ih.mpr ⟨step, hends⟩

/-- A body ends at one step. -/
lemma EndsAt.unique (h : EndsAt steps step e) (h' : EndsAt steps step' e') : step = step' := by
  induction steps with
  | nil => exact absurd h not_endsAt_nil
  | cons s steps ih =>
    rcases endsAt_cons_iff.mp h with ⟨rfl, herror⟩ | ⟨hok, hends⟩
    · rcases endsAt_cons_iff.mp h' with ⟨rfl, -⟩ | ⟨hok, -⟩
      · rfl
      · cases herror.symm.trans hok
    · rcases endsAt_cons_iff.mp h' with ⟨-, herror⟩ | ⟨-, hends'⟩
      · cases herror.symm.trans hok
      · exact ih hends hends'

/-! ### What a step that fails is -/

/-- A request that fails is not reached, or refused. -/
lemma transientRetry_error {attempt : ℕ → Except HttpError Unit} {e : HttpError}
    (h : transientRetry attempt = .error e) :
    Unreachable (.call attempt) ∨ Misread (.call attempt) := by
  cases hagain : shouldRetry e with
  | true => exact .inl ((retry_eq_error_of_again hagain).mp h).1
  | false =>
    obtain ⟨n, hn, hbefore, hattempt⟩ := (retry_eq_error_of_not_again hagain).mp h
    exact .inr ⟨n, hn, hbefore, e, hattempt, hagain⟩

/-- The failures of a step, by what they mean. -/
lemma Step.failure_cases (h : step.run = .error e) :
    SettingsFail step ∨ Unreachable step ∨ Misread step ∨ ∃ kind text, e = .other kind text := by
  cases step with
  | loadSettings outcome =>
    obtain ⟨d, hd, -⟩ := mapError_eq_error_iff.mp h
    exact .inl ⟨d, hd⟩
  | call attempt =>
    obtain ⟨d, hd, -⟩ := mapError_eq_error_iff.mp h
    rcases transientRetry_error hd with hunreachable | hmisread
    · exact .inr (.inl hunreachable)
    · exact .inr (.inr (.inl hmisread))
  | stream outcome =>
    obtain ⟨d, hd, -⟩ := mapError_eq_error_iff.mp h
    cases hagain : shouldRetry d with
    | true => exact .inr (.inl ⟨d, hd, hagain⟩)
    | false => exact .inr (.inr (.inl ⟨d, hd, hagain⟩))
  | readModel origin outcome =>
    obtain ⟨d, hd, -⟩ := mapError_eq_error_iff.mp h
    exact .inr (.inr (.inl ⟨d, hd⟩))
  | compute outcome =>
    obtain ⟨d, -, rfl⟩ := mapError_eq_error_iff.mp h
    exact .inr (.inr (.inr ⟨d.1, d.2, rfl⟩))

/-- The guard skips for every exception but those of another type. -/
lemma guardedSync_skipped_iff :
    (∃ message, guardedSync job (.error e) = .error (.skipped message)) ↔
      ¬∃ kind text, e = .other kind text := by
  cases e with
  | settings d => simp [guardedSync]
  | validation origin d => simp [guardedSync]
  | http d => simp [guardedSync]
  | other kind text => simp [guardedSync]

/-- Outages and misread failures have the types the guard skips for. -/
lemma Step.not_other (h : step.run = .error e)
    (hstep : SettingsFail step ∨ Unreachable step ∨ Misread step) :
    ¬∃ kind text, e = .other kind text := by
  rintro ⟨kind, text, rfl⟩
  cases step with
  | loadSettings outcome =>
    obtain ⟨d, -, hd⟩ := mapError_eq_error_iff.mp h
    cases hd
  | call attempt =>
    obtain ⟨d, -, hd⟩ := mapError_eq_error_iff.mp h
    cases hd
  | stream outcome =>
    obtain ⟨d, -, hd⟩ := mapError_eq_error_iff.mp h
    cases hd
  | readModel origin outcome =>
    obtain ⟨d, -, hd⟩ := mapError_eq_error_iff.mp h
    cases hd
  | compute outcome =>
    rcases hstep with hsettings | hunreachable | hmisread
    · exact hsettings
    · exact hunreachable
    · exact hmisread

/-- What is misread is no outage. -/
lemma Misread.not_outage (h : Misread step) : ¬SettingsFail step ∧ ¬Unreachable step := by
  cases step with
  | loadSettings outcome => exact h.elim
  | call attempt =>
    obtain ⟨n, hn, -, d, hd, hagain⟩ := h
    refine ⟨id, fun hunreachable => ?_⟩
    obtain ⟨d', hd', hagain'⟩ := hunreachable n (by omega)
    rw [hd] at hd'
    obtain rfl := Except.error.inj hd'
    rw [hagain] at hagain'
    cases hagain'
  | stream outcome =>
    obtain ⟨d, hd, hagain⟩ := h
    refine ⟨id, fun hunreachable => ?_⟩
    obtain ⟨d', hd', hagain'⟩ := hunreachable
    rw [hd] at hd'
    obtain rfl := Except.error.inj hd'
    rw [hagain] at hagain'
    cases hagain'
  | readModel origin outcome => exact ⟨id, id⟩
  | compute outcome => exact h.elim

/-! ### What the guard does -/

/-- A run is skipped exactly when the step at which it ends raises one of the types. -/
lemma skipped_iff_ends :
    (∃ message, guardedSync job (runBody steps) = .error (.skipped message)) ↔
      ∃ step e, EndsAt steps step e ∧ ¬∃ kind text, e = .other kind text := by
  constructor
  · rintro ⟨message, hskipped⟩
    cases hrun : runBody steps with
    | ok u =>
      rw [hrun] at hskipped
      cases hskipped
    | error e =>
      rw [hrun] at hskipped
      obtain ⟨step, hends⟩ := runBody_eq_error_iff.mp hrun
      exact ⟨step, e, hends, guardedSync_skipped_iff.mp ⟨message, hskipped⟩⟩
  · rintro ⟨step, e, hends, hother⟩
    rw [runBody_eq_error_iff.mpr ⟨step, hends⟩, guardedSync_skipped_iff]
    exact hother

/-- An exception of another type comes out as it is. -/
lemma EndsAt.raised (h : EndsAt steps step e) (hother : ∃ kind text, e = .other kind text) :
    guardedSync job (runBody steps) = .error (.raised e) := by
  rw [runBody_eq_error_iff.mpr ⟨step, h⟩]
  obtain ⟨kind, text, rfl⟩ := hother
  rfl

/-- A step that fails, and is neither an outage nor misread, raises an exception of another type. -/
lemma EndsAt.other (h : EndsAt steps step e) (hmisread : ¬Misread step)
    (hsettings : ¬SettingsFail step) (hunreachable : ¬Unreachable step) :
    ∃ kind text, e = .other kind text := by
  obtain ⟨-, -, -, -, hstep⟩ := h
  rcases Step.failure_cases hstep with hfail | hfail | hfail | hother
  · exact absurd hfail hsettings
  · exact absurd hfail hunreachable
  · exact absurd hfail hmisread
  · exact hother

/-- The guard skips exactly the runs that meet an outage, and lets the other failures through,
unless the run ends at a model that fails validation or at a request that is refused. -/
theorem guard_skips_outages_iff (job : String) (steps : List Step) :
    SkipsOutages job steps ↔ ∀ step e, EndsAt steps step e → ¬Misread step := by
  constructor
  · intro h step e hends hmisread
    obtain ⟨-, -, -, -, hstep⟩ := id hends
    have hother := Step.not_other hstep (.inr (.inr hmisread))
    obtain ⟨step', e', hends', houtage⟩ :=
      h.skipped.mp (skipped_iff_ends.mpr ⟨step, e, hends, hother⟩)
    obtain rfl := hends.unique hends'
    obtain ⟨hsettings, hunreachable⟩ := hmisread.not_outage
    rcases houtage with houtage | houtage
    · exact hsettings houtage
    · exact hunreachable houtage
  · intro h
    refine ⟨?_, fun step e hends hsettings hunreachable =>
      hends.raised (hends.other (h step e hends) hsettings hunreachable)⟩
    rw [skipped_iff_ends]
    constructor
    · rintro ⟨step, e, hends, hother⟩
      refine ⟨step, e, hends, ?_⟩
      by_contra houtage
      obtain ⟨hsettings, hunreachable⟩ := not_or.mp houtage
      exact hother (hends.other (h step e hends) hsettings hunreachable)
    · rintro ⟨step, e, hends, houtage⟩
      obtain ⟨-, -, -, -, hstep⟩ := id hends
      exact ⟨step, e, hends, Step.not_other hstep (houtage.imp_right .inl)⟩

/-- A site whose response fails its model. -/
def unreadableSite : List Step :=
  [.loadSettings (.ok ()), .call fun _ => .ok (),
   .readModel .response (.error ⟨"SiteDetail", [⟨"weather.flight_category", "Field required"⟩]⟩)]

/-- A response that fails its model is reported as absent settings. -/
theorem unreadable_site_skipped :
    ¬∀ (job : String) (steps : List Step), SkipsOutages job steps := by
  intro h
  have hskipped : ∃ message,
      guardedSync "sites" (runBody unreadableSite) = .error (.skipped message) := ⟨_, rfl⟩
  obtain ⟨step, e, hends, houtage⟩ := (h "sites" unreadableSite).skipped.mp hskipped
  obtain rfl := hends.unique ⟨[.loadSettings (.ok ()), .call fun _ => .ok ()], [], rfl, by
    intro s hs
    simp only [List.mem_cons, List.not_mem_nil, or_false] at hs
    rcases hs with rfl | rfl <;> rfl, rfl⟩
  rcases houtage with houtage | houtage
  · exact houtage
  · exact houtage

end FleetMonitor
