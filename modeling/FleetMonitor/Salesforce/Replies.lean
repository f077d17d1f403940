import FleetMonitor.Salesforce.Service

/-!
# What Salesforce says to a create

The calls made for a Case, by what Salesforce has said to each of them in the end. The replies are
read off the client, not out of the code of the service; `createCase_settled` says that
`create_case` comes to what the last of them says.
-/

namespace FleetMonitor

variable {α : Type}

/-! ### Replies -/

/-- What is said to a call in the end, the one repetition with a new token included. -/
inductive Reply (α : Type) where
  | answer (a : α)
  /-- A `SalesforceError`. -/
  | refusal (status : Option ℕ) (errorCodes : List String)
  /-- A transport or timeout exception. -/
  | broken
  /-- There was no token for the call. -/
  | noToken (message : String)
  deriving DecidableEq, Repr

def Reply.ofAnswer : Except ClientError α → Reply α
  | .ok a                                       => .answer a
  | .error (.salesforceError status errorCodes) => .refusal status errorCodes
  | .error .transport                           => .broken

/-- A kind of call: the answers to it, and the counter that says which comes next. -/
structure CallKind (α : Type) where
  answers : SfClient → ℕ → Except ClientError α
  made : SfService → ℕ
  count : SfService → SfService

def queryKind : CallKind (List String) where
  answers := SfClient.query
  made := SfService.queryCalls
  count s := { s with queryCalls := s.queryCalls + 1 }

def createKind : CallKind CreateResult where
  answers := SfClient.create
  made := SfService.createCalls
  count s := { s with createCalls := s.createCalls + 1 }

variable (sf : SfClient)

/-- The token in use, or a new one; the message when there is none. -/
def openSession (s : SfService) : Option String × SfService :=
  if s.hasClient then (none, s)
  else
    match sf.token s.tokenCalls with
    | .ok _          => (none, { s with hasClient := true, tokenCalls := s.tokenCalls + 1 })
    | .error message => (some message, { s with tokenCalls := s.tokenCalls + 1 })

/-- The reply to a call: a 401 is asked again with a new token, and makes the service forget the
record type. -/
def replyTo (kind : CallKind α) (s : SfService) : Reply α × SfService :=
  match openSession sf s with
  | (some message, s₁) => (.noToken message, s₁)
  | (none, s₁) =>
    match kind.answers sf (kind.made s₁) with
    | .error (.salesforceError (some 401) _) =>
      match openSession sf { kind.count s₁ with hasClient := false, caseRecordTypeId := none } with
      | (some message, s₂) => (.noToken message, s₂)
      | (none, s₂)         => (.ofAnswer (kind.answers sf (kind.made s₂)), kind.count s₂)
    | answer => (.ofAnswer answer, kind.count s₁)

/-- The replies to the calls made for one Case; `none` for a call that is not made. -/
structure CaseReplies where
  recordType : Option (Reply (List String)) := none
  create : Option (Reply CreateResult) := none
  lookup : Option (Reply (List String)) := none
  deriving DecidableEq, Repr

/-- From the create on; its external id is looked up when it is there already. -/
def createReplies (recordType : Option (Reply (List String))) (s : SfService) :
    CaseReplies × SfService :=
  match replyTo sf createKind s with
  | (.refusal status errorCodes, s₁) =>
    if "DUPLICATE_VALUE" ∈ errorCodes then
      let (lookup, s₂) := replyTo sf queryKind s₁
      (⟨recordType, some (.refusal status errorCodes), some lookup⟩, s₂)
    else (⟨recordType, some (.refusal status errorCodes), none⟩, s₁)
  | (create, s₁) => (⟨recordType, some create, none⟩, s₁)

/-- The replies for one Case; the record type is asked for when it is not known. -/
def caseReplies (s : SfService) : CaseReplies × SfService :=
  match s.caseRecordTypeId with
  | some _ => createReplies sf none s
  | none   =>
    match replyTo sf queryKind s with
    | (.answer (id :: ids), s₁) =>
      createReplies sf (some (.answer (id :: ids))) { s₁ with caseRecordTypeId := some id }
    | (recordType, s₁) => ({ recordType := some recordType }, s₁)

/-- The replies for so many Cases, one after the other. -/
def repliesFor : ℕ → SfService → List CaseReplies
  | 0, _     => []
  | n + 1, s => (caseReplies sf s).1 :: repliesFor n (caseReplies sf s).2

/-! ### What they come to -/

/-- What the replies mean for the Case. -/
inductive Settlement where
  | gives (salesforceId : String)
  /-- To be tried again. -/
  | transient
  | permanent
  deriving DecidableEq, Repr

/-- A 4xx that is no 401. -/
def PermanentStatus (status : Option ℕ) : Prop :=
  ∃ n ∈ status, 400 ≤ n ∧ n < 500 ∧ n ≠ 401

instance : DecidablePred PermanentStatus := fun _ =>
  inferInstanceAs (Decidable (∃ n ∈ _, _))

def refusalSettlement (status : Option ℕ) : Settlement :=
  if PermanentStatus status then .permanent else .transient

/-- What the last of the replies says; `none` when it says nothing the push could write down. -/
def CaseReplies.settlement (r : CaseReplies) : Option Settlement :=
  match r.lookup, r.create, r.recordType with
  | some (.answer (id :: _)), _, _                   => some (.gives id)
  | some (.answer []), some (.refusal status _), _   => some (refusalSettlement status)
  | some (.noToken _), _, _                          => some .transient
  | some _, _, _                                     => none
  | none, some (.answer result), _                   =>
    some (if result.success then .gives result.id else .permanent)
  | none, some (.refusal status _), _                => some (refusalSettlement status)
  | none, some (.noToken _), _                       => some .transient
  | none, some .broken, _                            => none
  | none, none, some (.answer _)                     => some .transient
  | none, none, some (.noToken _)                    => some .transient
  | none, none, _                                    => none

/-- A query that ends in no `SalesforceError` and in no transport exception. -/
def Reply.Usable : Reply α → Prop
  | .answer _ | .noToken _ => True
  | .refusal .. | .broken  => False

instance (r : Reply α) : Decidable r.Usable := by
  cases r <;> unfold Reply.Usable <;> infer_instance

/-- The record-type query and the lookup are usable, and the create ends in no transport
exception. -/
structure CaseReplies.Covered (r : CaseReplies) : Prop where
  recordType : ∀ q ∈ r.recordType, q.Usable
  create : ∀ c ∈ r.create, c ≠ .broken
  lookup : ∀ q ∈ r.lookup, q.Usable

instance (r : CaseReplies) : Decidable r.Covered :=
  decidable_of_iff ((∀ q ∈ r.recordType, q.Usable) ∧ (∀ c ∈ r.create, c ≠ .broken) ∧
      ∀ q ∈ r.lookup, q.Usable)
    ⟨fun h => ⟨h.1, h.2.1, h.2.2⟩, fun h => ⟨h.recordType, h.create, h.lookup⟩⟩

/-! ### The service gives the replies -/

/-- The outcome of a call, of its reply. -/
def Reply.outcome : Reply α → Except PyException α
  | .answer a                   => .ok a
  | .refusal status errorCodes  => .error (.salesforceError status errorCodes)
  | .broken                     => .error .transport
  | .noToken message            => .error (.upstreamUnavailable message)

/-- The outcome of `create_case` is what a settlement says. -/
def SettledAs (externalId : String) :
    Option Settlement → Except PyException SalesforceCaseRef → Prop
  | some (.gives id), out  => out = .ok ⟨id, externalId⟩
  | some .transient, out   => ∃ message, out = .error (.upstreamUnavailable message)
  | some .permanent, out   => ∃ message, out = .error (.badRequest message)
  | none, out              => ∃ e, out = .error e ∧ e.isAfm = false

variable {sf} {s : SfService}

lemma outcome_ofAnswer (answer : Except ClientError α) :
    (Reply.ofAnswer answer).outcome = answer.mapError ClientError.toPy := by
  rcases answer with e | a
  · cases e <;> rfl
  · rfl

lemma client_of_token {s₁ : SfService} (h : openSession sf s = (none, s₁)) :
    client sf s = (.ok (), s₁) ∧ s₁.hasClient = true := by
  unfold openSession at h
  unfold client
  split_ifs at h ⊢ with hclient
  · obtain ⟨-, rfl⟩ := Prod.mk.inj h
    exact ⟨rfl, hclient⟩
  · cases htoken : sf.token s.tokenCalls with
    | ok =>
      rw [htoken] at h
      obtain ⟨-, rfl⟩ := Prod.mk.inj h
      exact ⟨rfl, rfl⟩
    | error message => simp [htoken] at h

lemma client_of_noToken {message : String} {s₁ : SfService}
    (h : openSession sf s = (some message, s₁)) :
    client sf s = (.error (.upstreamUnavailable message), s₁) := by
  unfold openSession at h
  unfold client
  split_ifs at h ⊢ with hclient
  · simp at h
  · cases htoken : sf.token s.tokenCalls with
    | ok => simp [htoken] at h
    | error message =>
      rw [htoken] at h
      obtain ⟨hmessage, rfl⟩ := Prod.mk.inj h
      rw [Option.some.inj hmessage]

/-- The call of a kind, as the service makes it. -/
def callOf (sf : SfClient) (kind : CallKind α) : SfM α :=
  (client sf).andThen fun _ s =>
    ((kind.answers sf (kind.made s)).mapError ClientError.toPy, kind.count s)

lemma queryCall_eq : queryCall sf = callOf sf queryKind := rfl

lemma createCall_eq : createCall sf = callOf sf createKind := rfl

lemma callOf_of_token {kind : CallKind α} {s₁ : SfService} (h : openSession sf s = (none, s₁)) :
    callOf sf kind s =
      ((kind.answers sf (kind.made s₁)).mapError ClientError.toPy, kind.count s₁) := by
  rw [callOf, SfM.andThen, (client_of_token h).1]

lemma callOf_of_noToken {kind : CallKind α} {message : String} {s₁ : SfService}
    (h : openSession sf s = (some message, s₁)) :
    callOf sf kind s = (.error (.upstreamUnavailable message), s₁) := by
  rw [callOf, SfM.andThen, client_of_noToken h]

/-- A call repeated after a 401 has the outcome of its reply. -/
lemma withSessionRetry_callOf (kind : CallKind α) (s : SfService) :
    withSessionRetry sf (callOf sf kind) s =
      ((replyTo sf kind s).1.outcome, (replyTo sf kind s).2) := by
  rw [withSessionRetry, replyTo]
  rcases hopen : openSession sf s with ⟨_ | message, s₁⟩
  · rw [callOf_of_token hopen]
    simp only
    split
    next codes s' heq =>
      -- The first answer is a 401.
      obtain ⟨hanswer, rfl⟩ := Prod.mk.inj heq
      have hfirst : kind.answers sf (kind.made s₁) =
          .error (.salesforceError (some 401) codes) := by
        cases hfirst : kind.answers sf (kind.made s₁) with
        | ok a => simp [hfirst, Except.mapError] at hanswer
        | error e =>
          rw [hfirst] at hanswer
          cases e with
          | transport => simp [Except.mapError, ClientError.toPy] at hanswer
          | salesforceError status codes' =>
            simpa [Except.mapError, ClientError.toPy] using hanswer
      rw [hfirst]
      simp only [SfM.andThen, reauth]
      rcases hagain : openSession sf
        { kind.count s₁ with hasClient := false, caseRecordTypeId := none } with ⟨_ | message, s₂⟩
      · obtain ⟨hclient, hhas⟩ := client_of_token hagain
        have hkept : openSession sf s₂ = (none, s₂) := by rw [openSession, if_pos hhas]
        rw [hclient]
        simp only
        rw [callOf_of_token hkept, outcome_ofAnswer]
      · rw [client_of_noToken hagain]
        rfl
    next r hne =>
      split
      next codes hfirst =>
        rw [hfirst] at hne
        exact absurd rfl (hne codes (kind.count s₁))
      next => rw [outcome_ofAnswer]
  · rw [callOf_of_noToken hopen]
    rfl

/-! ### A create -/

/-- `create_case` once it has its fields. -/
def submitCase (sf : SfClient) (externalId : String) : SfM SalesforceCaseRef := fun s =>
  match withSessionRetry sf (createCall sf) s with
  | (.error (.salesforceError status errorCodes), s') =>
    if isDuplicateExternalId errorCodes then
      match findCaseIdByExternalId sf s' with
      | (.ok (some existing), s'') => (.ok ⟨existing, externalId⟩, s'')
      | (.ok none, s'') =>
        (.error (translateSfError status "Salesforce Case create failed"), s'')
      | (.error e, s'') => (.error e, s'')
    else (.error (translateSfError status "Salesforce Case create failed"), s')
  | (.error e, s') => (.error e, s')
  | (.ok result, s') =>
    if result.success then (.ok ⟨result.id, externalId⟩, s')
    else (.error (.badRequest "Salesforce Case create failed"), s')

lemma createCase_eq (payload : CaseCreateInput) : createCase sf payload =
    (toSfFields sf payload).andThen fun _ => submitCase sf payload.externalId := rfl

/-- A refusal is translated as the settlement has it. -/
lemma settledAs_translateSfError (status : Option ℕ) (message externalId : String) :
    SettledAs externalId (some (refusalSettlement status))
      (.error (translateSfError status message)) := by
  have hiff : translateSfError status message = .badRequest message ↔ PermanentStatus status :=
    (translateSfError_permanent_iff status message).trans (by simp [PermanentStatus])
  by_cases hpermanent : PermanentStatus status
  · rw [refusalSettlement, if_pos hpermanent, hiff.mpr hpermanent]
    exact ⟨message, rfl⟩
  · rw [refusalSettlement, if_neg hpermanent]
    have hnot : translateSfError status message ≠ .badRequest message := mt hiff.mp hpermanent
    exact ⟨message, congrArg _ ((translateSfError_cases status message).resolve_left hnot)⟩

lemma findCaseIdByExternalId_eq (s : SfService) : findCaseIdByExternalId sf s =
    ((replyTo sf queryKind s).1.outcome.map List.head?, (replyTo sf queryKind s).2) := by
  rw [findCaseIdByExternalId, SfM.andThen, queryCall_eq, withSessionRetry_callOf]
  cases (replyTo sf queryKind s).1 <;> rfl

/-- From the create on, what the replies come to is what happens. -/
lemma submitCase_settled (recordType : Option (Reply (List String))) (externalId : String)
    (s : SfService) :
    SettledAs externalId (createReplies sf recordType s).1.settlement
        (submitCase sf externalId s).1 ∧
      (submitCase sf externalId s).2 = (createReplies sf recordType s).2 := by
  rw [submitCase, createReplies, createCall_eq, withSessionRetry_callOf]
  rcases replyTo sf createKind s with ⟨reply, s₁⟩
  cases reply with
  | answer result =>
    simp only [Reply.outcome, CaseReplies.settlement]
    by_cases hsuccess : result.success = true
    · simp [hsuccess, SettledAs]
    · simp [hsuccess, SettledAs]
  | broken => simp [Reply.outcome, CaseReplies.settlement, SettledAs, PyException.isAfm]
  | noToken message => simp [Reply.outcome, CaseReplies.settlement, SettledAs]
  | refusal status codes =>
    simp only [Reply.outcome, isDuplicateExternalId, List.contains_iff_mem]
    by_cases hdup : "DUPLICATE_VALUE" ∈ codes
    · rw [if_pos hdup, if_pos hdup, findCaseIdByExternalId_eq]
      rcases replyTo sf queryKind s₁ with ⟨lookup, s₂⟩
      cases lookup with
      | answer ids =>
        cases ids with
        | nil => exact ⟨settledAs_translateSfError _ _ _, rfl⟩
        | cons id ids => exact ⟨rfl, rfl⟩
      | refusal status' codes' => exact ⟨⟨_, rfl, rfl⟩, rfl⟩
      | broken => exact ⟨⟨_, rfl, rfl⟩, rfl⟩
      | noToken message => exact ⟨⟨message, rfl⟩, rfl⟩
    · rw [if_neg hdup, if_neg hdup]
      exact ⟨settledAs_translateSfError _ _ _, rfl⟩

/-- `create_case` comes to what the last of the replies says, and leaves the service to the next
call. -/
theorem createCase_settled (sf : SfClient) (payload : CaseCreateInput) (s : SfService) :
    SettledAs payload.externalId (caseReplies sf s).1.settlement (createCase sf payload s).1 ∧
      (createCase sf payload s).2 = (caseReplies sf s).2 := by
  rw [createCase_eq, caseReplies, toSfFields]
  simp only [SfM.andThen, caseRecordType]
  cases hcached : s.caseRecordTypeId with
  | some id => exact submitCase_settled none payload.externalId s
  | none =>
    simp only [queryCall_eq, withSessionRetry_callOf]
    rcases replyTo sf queryKind s with ⟨reply, s₁⟩
    cases reply with
    | answer ids =>
      cases ids with
      | nil => exact ⟨⟨_, rfl⟩, rfl⟩
      | cons id ids => exact submitCase_settled _ payload.externalId _
    | refusal status codes => exact ⟨⟨_, rfl, rfl⟩, rfl⟩
    | broken => exact ⟨⟨_, rfl, rfl⟩, rfl⟩
    | noToken message => exact ⟨⟨message, rfl⟩, rfl⟩

/-! ### Coverage -/

lemma createReplies_covered_iff (recordType : Option (Reply (List String)))
    (husable : ∀ q ∈ recordType, q.Usable) (s : SfService) :
    (createReplies sf recordType s).1.settlement ≠ none ↔
      (createReplies sf recordType s).1.Covered := by
  rw [createReplies]
  rcases replyTo sf createKind s with ⟨reply, s₁⟩
  cases reply with
  | answer result =>
    exact iff_of_true (by simp [CaseReplies.settlement]) ⟨husable, by simp, by simp⟩
  | broken =>
    refine iff_of_false (by simp [CaseReplies.settlement]) fun h => ?_
    exact h.create _ rfl rfl
  | noToken message =>
    exact iff_of_true (by simp [CaseReplies.settlement]) ⟨husable, by simp, by simp⟩
  | refusal status codes =>
    simp only
    by_cases hdup : "DUPLICATE_VALUE" ∈ codes
    · rw [if_pos hdup]
      rcases replyTo sf queryKind s₁ with ⟨lookup, s₂⟩
      have hcovered : CaseReplies.Covered ⟨recordType, some (.refusal status codes), some lookup⟩ ↔
          lookup.Usable :=
        ⟨fun h => h.lookup _ rfl, fun h => ⟨husable, by simp, by simpa using h⟩⟩
      rw [hcovered]
      cases lookup with
      | answer ids => cases ids <;> simp [CaseReplies.settlement, Reply.Usable]
      | refusal status' codes' => simp [CaseReplies.settlement, Reply.Usable]
      | broken => simp [CaseReplies.settlement, Reply.Usable]
      | noToken message => simp [CaseReplies.settlement, Reply.Usable]
    · rw [if_neg hdup]
      exact iff_of_true (by simp [CaseReplies.settlement]) ⟨husable, by simp, by simp⟩

/-- The replies come to something exactly when they are covered. -/
lemma caseReplies_covered_iff (s : SfService) :
    (caseReplies sf s).1.settlement ≠ none ↔ (caseReplies sf s).1.Covered := by
  rw [caseReplies]
  cases s.caseRecordTypeId with
  | some id => exact createReplies_covered_iff none (by simp) s
  | none =>
    simp only
    rcases replyTo sf queryKind s with ⟨reply, s₁⟩
    cases reply with
    | answer ids =>
      cases ids with
      | nil =>
        refine iff_of_true (by simp [CaseReplies.settlement]) ⟨?_, by simp, by simp⟩
        simp [Reply.Usable]
      | cons id ids => exact createReplies_covered_iff _ (by simp [Reply.Usable]) _
    | refusal status codes =>
      refine iff_of_false (by simp [CaseReplies.settlement]) fun h => ?_
      exact h.recordType _ rfl
    | broken =>
      refine iff_of_false (by simp [CaseReplies.settlement]) fun h => ?_
      exact h.recordType _ rfl
    | noToken message =>
      refine iff_of_true (by simp [CaseReplies.settlement]) ⟨?_, by simp, by simp⟩
      simp [Reply.Usable]

end FleetMonitor
