import FleetMonitor.Positions.OpenSkyClient

/-!
# Bearer tokens

Whatever the clock and the two hosts answer, every request of the client carries the token that the
endpoint granted last, the endpoint is asked only when that token cannot be used, and a method makes
a bounded number of calls, the last of which decides how it ends.
-/

namespace FleetMonitor

open Library

variable (py : TextFunctions)

/-! ### Kinds of exchanges -/

namespace Exchange

def isPost : Exchange → Bool
  | .post _ _ => true
  | _         => false

def isGet : Exchange → Bool
  | .get _ _ _ _ => true
  | _            => false

/-- The token that is granted, and when it runs out. -/
def grant : Exchange → Option (String × FloatValue)
  | .post now answer =>
    (tokenOutcome py answer).toOption.map fun granted => (granted.1, tokenExpiry now granted.2)
  | _                => none

/-- The token endpoint grants a token. -/
def Grants (exchange : Exchange) : Prop := ∃ granted, exchange.grant py = some granted

/-- The API rejects the token. -/
def isRejectedGet : Exchange → Bool
  | .get _ _ _ (.response r) => r.status = 401 || r.status = 403
  | _                        => false

/-- The token or the credentials are rejected. -/
def isRejection : Exchange → Bool
  | .post _ (.response r) => r.status = 400 || r.status = 401 || r.status = 403
  | exchange              => exchange.isRejectedGet

/-- The request failed with a network error or a server error. -/
def isRetriedGet : Exchange → Bool
  | .get _ _ _ answer => answer.isRetried
  | _                 => false

end Exchange

open Exchange

/-! ### What justifies an exchange -/

/-- The token was granted for this very request: at the same reading of the clock, with nothing
since but one attempt of the request, if any, that is worth another one. -/
def GrantedFor (now : ℚ) (request : ApiRequest) (token : String) (granting : Exchange)
    (since : List Exchange) : Prop :=
  (∃ answer, granting = .post now answer) ∧ since.length ≤ 1 ∧
    ∀ x ∈ since, ∃ answer, x = .get now request token answer ∧ answer.isRetried = true

/-- The token is the one granted last. It has not run out, or it was granted for this very request,
and it has been rejected at most once. -/
def CarriesGrant (before : List Exchange) (now : ℚ) (request : ApiRequest) (token : String) :
    Prop :=
  ∃ granting since expiresAt, IsLast (Grants py) before granting since ∧
    granting.grant py = some (token, expiresAt) ∧
    (expiresAt.gt now = true ∨ GrantedFor now request token granting since) ∧
    since.countP isRejectedGet ≤ 1

/-- The token granted last, if there is one, has run out or there has been a rejection since. -/
def NeedsToken (before : List Exchange) (now : ℚ) : Prop :=
  ∀ granting since token expiresAt, IsLast (Grants py) before granting since →
    granting.grant py = some (token, expiresAt) →
    expiresAt.gt now = false ∨ ∃ x ∈ since, x.isRejection = true

def Warranted (before : List Exchange) : Exchange → Prop
  | .post now _              => NeedsToken py before now
  | .get now request token _ => CarriesGrant py before now request token

/-! ### How an exchange ends a method -/

/-- The exchange decides how the method ends. -/
def Exchange.Settles (notFoundOk : Bool) (outcome : Except OpenSkyError HttpResponse) :
    Exchange → Prop
  | .post _ answer    => ∃ e, tokenOutcome py answer = .error e ∧ outcome = .error e
  | .get _ _ _ answer => outcome = apiOutcome notFoundOk answer

/-- The method goes on after the exchange: a token was granted, a request is repeated, or something
was rejected. -/
def Exchange.GoesOn (exchange : Exchange) : Prop :=
  exchange.Grants py ∨ exchange.isRetriedGet = true ∨ exchange.isRejection = true

variable {py} {hosts : OpenSkyHosts} {request : ApiRequest} {notFoundOk : Bool} {now : ℚ}
  {token : String}
  {client client' : OpenSkyClient} {answer : HttpAnswer}

lemma not_grants_get : ¬(Exchange.get now request token answer).Grants py := by
  rintro ⟨granted, h⟩
  cases h

lemma apiOutcome_auth {text : String} (h : apiOutcome notFoundOk answer = .error (.auth text)) :
    (Exchange.get now request token answer).isRejectedGet = true := by
  cases answer with
  | networkError _ => cases h
  | response r =>
    by_cases hstatus : r.status = 401 ∨ r.status = 403
    · simpa [isRejectedGet] using hstatus
    · simp only [apiOutcome, if_neg hstatus] at h
      split_ifs at h <;> cases h

/-- The payload of the token endpoint raises no auth error. -/
lemma parseGrant_ne_auth (payload : Json) (text : String) :
    parseGrant py payload ≠ .error (.auth text) := by
  intro h
  cases payload with
  | obj fields =>
    rw [parseGrant] at h
    cases hname : strOrNone (JsonObject.get fields "access_token") with
    | none => simp [hname] at h
    | some name =>
      cases hnumber : (JsonObject.get fields "expires_in").number? with
      | none => simp [hname, hnumber] at h
      | some n =>
        simp only [hname, hnumber] at h
        split_ifs at h
        · cases h
        · cases hfloat : toFloat n <;> simp [hfloat, Except.mapError, Except.map] at h
  | _ => cases h

lemma tokenOutcome_auth {text : String} (h : tokenOutcome py answer = .error (.auth text)) :
    (Exchange.post now answer).isRejection = true := by
  cases answer with
  | networkError _ => cases h
  | response r =>
    by_cases hstatus : r.status = 400 ∨ r.status = 401 ∨ r.status = 403
    · simpa [isRejection, or_assoc] using hstatus
    · simp only [tokenOutcome, if_neg hstatus] at h
      split_ifs at h
      · cases h
      · cases hjson : r.json with
        | error text' => simp [hjson] at h
        | ok payload => exact absurd (by simpa [hjson] using h) (parseGrant_ne_auth payload text)

lemma not_rejected_of_retried (h : answer.isRetried = true) :
    (Exchange.get now request token answer).isRejectedGet = false := by
  cases answer with
  | networkError _ => rfl
  | response r =>
    simp only [HttpAnswer.isRetried, Bool.and_eq_true, decide_eq_true_eq] at h
    simp only [isRejectedGet, Bool.or_eq_false_iff, decide_eq_false_iff_not]
    omega

/-! ### The steps of a method -/

/-- What `_get_token` does: it takes the cached token, fails, or caches the one it is granted. -/
lemma getToken_cases (py : TextFunctions) (hosts : OpenSkyHosts) (client : OpenSkyClient)
    (now : ℚ) :
    (∃ token, client.liveToken now = some token ∧
      client.getToken py hosts now = (.ok token, client)) ∨
    (client.liveToken now = none ∧ ∃ answer,
      (∃ e, tokenOutcome py answer = .error e ∧
        client.getToken py hosts now = (.error e, client.record (.post now answer))) ∨
      ∃ token expiresIn, tokenOutcome py answer = .ok (token, expiresIn) ∧
        client.getToken py hosts now = (.ok token,
          (client.record (.post now answer)).cacheToken token (tokenExpiry now expiresIn))) := by
  cases hlive : client.liveToken now with
  | some token => exact .inl ⟨token, rfl, by simp [OpenSkyClient.getToken, hlive]⟩
  | none =>
    refine .inr ⟨rfl, hosts.token client.exchanges, ?_⟩
    cases houtcome : tokenOutcome py (hosts.token client.exchanges) with
    | error e => exact .inl ⟨e, rfl, by simp [OpenSkyClient.getToken, hlive, houtcome]⟩
    | ok granted =>
      exact .inr ⟨granted.1, granted.2, rfl, by simp [OpenSkyClient.getToken, hlive, houtcome]⟩

/-- What the loop does: the request is repeated while it is worth it, and the last answer is the
outcome. -/
lemma send_spec (hosts : OpenSkyHosts) (request : ApiRequest) (notFoundOk : Bool) (now : ℚ)
    (token : String) (left : ℕ) (client : OpenSkyClient) :
    ∃ (repeated : List HttpAnswer) (answer : HttpAnswer), repeated.length ≤ left ∧
      (∀ a ∈ repeated, a.isRetried = true) ∧
      client.send hosts request notFoundOk now token left = (apiOutcome notFoundOk answer,
        { client with exchanges := client.exchanges ++ repeated.map (.get now request token) ++
            [.get now request token answer] }) := by
  induction left generalizing client with
  | zero => exact ⟨[], hosts.api client.exchanges request token, by simp, by simp, by
      simp [OpenSkyClient.send, OpenSkyClient.record]⟩
  | succ left ih =>
    cases hretried : (hosts.api client.exchanges request token).isRetried with
    | false =>
      exact ⟨[], hosts.api client.exchanges request token, by simp, by simp, by
        simp [OpenSkyClient.send, OpenSkyClient.record, hretried]⟩
    | true =>
      obtain ⟨repeated, answer, hlength, hworth, hsend⟩ :=
        ih (client.record (.get now request token (hosts.api client.exchanges request token)))
      refine ⟨hosts.api client.exchanges request token :: repeated, answer, by simpa using hlength,
        ?_, ?_⟩
      · intro a ha
        rcases List.mem_cons.mp ha with rfl | ha
        · exact hretried
        · exact hworth a ha
      · simp only [OpenSkyClient.send, hretried, if_true, hsend]
        simp [OpenSkyClient.record]

/-! ### The calls of a method -/

lemma Exchange.Grants.not_rejection {exchange : Exchange} (h : exchange.Grants py) :
    exchange.isRejection = false := by
  obtain ⟨granted, h⟩ := h
  cases exchange with
  | get => cases h
  | post now answer =>
    cases answer with
    | networkError _ => rfl
    | response r =>
      by_cases hstatus : r.status = 400 ∨ r.status = 401 ∨ r.status = 403
      · simp [Exchange.grant, tokenOutcome, hstatus, Except.toOption] at h
      · simpa [isRejection, and_assoc] using hstatus

lemma not_rejection_of_retriedGet {exchange : Exchange} (h : exchange.isRetriedGet = true) :
    exchange.isRejection = false := by
  cases exchange with
  | post => cases h
  | get => exact not_rejected_of_retried h

/-- An exchange that settles on an auth error is a rejection. -/
lemma Exchange.Settles.rejection {exchange : Exchange} {text : String}
    (h : exchange.Settles py notFoundOk (.error (.auth text))) : exchange.isRejection = true := by
  cases exchange with
  | post now answer =>
    obtain ⟨e, he, heq⟩ := h
    cases heq
    exact tokenOutcome_auth he
  | get now request token answer => exact apiOutcome_auth h.symm

/-- The exchanges of `_get_with_retry`. -/
lemma getWithRetry_trace (py : TextFunctions) (hosts : OpenSkyHosts) (request : ApiRequest)
    (notFoundOk : Bool) (client : OpenSkyClient) :
    ∃ earlier last,
      (client.getWithRetry py hosts request notFoundOk).2.exchanges =
        client.exchanges ++ (earlier ++ [last]) ∧
      last.Settles py notFoundOk (client.getWithRetry py hosts request notFoundOk).1 ∧
      (∀ x ∈ earlier, x.Grants py ∨ x.isRetriedGet = true) ∧
      (earlier ++ [last]).countP isPost ≤ 1 ∧ (earlier ++ [last]).countP isGet ≤ 2 := by
  rw [OpenSkyClient.getWithRetry]
  rcases getToken_cases py hosts client (hosts.time client.exchanges) with
    ⟨token, -, htoken⟩ | ⟨-, answer, ⟨e, he, htoken⟩ | ⟨token, expiresIn, hgrant, htoken⟩⟩
  · -- a cached token
    obtain ⟨repeated, answer, hlength, hworth, hsend⟩ :=
      send_spec hosts request notFoundOk (hosts.time client.exchanges) token 1 client
    simp only [htoken, hsend]
    refine ⟨repeated.map (.get (hosts.time client.exchanges) request token),
      .get (hosts.time client.exchanges) request token answer, by simp, rfl, ?_, ?_, ?_⟩
    · intro x hx
      obtain ⟨a, ha, rfl⟩ := List.mem_map.mp hx
      exact .inr (hworth a ha)
    · simp [List.countP_map, List.countP_append, isPost, Function.comp_def]
    · simpa [List.countP_map, List.countP_append, isGet, Function.comp_def] using hlength
  · -- the endpoint grants none
    simp only [htoken]
    exact ⟨[], .post (hosts.time client.exchanges) answer,
      by simp [OpenSkyClient.record], ⟨e, he, rfl⟩,
      by simp, by simp [isPost], by simp [isGet]⟩
  · -- a token that is granted for the request
    obtain ⟨repeated, last, hlength, hworth, hsend⟩ :=
      send_spec hosts request notFoundOk (hosts.time client.exchanges) token 1
        ((client.record (.post (hosts.time client.exchanges) answer)).cacheToken token
          (tokenExpiry (hosts.time client.exchanges) expiresIn))
    simp only [htoken, hsend]
    refine ⟨.post (hosts.time client.exchanges) answer ::
      repeated.map (.get (hosts.time client.exchanges) request token),
      .get (hosts.time client.exchanges) request token last,
      by simp [OpenSkyClient.record, OpenSkyClient.cacheToken], rfl, ?_, ?_, ?_⟩
    · intro x hx
      rcases List.mem_cons.mp hx with rfl | hx
      · exact .inl ⟨_, by simp [Exchange.grant, hgrant, Except.toOption]; rfl⟩
      · obtain ⟨a, ha, rfl⟩ := List.mem_map.mp hx
        exact .inr (hworth a ha)
    · simp [List.countP_cons, List.countP_map, List.countP_append, isPost, Function.comp_def]
    · simpa [List.countP_cons, List.countP_map, List.countP_append, isGet, Function.comp_def]
        using hlength

/-- A method makes at most two requests of the token endpoint and at most four of the API. It goes
on only after a grant, a failure worth another attempt or a rejection, at most one of these, and it
ends with what its last exchange comes to. -/
theorem fetch_settled_by_last (py : TextFunctions) (hosts : OpenSkyHosts) (request : ApiRequest)
    (notFoundOk : Bool) (client : OpenSkyClient) :
    ∃ earlier last,
      (client.fetch py hosts request notFoundOk).2.exchanges = client.exchanges ++ (earlier ++ [last]) ∧
      last.Settles py notFoundOk (client.fetch py hosts request notFoundOk).1 ∧
      (∀ x ∈ earlier, x.GoesOn py) ∧ earlier.countP isRejection ≤ 1 ∧
      (earlier ++ [last]).countP isPost ≤ 2 ∧ (earlier ++ [last]).countP isGet ≤ 4 := by
  have hnone : ∀ l : List Exchange, (∀ x ∈ l, x.Grants py ∨ x.isRetriedGet = true) →
      l.countP isRejection = 0 := by
    intro l hl
    rw [List.countP_eq_zero]
    intro x hx
    rcases hl x hx with h | h
    · simp [h.not_rejection]
    · simp [not_rejection_of_retriedGet h]
  have hgoes : ∀ x : Exchange, x.Grants py ∨ x.isRetriedGet = true → x.GoesOn py := by
    rintro x (h | h)
    · exact .inl h
    · exact .inr (.inl h)
  obtain ⟨earlier, last, hexchanges, hsettles, hearlier, hposts, hgets⟩ :=
    getWithRetry_trace py hosts request notFoundOk client
  rw [OpenSkyClient.fetch]
  split
  · next text rejected hfirst =>
    -- the request is made again with a new token
    rw [hfirst] at hexchanges hsettles
    obtain ⟨earlier', last', hexchanges', hsettles', hearlier', hposts', hgets'⟩ :=
      getWithRetry_trace py hosts request notFoundOk rejected.clearToken
    refine ⟨earlier ++ [last] ++ earlier', last', ?_, hsettles', ?_, ?_, ?_, ?_⟩
    · rw [hexchanges', OpenSkyClient.clearToken, hexchanges]
      simp
    · intro x hx
      rcases List.mem_append.mp hx with hx | hx
      · rcases List.mem_append.mp hx with hx | hx
        · exact hgoes x (hearlier x hx)
        · obtain rfl := List.mem_singleton.mp hx
          exact .inr (.inr hsettles.rejection)
      · exact hgoes x (hearlier' x hx)
    · rw [List.countP_append, List.countP_append, hnone earlier hearlier, hnone earlier' hearlier']
      simpa using List.countP_le_length (p := isRejection) (l := [last])
    · rw [List.append_assoc, List.countP_append]
      omega
    · rw [List.append_assoc, List.countP_append]
      omega
  · exact ⟨earlier, last, hexchanges, hsettles, fun x hx => hgoes x (hearlier x hx),
      by rw [hnone earlier hearlier]; exact Nat.zero_le 1, by omega, by omega⟩

/-! ### Runs -/

/-- What holds of the client between two steps: its exchanges are warranted, a cached token is the
one granted last and has been rejected at most `k` times, and without one there has been a
rejection. -/
structure TokenInv (py : TextFunctions) (k : ℕ) (client : OpenSkyClient) : Prop where
  justified : Justified (Warranted py) client.exchanges
  cached : ∀ token, client.cachedToken = some token →
    ∃ granting since, IsLast (Grants py) client.exchanges granting since ∧
      granting.grant py = some (token, client.cachedTokenExpiresAt) ∧ since.countP isRejectedGet ≤ k
  cleared : client.cachedToken = none → ∀ granting since,
    IsLast (Grants py) client.exchanges granting since → ∃ x ∈ since, x.isRejection = true

/-- A token that was granted for the request, or has not run out, is about to be sent; after this
attempt `left` are left, of two. -/
structure Sending (py : TextFunctions) (k left : ℕ) (client : OpenSkyClient) (now : ℚ)
    (request : ApiRequest) (token : String) : Prop extends TokenInv py k client where
  token_cached : client.cachedToken = some token
  usable : client.cachedTokenExpiresAt.gt now = true ∨
    ∀ granting since, IsLast (Grants py) client.exchanges granting since →
      GrantedFor now request token granting since ∧ since.length + left ≤ 1

variable {k left : ℕ}

lemma TokenInv.mono {k' : ℕ} (h : TokenInv py k client) (hk : k ≤ k') : TokenInv py k' client where
  justified := h.justified
  cached token htoken := by
    obtain ⟨granting, since, hlast, hgrant, hcount⟩ := h.cached token htoken
    exact ⟨granting, since, hlast, hgrant, hcount.trans hk⟩
  cleared := h.cleared

/-- A token is asked for only when the cached one cannot be used. -/
lemma TokenInv.needsToken (h : TokenInv py k client) (hlive : client.liveToken now = none) :
    NeedsToken py client.exchanges now := by
  intro granting since token expiresAt hlast hgrant
  cases hcached : client.cachedToken with
  | none => exact .inr (h.cleared hcached granting since hlast)
  | some cached =>
    obtain ⟨granting', since', hlast', hgrant', -⟩ := h.cached cached hcached
    obtain ⟨rfl, rfl⟩ := hlast.unique hlast'
    rw [hgrant'] at hgrant
    simp only [Option.some.injEq, Prod.mk.injEq] at hgrant
    rw [← hgrant.2]
    exact .inl (by simpa [OpenSkyClient.liveToken, hcached] using hlive)

/-- A request to the endpoint that grants nothing. -/
lemma TokenInv.record_post (h : TokenInv py k client) (hneeds : NeedsToken py client.exchanges now)
    (hnot : ¬(Exchange.post now answer).Grants py) :
    TokenInv py k (client.record (.post now answer)) where
  justified := Justified.snoc_iff.mpr ⟨h.justified, hneeds⟩
  cached token htoken := by
    obtain ⟨granting, since, hlast, hgrant, hcount⟩ := h.cached token htoken
    refine ⟨granting, _, hlast.append [.post now answer] (by simpa using hnot), hgrant, ?_⟩
    simpa [List.countP_append, isRejectedGet] using hcount
  cleared hnone granting since hlast := by
    rcases IsLast.snoc_iff.mp hlast with ⟨hgrants, -, -⟩ | ⟨-, since', rfl, hlast'⟩
    · exact absurd hgrants hnot
    · obtain ⟨x, hx, hrejection⟩ := h.cleared hnone granting since' hlast'
      exact ⟨x, List.mem_append_left _ hx, hrejection⟩

/-- A token that is granted is the last one, and nothing has rejected it yet. -/
lemma Sending.of_grant {expiresIn : FloatValue} (h : TokenInv py k client)
    (hneeds : NeedsToken py client.exchanges now)
    (hgrant : tokenOutcome py answer = .ok (token, expiresIn)) :
    Sending py 0 1 ((client.record (.post now answer)).cacheToken token (tokenExpiry now expiresIn))
      now request token := by
  have hgranted :
      (Exchange.post now answer).grant py = some (token, tokenExpiry now expiresIn) := by
    simp [Exchange.grant, hgrant, Except.toOption]
  have hlast : IsLast (Grants py) (client.exchanges ++ [.post now answer]) (.post now answer) [] :=
    IsLast.snoc ⟨_, hgranted⟩
  constructor
  · constructor
    · exact Justified.snoc_iff.mpr ⟨h.justified, hneeds⟩
    · intro token' htoken
      obtain rfl := Option.some.inj htoken
      exact ⟨_, [], hlast, hgranted, by simp⟩
    · intro hnone
      cases hnone
  · rfl
  · refine .inr fun granting since hlast' => ?_
    obtain ⟨rfl, rfl⟩ := hlast.unique hlast'
    exact ⟨⟨⟨answer, rfl⟩, by simp, by simp⟩, by simp⟩

/-- What `_get_token` leaves. -/
lemma TokenInv.getToken (h : TokenInv py k client) (hosts : OpenSkyHosts) (now : ℚ) :
    TokenInv py k (client.getToken py hosts now).2 ∧
      ∀ token, (client.getToken py hosts now).1 = .ok token → ∀ request,
        Sending py k 1 (client.getToken py hosts now).2 now request token := by
  rcases getToken_cases py hosts client now with
    ⟨token, hlive, htoken⟩ | ⟨hlive, answer, ⟨e, he, htoken⟩ | ⟨token, expiresIn, hgrant, htoken⟩⟩
  · rw [htoken]
    refine ⟨h, fun token' heq request => ?_⟩
    obtain rfl := Except.ok.inj heq
    obtain ⟨hcached, hgt⟩ := Option.filter_eq_some_iff.mp hlive
    exact { h with token_cached := hcached, usable := .inl hgt }
  · rw [htoken]
    refine ⟨h.record_post (h.needsToken hlive) ?_, fun token' heq => nomatch heq⟩
    rintro ⟨granted, hgranted⟩
    simp [Exchange.grant, he, Except.toOption] at hgranted
  · rw [htoken]
    have hsending : ∀ request, Sending py 0 1 _ now request token :=
      fun request => Sending.of_grant h (h.needsToken hlive) hgrant
    have hinv := (hsending usBbox).toTokenInv.mono (Nat.zero_le k)
    refine ⟨hinv, fun token' heq request => ?_⟩
    obtain rfl := Except.ok.inj heq
    exact { hinv with
      token_cached := (hsending request).token_cached
      usable := (hsending request).usable }

/-- A request that is sent carries the token granted last. -/
lemma Sending.carriesGrant (h : Sending py k left client now request token) (hk : k ≤ 1) :
    CarriesGrant py client.exchanges now request token := by
  obtain ⟨granting, since, hlast, hgrant, hcount⟩ := h.cached token h.token_cached
  refine ⟨granting, since, _, hlast, hgrant, ?_, hcount.trans hk⟩
  exact h.usable.imp_right fun hgranted => (hgranted granting since hlast).1

/-- A request that is sent: one more rejection at most. -/
lemma Sending.record_get (h : Sending py k left client now request token) (hk : k ≤ 1)
    (answer : HttpAnswer) : TokenInv py (k + 1) (client.record (.get now request token answer)) ∧
      ((Exchange.get now request token answer).isRejectedGet = false →
        TokenInv py k (client.record (.get now request token answer))) := by
  obtain ⟨granting, since, hlast, hgrant, hcount⟩ := h.cached token h.token_cached
  have hlast' := hlast.append [Exchange.get now request token answer] (by simp [not_grants_get])
  have hcount' : (since ++ [Exchange.get now request token answer]).countP isRejectedGet ≤
      k + [Exchange.get now request token answer].countP isRejectedGet := by
    rw [List.countP_append]
    exact Nat.add_le_add_right hcount _
  have hinv : ∀ k', k + [Exchange.get now request token answer].countP isRejectedGet ≤ k' →
      TokenInv py k' (client.record (.get now request token answer)) := by
    intro k' hk'
    constructor
    · exact Justified.snoc_iff.mpr ⟨h.justified, h.carriesGrant hk⟩
    · intro token' htoken
      obtain rfl := Option.some.inj (h.token_cached.symm.trans htoken)
      exact ⟨granting, _, hlast', hgrant, hcount'.trans hk'⟩
    · intro hnone
      rw [OpenSkyClient.record, h.token_cached] at hnone
      cases hnone
  constructor
  · apply hinv
    exact Nat.add_le_add_left List.countP_le_length k
  · intro hfalse
    apply hinv
    simp [hfalse]

/-- A request that is repeated leaves the token in use. -/
lemma Sending.repeat (h : Sending py k (left + 1) client now request token) (hk : k ≤ 1)
    (hretried : answer.isRetried = true) :
    Sending py k left (client.record (.get now request token answer)) now request token where
  toTokenInv := (h.record_get hk answer).2 (not_rejected_of_retried hretried)
  token_cached := h.token_cached
  usable := by
    rcases h.usable with hgt | hall
    · exact .inl hgt
    · refine .inr fun granting since hlast => ?_
      rcases IsLast.snoc_iff.mp hlast with ⟨hgrants, -, -⟩ | ⟨-, since', rfl, hlast'⟩
      · exact absurd hgrants not_grants_get
      · obtain ⟨⟨hpost, -, hsince⟩, hleft⟩ := hall granting since' hlast'
        have hlength : (since' ++ [Exchange.get now request token answer]).length + left ≤ 1 := by
          rw [List.length_append, List.length_singleton]
          omega
        refine ⟨⟨hpost, by omega, fun x hx => ?_⟩, hlength⟩
        rcases List.mem_append.mp hx with hx | hx
        · exact hsince x hx
        · exact ⟨answer, List.mem_singleton.mp hx, hretried⟩

/-- What the loop over the attempts leaves. -/
lemma Sending.send (h : Sending py k left client now request token) (hk : k ≤ 1)
    (hosts : OpenSkyHosts) (notFoundOk : Bool) :
    TokenInv py (k + 1) (client.send hosts request notFoundOk now token left).2 ∧
      ((∀ text, (client.send hosts request notFoundOk now token left).1 ≠ .error (.auth text)) →
        TokenInv py k (client.send hosts request notFoundOk now token left).2) := by
  have hlast : ∀ answer : HttpAnswer, (∀ text, apiOutcome notFoundOk answer ≠ .error (.auth text)) →
      (Exchange.get now request token answer).isRejectedGet = false := by
    intro answer hnot
    cases answer with
    | networkError _ => rfl
    | response r =>
      by_cases hstatus : r.status = 401 ∨ r.status = 403
      · exact absurd (if_pos hstatus) (hnot _)
      · simpa [isRejectedGet] using hstatus
  induction left generalizing client with
  | zero =>
    rw [OpenSkyClient.send]
    exact ⟨(h.record_get hk _).1, fun hnot => (h.record_get hk _).2 (hlast _ hnot)⟩
  | succ left ih =>
    simp only [OpenSkyClient.send]
    split
    · next hretried => exact ih (h.repeat hk hretried)
    · exact ⟨(h.record_get hk _).1, fun hnot => (h.record_get hk _).2 (hlast _ hnot)⟩

/-- What `_get_with_retry` leaves. -/
lemma TokenInv.getWithRetry (h : TokenInv py k client) (hk : k ≤ 1) (hosts : OpenSkyHosts)
    (request : ApiRequest) (notFoundOk : Bool) :
    TokenInv py (k + 1) (client.getWithRetry py hosts request notFoundOk).2 ∧
      ((∀ text, (client.getWithRetry py hosts request notFoundOk).1 ≠ .error (.auth text)) →
        TokenInv py k (client.getWithRetry py hosts request notFoundOk).2) := by
  rw [OpenSkyClient.getWithRetry]
  obtain ⟨hinv, hsending⟩ := h.getToken hosts (hosts.time client.exchanges)
  split
  · next e asked htoken =>
    rw [htoken] at hinv
    exact ⟨hinv.mono (Nat.le_succ k), fun _ => hinv⟩
  · next token asked htoken =>
    rw [htoken] at hsending
    exact (hsending token rfl request).send hk hosts notFoundOk

/-- After a rejection the cache is dropped. -/
lemma TokenInv.clearToken (h : TokenInv py k client) {earlier : List Exchange} {last : Exchange}
    (hlast : client.exchanges = earlier ++ [last]) (hrejection : last.isRejection = true) :
    TokenInv py 0 client.clearToken where
  justified := h.justified
  cached token htoken := nomatch htoken
  cleared _ granting since hgranting := by
    rw [OpenSkyClient.clearToken, hlast] at hgranting
    rcases IsLast.snoc_iff.mp hgranting with ⟨hgrants, -, -⟩ | ⟨-, since', rfl, -⟩
    · rw [hgrants.not_rejection] at hrejection
      cases hrejection
    · exact ⟨last, by simp, hrejection⟩

/-- Between two methods a cached token has been rejected at most once. -/
lemma TokenInv.fetch (h : TokenInv py 1 client) (hosts : OpenSkyHosts) (request : ApiRequest)
    (notFoundOk : Bool) : TokenInv py 1 (client.fetch py hosts request notFoundOk).2 := by
  obtain ⟨hinv, hkeeps⟩ := h.getWithRetry le_rfl hosts request notFoundOk
  obtain ⟨earlier, last, hexchanges, hsettles, -⟩ :=
    getWithRetry_trace py hosts request notFoundOk client
  rw [OpenSkyClient.fetch]
  split
  · next text rejected hfirst =>
    rw [hfirst] at hinv hexchanges hsettles
    rw [← List.append_assoc] at hexchanges
    exact ((hinv.clearToken hexchanges hsettles.rejection).getWithRetry (Nat.zero_le 1) hosts request
      notFoundOk).1
  · next hnot =>
    apply hkeeps
    intro text htext
    exact hnot text _ (Prod.ext htext rfl)

/-- A call of a method. -/
inductive ClientCall where
  | fetchStates
  | fetchFlightHistory (icao24 : String) (first last : ℤ)
  deriving DecidableEq, Repr

/-- What a call leaves of the client. -/
def ClientCall.run (py : TextFunctions) (hosts : OpenSkyHosts) (client : OpenSkyClient) :
    ClientCall → OpenSkyClient
  | .fetchStates                           => (client.fetchStates py hosts).2
  | .fetchFlightHistory icao24 first last  =>
    (OpenSkyClient.fetchFlightHistory py hosts icao24 first last client).2

lemma fetchStates_snd :
    (client.fetchStates py hosts).2 = (client.fetch py hosts usBbox false).2 := by
  rw [OpenSkyClient.fetchStates]
  split <;> simp [*]

lemma fetchFlightHistory_snd {icao24 : String} {first last : ℤ} :
    (OpenSkyClient.fetchFlightHistory py hosts icao24 first last client).2 =
      (client.fetch py hosts (.flightsAircraft (py.lower icao24) first last) true).2 := by
  rw [OpenSkyClient.fetchFlightHistory]
  split <;> simp [*]

/-- Over all calls of a client, every request carries the token granted last, which has not run out
or was granted for that very request, and has not been rejected twice; and a token is asked for only
when there is none, or that one has run out or something was rejected since. -/
theorem exchanges_warranted (py : TextFunctions) (hosts : OpenSkyHosts) (calls : List ClientCall) :
    Justified (Warranted py) (calls.foldl (ClientCall.run py hosts) {}).exchanges := by
  have hrun : ∀ (calls : List ClientCall) (client : OpenSkyClient), TokenInv py 1 client →
      TokenInv py 1 (calls.foldl (ClientCall.run py hosts) client) := by
    intro calls
    induction calls with
    | nil => exact fun _ h => h
    | cons call calls ih =>
      intro client h
      refine ih _ ?_
      cases call with
      | fetchStates =>
        rw [ClientCall.run, fetchStates_snd]
        exact h.fetch hosts usBbox false
      | fetchFlightHistory icao24 first last =>
        rw [ClientCall.run, fetchFlightHistory_snd]
        exact h.fetch hosts _ true
  refine (hrun calls {} ?_).justified
  constructor
  · exact Justified.nil
  · intro token htoken
    cases htoken
  · intro _ granting since hlast
    cases hlast.mem

end FleetMonitor
