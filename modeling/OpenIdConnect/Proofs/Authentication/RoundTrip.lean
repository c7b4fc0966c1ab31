import OpenIdConnect.Proofs.Authentication.Rereading
import OpenIdConnect.Proofs.Parameter.Returns
import OpenIdConnect.Proofs.Url.Query

/-!
# Authentication requests come back

A request that was read from a query string is written into one again from which the same request
is read, but for an empty claims request and empty lists of languages, which are left out.  A
request that was read from a URL comes back from the URL that it is written as.
-/

namespace OpenIdConnect

namespace AuthenticationRequest

variable {α : Type}

/-- A request as it is spoken: an empty claims request or list of languages says nothing. -/
def spoken (r : AuthenticationRequest) : AuthenticationRequest :=
  { r with
    claims := r.claims.filter fun claims => !claims.isEmpty
    uiLocales := r.uiLocales.filter fun tags => !tags.isEmpty
    claimsLocales := r.claimsLocales.filter fun tags => !tags.isEmpty }

/-- The texts of the URLs and of the claims in a request are read as these. -/
structure Legible (r : AuthenticationRequest) : Prop where
  redirectUri : ∀ u, r.redirectUri = some u → Url.parse u.text = .ok u
  requestUri : ∀ u, r.requestUri = some u → Url.parse u.text = .ok u
  resource : ∀ u, r.resource = some u → Url.parse u.text = .ok u
  claims : ∀ c, r.claims = some c → Json.read c.text = .ok c.toObject.toJson

/-- The parameters of a request that was read from a query string, read from another. -/
structure Resent (params : Object) (r : AuthenticationRequest) (received : Object) : Prop where
  textual : params.Textual
  fields : ReadFrom params r
  lookup : ∀ k, received.get? k = (r.parameters.get? k).bind Object.queried

namespace Resent

variable {params received : Object} {r : AuthenticationRequest}

theorem apart (resent : Resent params r received) : r.Apart :=
  resent.fields.apart

theorem get?_name (resent : Resent params r received) {p : Parameter α} {value : Option α}
    (among : entry p value ∈ r.entries) :
    received.get? p.name = (value.map p.write).bind Object.queried := by
  rw [resent.lookup, get?_parameters resent.apart among]

theorem read?_none (resent : Resent params r received) {p : Parameter α}
    (among : entry p none ∈ r.entries) : received.read? p = none := by
  unfold Object.read?
  rw [resent.get?_name among]
  rfl

theorem read?_some (resent : Resent params r received) {p : Parameter α} {written read : α}
    (among : entry p (some written) ∈ r.entries) (returns : p.Returns written read) :
    received.read? p = some (.ok read) := by
  obtain ⟨value, queried, result⟩ := returns
  unfold Object.read?
  rw [resent.get?_name among, Option.map_some, Option.bind_some, queried, Option.map_some, result]

/-- A field whose values return is read again as it was. -/
theorem field (resent : Resent params r received) {p : Parameter α} (value : Option α)
    (found : params.read? p = value.map .ok) (among : entry p value ∈ r.entries)
    (returns : ∀ s a, value = some a → s ≠ "" → p.read (.string s) = .ok a → p.Returns a a) :
    received.read? p = value.map .ok := by
  cases here : value with
  | none =>
      subst here
      exact resent.read?_none among
  | some a =>
      rw [here] at found among
      obtain ⟨s, filled, read⟩ := AuthenticationRequest.exists_text resent.textual found
      exact resent.read?_some among (returns s a here filled read)

theorem text {name : String} (resent : Resent params r received) (value : Option String)
    (found : params.read? (.text name) = value.map .ok)
    (among : entry (.text name) value ∈ r.entries) :
    received.read? (.text name) = value.map .ok :=
  resent.field value found among fun _ _ _ filled read => Parameter.returns_text filled read

/-- A list of languages is read again, unless it is empty. -/
theorem locales {name : String} (resent : Resent params r received)
    (value : Option (List LanguageTag))
    (found : params.read? (.locales name) = value.map .ok)
    (among : entry (.locales name) value ∈ r.entries) :
    received.read? (.locales name) = (value.filter fun tags => !tags.isEmpty).map .ok := by
  cases value with
  | none => exact resent.read?_none among
  | some tags =>
      obtain ⟨s, filled, read⟩ := AuthenticationRequest.exists_text resent.textual found
      cases tags with
      | nil =>
          unfold Object.read?
          rw [resent.get?_name among]
          rfl
      | cons tag rest =>
          exact resent.read?_some among (Parameter.returns_locales read (List.cons_ne_nil tag rest))

/-- A claims request is read again as one that asks for the same, unless it is empty. -/
theorem exists_claims (resent : Resent params r received) (legible : r.Legible) :
    ∃ again : Option Claims.Request, (again == r.spoken.claims) = true ∧
      received.read? .claims = again.map .ok := by
  have among : entry .claims r.spoken.claims ∈ r.entries := by
    simp [entries, spoken]
  cases said : r.spoken.claims with
  | none =>
      rw [said] at among
      exact ⟨none, rfl, resent.read?_none among⟩
  | some c =>
      rw [said] at among
      have whole : r.claims = some c := (Option.filter_eq_some_iff.mp said).1
      have found := resent.fields.claims
      rw [whole] at found
      obtain ⟨s, _, read⟩ := AuthenticationRequest.exists_text resent.textual found
      obtain ⟨c', returns, same⟩ := Parameter.returns_claims read (legible.claims c whole)
      exact ⟨some c', same, resent.read?_some among returns⟩

/-- Custom parameters are read again as they were. -/
theorem custom (resent : Resent params r received) :
    r.custom = received.eraseAll Parameter.registered := by
  refine Object.ext_get? fun k => ?_
  rw [Object.get?_eraseAll]
  by_cases registered : k ∈ Parameter.registered
  · rw [if_pos registered]
    exact resent.apart k registered
  · have kept : r.custom.get? k = params.get? k := by
      rw [resent.fields.custom, Object.get?_eraseAll, if_neg registered]
    rw [if_neg registered, resent.lookup, get?_parameters_custom registered, kept]
    cases found : params.get? k with
    | none => rfl
    | some value =>
        obtain ⟨s, filled, same⟩ := resent.textual k value found
        subst same
        exact (Object.queried_string filled).symm

theorem scope (resent : Resent params r received) (openid : r.scope.hasOpenid = true) :
    received.read? .scope = some (.ok r.scope) := by
  have among : entry .scope (some r.scope) ∈ r.entries := by
    simp [entries]
  obtain ⟨s, _, read⟩ := AuthenticationRequest.exists_text resent.textual resent.fields.scope
  refine resent.read?_some among (Parameter.returns_scope read ?_)
  intro empty
  unfold Scope.hasOpenid Scope.contains at openid
  rw [empty] at openid
  cases openid

/-- The parameters are read as what the request says, with the claims request that is read. -/
theorem readFrom (resent : Resent params r received) (legible : r.Legible)
    (openid : r.scope.hasOpenid = true) {again : Option Claims.Request}
    (claims : received.read? .claims = again.map .ok) :
    ReadFrom received { r.spoken with claims := again } where
  responseType := by
    refine resent.field (some r.responseType) resent.fields.responseType
      (by simp [entries]) ?_
    intro s t _ _ read
    exact Parameter.returns_responseType read
  clientId := resent.text (some r.clientId) resent.fields.clientId
    (by simp [entries, Parameter.clientId])
  redirectUri := by
    refine resent.field r.redirectUri resent.fields.redirectUri (by simp [entries]) ?_
    intro s u here _ _
    exact Parameter.returns_url (legible.redirectUri u here)
  scope := resent.scope openid
  state := resent.text r.state resent.fields.state (by simp [entries, Parameter.state])
  explicitMode := by
    refine resent.field r.explicitMode resent.fields.explicitMode (by simp [entries]) ?_
    intro s mode _ filled read
    exact Parameter.returns_responseMode filled read
  nonce := resent.text r.nonce resent.fields.nonce (by simp [entries, Parameter.nonce])
  display := by
    refine resent.field r.display resent.fields.display (by simp [entries]) ?_
    intro s d _ _ _
    exact Parameter.returns_display d
  prompt := by
    refine resent.field r.prompt resent.fields.prompt (by simp [entries]) ?_
    intro s p _ _ read
    exact Parameter.returns_prompt read
  maxAge := by
    refine resent.field r.maxAge resent.fields.maxAge (by simp [entries]) ?_
    intro s n _ _ _
    exact Parameter.returns_maxAge n
  uiLocales := resent.locales r.uiLocales resent.fields.uiLocales
    (by simp [entries, Parameter.uiLocales])
  claimsLocales := resent.locales r.claimsLocales resent.fields.claimsLocales
    (by simp [entries, Parameter.claimsLocales])
  idTokenHint := by
    refine resent.field r.idTokenHint resent.fields.idTokenHint (by simp [entries]) ?_
    intro s hint _ filled read
    exact Parameter.returns_idTokenHint filled read
  loginHint :=
    resent.text r.loginHint resent.fields.loginHint (by simp [entries, Parameter.loginHint])
  acrValues := by
    refine resent.field r.acrValues resent.fields.acrValues (by simp [entries]) ?_
    intro s classes _ _ read
    exact Parameter.returns_acrValues read
  claims := claims
  request := resent.text r.request resent.fields.request (by simp [entries, Parameter.request])
  requestUri := by
    refine resent.field r.requestUri resent.fields.requestUri (by simp [entries]) ?_
    intro s u here _ _
    exact Parameter.returns_url (legible.requestUri u here)
  codeChallenge := resent.text r.codeChallenge resent.fields.codeChallenge
    (by simp [entries, Parameter.codeChallenge])
  explicitMethod := by
    refine resent.field r.explicitMethod resent.fields.explicitMethod (by simp [entries]) ?_
    intro s method _ filled read
    exact Parameter.returns_codeChallengeMethod filled read
  resource := by
    refine resent.field r.resource resent.fields.resource (by simp [entries]) ?_
    intro s u here _ read
    exact Parameter.returns_resource (legible.resource u here) read
  grantedScopes := by
    refine resent.field r.grantedScopes resent.fields.grantedScopes (by simp [entries]) ?_
    intro s b _ _ _
    exact Parameter.returns_includeGrantedScopes b
  custom := resent.custom

/-- The parameters are read as what the request says. -/
theorem exists_readFrom (resent : Resent params r received) (legible : r.Legible)
    (openid : r.scope.hasOpenid = true) :
    ∃ again : Option Claims.Request, (again == r.spoken.claims) = true ∧
      ReadFrom received { r.spoken with claims := again } := by
  obtain ⟨again, same, claims⟩ := resent.exists_claims legible
  exact ⟨again, same, resent.readFrom legible openid claims⟩

end Resent

/-- A request is what another says: it has the same fields, and asks for the same claims. -/
def Echoes (r0 r : AuthenticationRequest) : Prop :=
  (r0.claims == r.spoken.claims) = true ∧ { r0 with claims := r.spoken.claims } = r.spoken

theorem exists_echo {endpoint : Option Url} {params : Object} {r : AuthenticationRequest}
    (textual : params.Textual) (read : parse endpoint params = .ok r) (legible : r.Legible) :
    ∃ received r0, Object.ofQuery r.query = .ok received ∧ parse endpoint received = .ok r0 ∧
      Echoes r0 r := by
  obtain ⟨kept, fields, proper⟩ := parse_eq_ok_iff.mp read
  obtain ⟨received, reread, lookup⟩ := Object.ofQuery_query r.parameters
  have resent : Resent params r received := ⟨textual, fields, lookup⟩
  obtain ⟨again, same, found⟩ := resent.exists_readFrom legible proper.openid
  refine ⟨received, { r.spoken with claims := again }, reread, ?_, same, rfl⟩
  refine parse_eq_ok_iff.mpr ⟨kept, found, ?_⟩
  exact ⟨proper.single, proper.redirect, proper.openid, proper.nonce⟩

theorem exists_echo_of_query {q : String} {r : AuthenticationRequest} (read : ofQuery q = .ok r)
    (legible : r.Legible) : ∃ r0, ofQuery r.query = .ok r0 ∧ Echoes r0 r := by
  obtain ⟨params, textual, parsed⟩ := exists_textual_of_query read
  obtain ⟨received, r0, reread, again, echoes⟩ := exists_echo textual parsed legible
  refine ⟨r0, ?_, echoes⟩
  exact Outcome.bind_eq_ok.mpr ⟨received, Outcome.mapError_eq_ok.mpr reread, again⟩

theorem exists_echo_of_url {url : Url} {r : AuthenticationRequest} (read : ofUrl url = .ok r)
    (legible : r.Legible) :
    ∃ url' r0, r.toUrl none = .ok url' ∧ ofUrl url' = .ok r0 ∧ Echoes r0 r := by
  obtain ⟨params, textual, parsed⟩ := exists_textual_of_url read
  have endpoint : r.endpoint = some url.base := (parse_eq_ok_iff.mp parsed).1
  obtain ⟨received, r0, reread, again, echoes⟩ := exists_echo textual parsed legible
  have query : (url.base.setQuery r.query).query = some r.query :=
    Url.query_setQuery_write url.base r.parameters.pairs
  refine ⟨url.base.setQuery r.query, r0, ?_, ?_, echoes⟩
  · unfold toUrl
    rw [endpoint, Option.none_or]
    dsimp only
    rw [Url.query_base]
    rfl
  · unfold ofUrl
    rw [query]
    refine Outcome.bind_eq_ok.mpr ⟨received, Outcome.mapError_eq_ok.mpr reread, ?_⟩
    change parse (some (url.base.setQuery r.query).base) received = .ok r0
    rw [Url.base_setQuery]
    exact again

/-- What was read from a query string or from a URL comes back from the one written for it. -/
theorem echoed_from_query_and_url :
    (∀ (q : String) (r : AuthenticationRequest), ofQuery q = .ok r → r.Legible →
      ∃ r0, ofQuery r.query = .ok r0 ∧ Echoes r0 r) ∧
    (∀ (url : Url) (r : AuthenticationRequest), ofUrl url = .ok r → r.Legible →
      ∃ url' r0, r.toUrl none = .ok url' ∧ ofUrl url' = .ok r0 ∧ Echoes r0 r) := by
  constructor
  · intro q r read legible
    exact exists_echo_of_query read legible
  · intro url r read legible
    exact exists_echo_of_url read legible

/-! ## A request for the email address -/

/-- The query of a request in the code flow for the email address. -/
def emailQuery : String :=
  "response_type=code&client_id=a&scope=openid&redirect_uri=https%3A%2F%2Fc.example%2Fcb" ++
    "&claims=%7B%22userinfo%22%3A%7B%22email%22%3Anull%7D%7D"

/-- The request in the code flow for the email address. -/
def emailRequest (endpoint : Option Url) : AuthenticationRequest :=
  { plain .codeOnly (Scope.ofList ["openid"]) "a" (some ⟨"https://c.example/cb", none, none⟩) with
    endpoint := endpoint
    claims := some ⟨.empty, ⟨some ⟨[.ofKey ⟨"email", none⟩]⟩, []⟩⟩ }

set_option maxRecDepth 20000 in
theorem legible_emailRequest (endpoint : Option Url) : (emailRequest endpoint).Legible where
  redirectUri := by
    rintro u ⟨⟩
    decide +kernel
  requestUri := by rintro u ⟨⟩
  resource := by rintro u ⟨⟩
  claims := by
    rintro c ⟨⟩
    with_unfolding_all rfl

set_option maxRecDepth 20000 in
theorem ofQuery_emailQuery : ofQuery emailQuery = .ok (emailRequest none) := by
  with_unfolding_all rfl

set_option maxRecDepth 20000 in
theorem ofUrl_emailQuery : ofUrl ⟨"https://op.example/auth", some emailQuery, none⟩ =
    .ok (emailRequest (some ⟨"https://op.example/auth", none, none⟩)) := by
  with_unfolding_all rfl

theorem echoed_emailRequest :
    (∃ r0, ofQuery (emailRequest none).query = .ok r0 ∧ Echoes r0 (emailRequest none)) ∧
    (∃ url r0, (emailRequest (some ⟨"https://op.example/auth", none, none⟩)).toUrl none = .ok url ∧
      ofUrl url = .ok r0 ∧
        Echoes r0 (emailRequest (some ⟨"https://op.example/auth", none, none⟩))) := by
  constructor
  · exact echoed_from_query_and_url.1 _ _ ofQuery_emailQuery (legible_emailRequest _)
  · exact echoed_from_query_and_url.2 _ _ ofUrl_emailQuery (legible_emailRequest _)

end AuthenticationRequest

end OpenIdConnect
