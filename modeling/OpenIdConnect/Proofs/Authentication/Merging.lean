import OpenIdConnect.Proofs.Authentication.RoundTrip
import OpenIdConnect.Proofs.Authentication.Runs

/-!
# Merging request objects

A request object says what it names and nothing else.  When it is merged into a request that a
query string or a URL wrote, every parameter that it does not name keeps the value that the
request has for it.  Merging it once more changes nothing, whatever the request was read from:
what falls apart when it is written has fallen apart by then.
-/

namespace OpenIdConnect

namespace AuthenticationRequest

variable {α : Type} {r r' : AuthenticationRequest} {params object : Object}

/-- Requests that a query string or a URL writes. -/
inductive Sent : AuthenticationRequest → Prop where
  | query {q : String} {r : AuthenticationRequest} (read : ofQuery q = .ok r) : Sent r
  | url {url : Url} {r : AuthenticationRequest} (read : ofUrl url = .ok r) : Sent r

/-- Requests that are read, from parameters or from what writes them. -/
inductive Received : AuthenticationRequest → Prop where
  | parsed {endpoint : Option Url} {params : Object} {r : AuthenticationRequest}
      (read : parse endpoint params = .ok r) : Received r
  | sent {r : AuthenticationRequest} (sent : Sent r) : Received r

theorem Sent.worded (sent : Sent r) : r.Worded := by
  cases sent with
  | query read => exact worded_of_ofQuery read
  | url read => exact worded_of_ofUrl read

theorem Sent.exists_readFrom (sent : Sent r) : ∃ params, ReadFrom params r := by
  cases sent with
  | query read =>
      obtain ⟨params, _, parsed⟩ := exists_textual_of_query read
      exact ⟨params, (parse_eq_ok_iff.mp parsed).2.1⟩
  | url read =>
      obtain ⟨params, _, parsed⟩ := exists_textual_of_url read
      exact ⟨params, (parse_eq_ok_iff.mp parsed).2.1⟩

theorem Received.exists_readFrom (received : Received r) : ∃ params, ReadFrom params r := by
  cases received with
  | parsed read => exact ⟨_, (parse_eq_ok_iff.mp read).2.1⟩
  | sent sent => exact sent.exists_readFrom

/-! ## Parameters of both -/

theorem get?_custom_combined (r : AuthenticationRequest) (object : Object) (k : String) :
    ((combined r object).eraseAll Parameter.registered).get? k =
      if k ∈ Parameter.registered then none else (object.get? k).or (r.custom.get? k) := by
  rw [Object.get?_eraseAll]
  by_cases registered : k ∈ Parameter.registered
  · rw [if_pos registered, if_pos registered]
  · have beside : ¬(k = Parameter.request.name ∨ k = Parameter.requestUri.name) := by
      rintro (rfl | rfl)
      · exact registered (by decide)
      · exact registered (by decide)
    rw [if_neg registered, if_neg registered, get?_combined, if_neg beside,
      get?_parameters_custom registered]

/-- What both together say is not contradicted by the request object. -/
theorem contradicts_eq_false [BEq α] [ReflBEq α] {p : Parameter α} {value : α}
    (beside : ¬(p.name = Parameter.request.name ∨ p.name = Parameter.requestUri.name))
    (found : (combined r object).read? p = some (.ok value)) :
    contradicts object p value = false := by
  rw [read?_combined beside] at found
  unfold contradicts
  cases named : object.read? p with
  | none => rfl
  | some result =>
      rw [named, Option.some_or] at found
      cases found
      change (!(value == value)) = false
      rw [beq_self_eq_true, Bool.not_true]

theorem eq_of_map_ok {a b : Option α}
    (same : a.map (Except.ok : α → Except Fault α) = b.map .ok) : a = b :=
  Option.map_injective (fun _ _ => Except.ok.inj) same

/-! ## What a request object names -/

/-- A value is what a member of an object reads as, or one's own where there is no such member. -/
structure Overlaid (object : Object) (p : Parameter α) (own value : Option α) : Prop where
  named : ∀ json, object.get? p.name = some json → ∃ a, p.read json = .ok a ∧ value = some a
  silent : object.get? p.name = none → value = own

theorem overlaid {p : Parameter α} {own value : Option α}
    (beside : ¬(p.name = Parameter.request.name ∨ p.name = Parameter.requestUri.name))
    (kept : r.parameters.read? p = own.map .ok)
    (found : (combined r object).read? p = value.map .ok) : Overlaid object p own value := by
  rw [read?_combined beside, kept] at found
  unfold Object.read? at found
  constructor
  · intro json named
    rw [named, Option.map_some, Option.some_or] at found
    obtain ⟨a, same, read⟩ := Option.map_eq_some_iff.mp found.symm
    exact ⟨a, read.symm, same⟩
  · intro absent
    rw [absent, Option.map_none, Option.none_or] at found
    exact eq_of_map_ok found.symm

/-- One request is another with what an object names over it. -/
structure Supersedes (object : Object) (r r' : AuthenticationRequest) : Prop where
  endpoint : r'.endpoint = r.endpoint
  responseType : Overlaid object .responseType (some r.responseType) (some r'.responseType)
  clientId : Overlaid object .clientId (some r.clientId) (some r'.clientId)
  redirectUri : Overlaid object .redirectUri r.redirectUri r'.redirectUri
  scope : Overlaid object .scope (some r.scope) (some r'.scope)
  state : Overlaid object .state r.state r'.state
  explicitMode : Overlaid object .responseMode r.explicitMode r'.explicitMode
  nonce : Overlaid object .nonce r.nonce r'.nonce
  display : Overlaid object .display r.display r'.display
  prompt : Overlaid object .prompt r.prompt r'.prompt
  maxAge : Overlaid object .maxAge r.maxAge r'.maxAge
  uiLocales : Overlaid object .uiLocales r.uiLocales r'.uiLocales
  claimsLocales : Overlaid object .claimsLocales r.claimsLocales r'.claimsLocales
  idTokenHint : Overlaid object .idTokenHint r.idTokenHint r'.idTokenHint
  loginHint : Overlaid object .loginHint r.loginHint r'.loginHint
  acrValues : Overlaid object .acrValues r.acrValues r'.acrValues
  claims : ∃ own : Option Claims.Request, (own == r.said.claims) = true ∧
    Overlaid object .claims own r'.claims
  codeChallenge : Overlaid object .codeChallenge r.codeChallenge r'.codeChallenge
  explicitMethod : Overlaid object .codeChallengeMethod r.explicitMethod r'.explicitMethod
  resource : Overlaid object .resource r.resource r'.resource
  grantedScopes : Overlaid object .includeGrantedScopes r.grantedScopes r'.grantedScopes
  custom : ∀ k, r'.custom.get? k =
    if k ∈ Parameter.registered then none else (object.get? k).or (r.custom.get? k)

/--
What a query string or a URL wrote is superseded exactly where the request object speaks, by what
it says there.
-/
theorem Sent.superseded_of_assemble (sent : Sent r) (addressed : r.Addressed)
    (step : r.assemble object = .ok r') : Supersedes object r r' := by
  obtain ⟨params, was⟩ := sent.exists_readFrom
  obtain ⟨again, same, own⟩ := was.wasRead.exists_readFrom was.apart addressed sent.worded
  obtain ⟨_, _, parsed⟩ := assemble_eq_ok_iff.mp step
  obtain ⟨endpoint, fields, _⟩ := parse_eq_ok_iff.mp parsed
  exact {
    endpoint := endpoint
    responseType := overlaid (by decide) own.responseType fields.responseType
    clientId := overlaid (by decide) own.clientId fields.clientId
    redirectUri := overlaid (by decide) own.redirectUri fields.redirectUri
    scope := overlaid (by decide) own.scope fields.scope
    state := overlaid (by decide) own.state fields.state
    explicitMode := overlaid (by decide) own.explicitMode fields.explicitMode
    nonce := overlaid (by decide) own.nonce fields.nonce
    display := overlaid (by decide) own.display fields.display
    prompt := overlaid (by decide) own.prompt fields.prompt
    maxAge := overlaid (by decide) own.maxAge fields.maxAge
    uiLocales := overlaid (by decide) own.uiLocales fields.uiLocales
    claimsLocales := overlaid (by decide) own.claimsLocales fields.claimsLocales
    idTokenHint := overlaid (by decide) own.idTokenHint fields.idTokenHint
    loginHint := overlaid (by decide) own.loginHint fields.loginHint
    acrValues := overlaid (by decide) own.acrValues fields.acrValues
    claims := ⟨again, same, overlaid (by decide) own.claims fields.claims⟩
    codeChallenge := overlaid (by decide) own.codeChallenge fields.codeChallenge
    explicitMethod := overlaid (by decide) own.explicitMethod fields.explicitMethod
    resource := overlaid (by decide) own.resource fields.resource
    grantedScopes := overlaid (by decide) own.grantedScopes fields.grantedScopes
    custom := by
      intro k
      rw [fields.custom, get?_custom_combined] }

/-- A request object with a state and with a member that no parameter is named like. -/
def tracedState : Object :=
  stateObject.insert "trace" (.array [.bool true])

set_option maxRecDepth 20000 in
theorem assemble_tracedState : (emailRequest none).assemble tracedState =
    .ok { emailRequest none with
      state := some "x"
      custom := Object.empty.insert "trace" (.array [.bool true]) } := by
  with_unfolding_all rfl

theorem superseded_emailRequest :
    Supersedes tracedState (emailRequest none) { emailRequest none with
      state := some "x"
      custom := Object.empty.insert "trace" (.array [.bool true]) } := by
  have legible := legible_emailRequest none
  refine (Sent.query ofQuery_emailQuery).superseded_of_assemble ?_ assemble_tracedState
  exact ⟨legible.redirectUri, legible.requestUri, legible.resource⟩

/-! ## Merging once more -/

/-- What is read as it was written is read again. -/
theorem rereads_of_read {p : Parameter α} {own a : α} (again : p.Rereads own)
    (read : p.read (p.write own) = .ok a) : p.Rereads a := by
  have same : own = a := Except.ok.inj (again.symm.trans read)
  rw [← same]
  exact again

/--
A field that was read along a request object is read along it once more.  Where the object does
not name it, its value was read from what the first request wrote; that has to be read again.
-/
theorem read?_again (p : Parameter α) (field : AuthenticationRequest → Option α)
    (beside : ¬(p.name = Parameter.request.name ∨ p.name = Parameter.requestUri.name))
    (among : ∀ r : AuthenticationRequest, entry p (field r) ∈ r.entries)
    (apart : r.Apart) (apart' : r'.Apart)
    (found : (combined r object).read? p = (field r').map .ok)
    (settles : ∀ own a, field r = some own → p.read (p.write own) = .ok a → p.Rereads a) :
    (combined r' object).read? p = (field r').map .ok := by
  rw [read?_combined beside] at found ⊢
  cases named : object.read? p with
  | some result =>
      rw [named, Option.some_or] at found
      exact found
  | none =>
      rw [named, Option.none_or, read?_parameters apart (among r)] at found
      rw [Option.none_or]
      refine read?_field apart' (field r') (among r') ?_
      intro a here
      rw [here] at found
      obtain ⟨own, before, read⟩ := Option.map_eq_some_iff.mp found
      exact settles own a before read

theorem text_again (name : String) (field : AuthenticationRequest → Option String)
    (beside : ¬(name = Parameter.request.name ∨ name = Parameter.requestUri.name))
    (among : ∀ r : AuthenticationRequest, entry (.text name) (field r) ∈ r.entries)
    (apart : r.Apart) (apart' : r'.Apart)
    (found : (combined r object).read? (.text name) = (field r').map .ok) :
    (combined r' object).read? (.text name) = (field r').map .ok :=
  read?_again (.text name) field beside among apart apart' found
    fun _ a _ _ => Parameter.rereads_text name a

/-- A claims request that is the same as one that is written says something. -/
theorem said_claims_of_same {own : Option Claims.Request}
    (same : (own == r.said.claims) = true) : (own.filter fun c => !c.isEmpty) = own := by
  cases own with
  | none => rfl
  | some c =>
      cases said : r.said.claims with
      | none =>
          rw [said] at same
          cases same
      | some c' =>
          rw [said] at same
          have speaks := (Option.filter_eq_some_iff.mp said).2
          rw [← Claims.Request.isEmpty_of_same same] at speaks
          exact Option.filter_some_pos speaks

theorem exists_claims_again (was : ReadFrom params r) (fields : ReadFrom (combined r object) r') :
    ∃ again : Option Claims.Request, (again == r'.claims) = true ∧
      (combined r' object).read? .claims = again.map .ok := by
  have found := fields.claims
  rw [read?_combined (by decide)] at found ⊢
  cases named : object.read? .claims with
  | some result =>
      rw [named, Option.some_or] at found
      refine ⟨r'.claims, ?_, found⟩
      cases asked : r'.claims with
      | none => rfl
      | some c =>
          obtain ⟨json, read⟩ := fields.wasRead.claims c asked
          exact (Claims.Request.valid_of_parse (Outcome.mapError_eq_ok.mp read)).1.same_self
  | none =>
      obtain ⟨own, same, written⟩ := exists_read?_claims was.apart was.wasRead.claims
      obtain ⟨again, sameAgain, reread⟩ := exists_read?_claims fields.apart fields.wasRead.claims
      rw [named, Option.none_or, written] at found
      have kept : own = r'.claims := eq_of_map_ok found
      rw [kept] at same
      have said : r'.said.claims = r'.claims := said_claims_of_same same
      rw [said] at sameAgain
      exact ⟨again, sameAgain, reread⟩

/-- What was read along a request object is read along it once more, field by field. -/
theorem readFrom_again (was : ReadFrom params r) (addressed : r.Addressed)
    (fields : ReadFrom (combined r object) r') {again : Option Claims.Request}
    (claims : (combined r' object).read? .claims = again.map .ok) :
    ReadFrom (combined r' object) { r' with claims := again } where
  responseType := by
    refine read?_again .responseType (fun r => some r.responseType) (by decide)
      (by simp [entries]) was.apart fields.apart fields.responseType ?_
    intro own t _ read
    exact Parameter.rereads_responseType (Parameter.worded_responseType read)
  clientId := text_again "client_id" (fun r => some r.clientId) (by decide)
    (by simp [entries, Parameter.clientId]) was.apart fields.apart fields.clientId
  redirectUri := by
    refine read?_again .redirectUri redirectUri (by decide) (by simp [entries])
      was.apart fields.apart fields.redirectUri ?_
    intro own u here read
    exact rereads_of_read (Parameter.rereads_url (addressed.redirectUri own here)) read
  scope := by
    refine read?_again .scope (fun r => some r.scope) (by decide) (by simp [entries])
      was.apart fields.apart fields.scope ?_
    intro own s _ read
    exact Parameter.rereads_scope (Parameter.worded_scope read)
  state := text_again "state" state (by decide) (by simp [entries, Parameter.state])
    was.apart fields.apart fields.state
  explicitMode := by
    refine read?_again .responseMode explicitMode (by decide) (by simp [entries])
      was.apart fields.apart fields.explicitMode ?_
    intro own mode _ read
    exact Parameter.rereads_responseMode read
  nonce := text_again "nonce" nonce (by decide) (by simp [entries, Parameter.nonce])
    was.apart fields.apart fields.nonce
  display := by
    refine read?_again .display display (by decide) (by simp [entries])
      was.apart fields.apart fields.display ?_
    exact fun _ d _ _ => Parameter.rereads_display d
  prompt := by
    refine read?_again .prompt prompt (by decide) (by simp [entries])
      was.apart fields.apart fields.prompt ?_
    intro own p _ read
    exact Parameter.rereads_prompt_iff.mpr (Parameter.worded_prompt read)
  maxAge := by
    refine read?_again .maxAge maxAge (by decide) (by simp [entries])
      was.apart fields.apart fields.maxAge ?_
    exact fun _ n _ _ => Parameter.rereads_maxAge n
  uiLocales := by
    refine read?_again .uiLocales uiLocales (by decide) (by simp [entries])
      was.apart fields.apart fields.uiLocales ?_
    exact fun _ _ _ read => Parameter.rereads_locales read
  claimsLocales := by
    refine read?_again .claimsLocales claimsLocales (by decide) (by simp [entries])
      was.apart fields.apart fields.claimsLocales ?_
    exact fun _ _ _ read => Parameter.rereads_locales read
  idTokenHint := by
    refine read?_again .idTokenHint idTokenHint (by decide) (by simp [entries])
      was.apart fields.apart fields.idTokenHint ?_
    exact fun _ _ _ read => Parameter.rereads_idTokenHint read
  loginHint :=
    text_again "login_hint" loginHint (by decide) (by simp [entries, Parameter.loginHint])
      was.apart fields.apart fields.loginHint
  acrValues := by
    refine read?_again .acrValues acrValues (by decide) (by simp [entries])
      was.apart fields.apart fields.acrValues ?_
    intro own classes _ read
    exact Parameter.rereads_acrValues_iff.mpr (Parameter.worded_acrValues read)
  claims := claims
  request := by
    have found := fields.request
    rw [read?_requestObject .request (.inl rfl)] at found ⊢
    exact found
  requestUri := by
    have found := fields.requestUri
    rw [read?_requestObject .requestUri (.inr rfl)] at found ⊢
    exact found
  codeChallenge := text_again "code_challenge" codeChallenge (by decide)
    (by simp [entries, Parameter.codeChallenge]) was.apart fields.apart fields.codeChallenge
  explicitMethod := by
    refine read?_again .codeChallengeMethod explicitMethod (by decide) (by simp [entries])
      was.apart fields.apart fields.explicitMethod ?_
    exact fun _ _ _ read => Parameter.rereads_codeChallengeMethod read
  resource := by
    refine read?_again .resource resource (by decide) (by simp [entries])
      was.apart fields.apart fields.resource ?_
    intro own u here read
    obtain ⟨json, wasRead⟩ := was.wasRead.resource own here
    exact rereads_of_read (Parameter.rereads_resource (addressed.resource own here) wasRead) read
  grantedScopes := by
    refine read?_again .includeGrantedScopes grantedScopes (by decide) (by simp [entries])
      was.apart fields.apart fields.grantedScopes ?_
    exact fun _ b _ _ => Parameter.rereads_includeGrantedScopes b
  custom := by
    refine Object.ext_get? fun k => ?_
    have kept : r'.custom.get? k =
        if k ∈ Parameter.registered then none else (object.get? k).or (r.custom.get? k) := by
      rw [fields.custom, get?_custom_combined]
    rw [get?_custom_combined, kept]
    by_cases registered : k ∈ Parameter.registered
    · rw [if_pos registered, if_pos registered]
    · rw [if_neg registered, if_neg registered]
      cases object.get? k <;> rfl

/-- What was read along a request object is read along it once more, as the same request. -/
theorem exists_readFrom_again (was : ReadFrom params r) (addressed : r.Addressed)
    (fields : ReadFrom (combined r object) r') :
    ∃ again : Option Claims.Request, (again == r'.claims) = true ∧
      ReadFrom (combined r' object) { r' with claims := again } := by
  obtain ⟨again, same, claims⟩ := exists_claims_again was fields
  exact ⟨again, same, readFrom_again was addressed fields claims⟩

/--
A request that was received and that a request object was merged into stays the same when the
object is merged once more; only its claims request may be ordered another way.
-/
theorem Received.assemble_again (received : Received r) (addressed : r.Addressed)
    (step : r.assemble object = .ok r') :
    ∃ r'', r'.assemble object = .ok r'' ∧ (r'' == r') = true ∧
      { r'' with claims := r'.claims } = r' := by
  obtain ⟨params, was⟩ := received.exists_readFrom
  obtain ⟨_, _, parsed⟩ := assemble_eq_ok_iff.mp step
  obtain ⟨endpoint, fields, proper⟩ := parse_eq_ok_iff.mp parsed
  obtain ⟨again, same, reread⟩ := exists_readFrom_again was addressed fields
  refine ⟨{ r' with claims := again }, ?_, ?_, rfl⟩
  · refine assemble_eq_ok_iff.mpr ⟨?_, ?_, ?_⟩
    · exact contradicts_eq_false (by decide) fields.clientId
    · exact contradicts_eq_false (by decide) fields.responseType
    · refine parse_eq_ok_iff.mpr ⟨rfl, reread, ?_⟩
      exact ⟨proper.single, proper.redirect, proper.openid, proper.nonce⟩
  · exact same_setClaims same

/-- A response type that fell apart when a request object was merged stays as it is from then on. -/
theorem assemble_again_hybridInOne :
    ∃ r'', ({ listedRequest codeAndIdToken with nonce := some "n" } :
        AuthenticationRequest).assemble .empty = .ok r'' ∧
      (r'' == { listedRequest codeAndIdToken with nonce := some "n" }) = true := by
  have addressed : hybridInOneRequest.Addressed := by
    obtain ⟨redirectUri, requestUri, resource⟩ := addressed_listedRequest hybridInOne
    exact ⟨redirectUri, requestUri, resource⟩
  obtain ⟨r'', merged, same, _⟩ :=
    (Received.parsed parse_hybridInOne).assemble_again addressed assemble_empty_hybridInOne
  exact ⟨r'', merged, same⟩

end AuthenticationRequest

end OpenIdConnect
