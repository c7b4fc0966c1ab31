import OpenIdConnect.Authentication.Reader
import OpenIdConnect.Proofs.Outcome

/-!
# Which requests are read

A request is read from parameters exactly when each of its fields is what the parameter of the
same name reads as, everything else is kept as it is, and the request is proper: it has the
redirect URI, the nonce and the scope value that it needs, and one request object at most.
-/

namespace OpenIdConnect

namespace Requester

variable {α : Type}

theorem optional_eq_ok_iff {known : Requester} {params : Object} {p : Parameter α}
    {value : Option α} :
    known.optional params p = .ok value ↔ params.read? p = value.map .ok := by
  unfold optional
  cases found : params.read? p with
  | none => cases value <;> simp
  | some result =>
      cases result with
      | error cause => cases value <;> simp
      | ok a => cases value <;> simp

theorem required_eq_ok_iff {known : Requester} {params : Object} {p : Parameter α} {a : α} :
    known.required params p = .ok a ↔ params.read? p = some (.ok a) := by
  unfold required
  rw [Outcome.bind_eq_ok]
  constructor
  · rintro ⟨value, read, rest⟩
    cases value with
    | none => cases rest
    | some b =>
        cases rest
        exact optional_eq_ok_iff.mp read
  · intro found
    exact ⟨some a, optional_eq_ok_iff.mpr found, rfl⟩

end Requester

namespace AuthenticationRequest

open Requester

/-- The fields of a request are what parameters read as. -/
structure ReadFrom (params : Object) (r : AuthenticationRequest) : Prop where
  responseType : params.read? .responseType = some (.ok r.responseType)
  clientId : params.read? .clientId = some (.ok r.clientId)
  redirectUri : params.read? .redirectUri = r.redirectUri.map .ok
  scope : params.read? .scope = some (.ok r.scope)
  state : params.read? .state = r.state.map .ok
  explicitMode : params.read? .responseMode = r.explicitMode.map .ok
  nonce : params.read? .nonce = r.nonce.map .ok
  display : params.read? .display = r.display.map .ok
  prompt : params.read? .prompt = r.prompt.map .ok
  maxAge : params.read? .maxAge = r.maxAge.map .ok
  uiLocales : params.read? .uiLocales = r.uiLocales.map .ok
  claimsLocales : params.read? .claimsLocales = r.claimsLocales.map .ok
  idTokenHint : params.read? .idTokenHint = r.idTokenHint.map .ok
  loginHint : params.read? .loginHint = r.loginHint.map .ok
  acrValues : params.read? .acrValues = r.acrValues.map .ok
  claims : params.read? .claims = r.claims.map .ok
  request : params.read? .request = r.request.map .ok
  requestUri : params.read? .requestUri = r.requestUri.map .ok
  codeChallenge : params.read? .codeChallenge = r.codeChallenge.map .ok
  explicitMethod : params.read? .codeChallengeMethod = r.explicitMethod.map .ok
  resource : params.read? .resource = r.resource.map .ok
  grantedScopes : params.read? .includeGrantedScopes = r.grantedScopes.map .ok
  custom : r.custom = params.eraseAll Parameter.registered

/-- A request has what it needs, and one request object at most. -/
structure Proper (r : AuthenticationRequest) : Prop where
  single : ¬(r.request.isSome ∧ r.requestUri.isSome)
  redirect : r.hasRequestObject = false → r.redirectUri.isSome
  openid : r.scope.hasOpenid = true
  nonce : r.hasRequestObject = false → r.responseType.needsNonce = true → r.nonce.isSome

/-! ## The steps of the reader -/

theorem readHeading_eq_ok_iff {params : Object} {h : Heading} :
    Heading.read params = .ok h ↔
      params.read? .clientId = some (.ok h.clientId) ∧
      params.read? .state = h.state.map .ok ∧
      params.read? .redirectUri = h.redirectUri.map .ok ∧
      params.read? .responseMode = h.explicitMode.map .ok ∧
      params.read? .responseType = some (.ok h.responseType) := by
  unfold Heading.read
  constructor
  · intro read
    obtain ⟨clientId, clientIdRead, read⟩ := Outcome.bind_eq_ok.mp read
    obtain ⟨state, stateRead, read⟩ := Outcome.bind_eq_ok.mp read
    obtain ⟨redirectUri, redirectUriRead, read⟩ := Outcome.bind_eq_ok.mp read
    obtain ⟨mode, modeRead, read⟩ := Outcome.bind_eq_ok.mp read
    obtain ⟨responseType, responseTypeRead, done⟩ := Outcome.bind_eq_ok.mp read
    cases done
    exact ⟨required_eq_ok_iff.mp clientIdRead, optional_eq_ok_iff.mp stateRead,
      optional_eq_ok_iff.mp redirectUriRead, optional_eq_ok_iff.mp modeRead,
      required_eq_ok_iff.mp responseTypeRead⟩
  · rintro ⟨clientId, state, redirectUri, mode, responseType⟩
    refine Outcome.bind_eq_ok.mpr ⟨_, required_eq_ok_iff.mpr clientId, ?_⟩
    refine Outcome.bind_eq_ok.mpr ⟨_, optional_eq_ok_iff.mpr state, ?_⟩
    refine Outcome.bind_eq_ok.mpr ⟨_, optional_eq_ok_iff.mpr redirectUri, ?_⟩
    refine Outcome.bind_eq_ok.mpr ⟨_, optional_eq_ok_iff.mpr mode, ?_⟩
    exact Outcome.bind_eq_ok.mpr ⟨_, required_eq_ok_iff.mpr responseType, rfl⟩

theorem readRequestObject_eq_ok_iff {known : Requester} {params : Object}
    {request : Option String} {requestUri : Option Url} :
    readRequestObject known params = .ok (request, requestUri) ↔
      params.read? .request = request.map .ok ∧ params.read? .requestUri = requestUri.map .ok ∧
      ¬(request.isSome ∧ requestUri.isSome) := by
  unfold readRequestObject
  constructor
  · intro read
    obtain ⟨found, foundRead, read⟩ := Outcome.bind_eq_ok.mp read
    obtain ⟨foundUri, foundUriRead, read⟩ := Outcome.bind_eq_ok.mp read
    obtain ⟨single, done⟩ := Outcome.refused_eq_ok.mp read
    cases done
    exact ⟨optional_eq_ok_iff.mp foundRead, optional_eq_ok_iff.mp foundUriRead, single⟩
  · rintro ⟨found, foundUri, single⟩
    refine Outcome.bind_eq_ok.mpr ⟨_, optional_eq_ok_iff.mpr found, ?_⟩
    refine Outcome.bind_eq_ok.mpr ⟨_, optional_eq_ok_iff.mpr foundUri, ?_⟩
    exact Outcome.refused_eq_ok.mpr ⟨single, rfl⟩

theorem readScope_eq_ok_iff {known : Requester} {params : Object} {scope : Scope} :
    readScope known params = .ok scope ↔
      params.read? .scope = some (.ok scope) ∧ scope.hasOpenid = true := by
  unfold readScope
  constructor
  · intro read
    obtain ⟨found, foundRead, read⟩ := Outcome.bind_eq_ok.mp read
    obtain ⟨openid, done⟩ := Outcome.refused_eq_ok.mp read
    cases done
    exact ⟨required_eq_ok_iff.mp foundRead, by simpa using openid⟩
  · rintro ⟨found, openid⟩
    refine Outcome.bind_eq_ok.mpr ⟨_, required_eq_ok_iff.mpr found, ?_⟩
    exact Outcome.refused_eq_ok.mpr ⟨by simpa using openid, rfl⟩

theorem readNonce_eq_ok_iff {known : Requester} {needed : Bool} {params : Object}
    {nonce : Option String} :
    readNonce known needed params = .ok nonce ↔
      params.read? .nonce = nonce.map .ok ∧ (needed = true → nonce.isSome) := by
  unfold readNonce
  constructor
  · intro read
    obtain ⟨found, foundRead, read⟩ := Outcome.bind_eq_ok.mp read
    obtain ⟨present, done⟩ := Outcome.refused_eq_ok.mp read
    cases done
    refine ⟨optional_eq_ok_iff.mp foundRead, ?_⟩
    intro isNeeded
    cases nonce with
    | none => exact absurd ⟨isNeeded, rfl⟩ present
    | some text => rfl
  · rintro ⟨found, present⟩
    refine Outcome.bind_eq_ok.mpr ⟨_, optional_eq_ok_iff.mpr found, ?_⟩
    refine Outcome.refused_eq_ok.mpr ⟨?_, rfl⟩
    rintro ⟨isNeeded, absent⟩
    have found := present isNeeded
    rw [Option.isNone_iff_eq_none.mp absent] at found
    cases found

/-- The redirect URI may be absent only where there is a request object. -/
theorem redirect_iff {request : Option String} {requestUri redirectUri : Option Url} :
    ¬((request.isNone && requestUri.isNone) = true ∧ redirectUri.isNone = true) ↔
      ((request.isSome || requestUri.isSome) = false → redirectUri.isSome = true) := by
  cases request <;> cases requestUri <;> cases redirectUri <;> simp

/-- So may a nonce that is needed. -/
theorem nonce_iff {request nonce : Option String} {requestUri : Option Url} {needed : Bool} :
    ((request.isNone && requestUri.isNone && needed) = true → nonce.isSome = true) ↔
      ((request.isSome || requestUri.isSome) = false → needed = true → nonce.isSome = true) := by
  cases request <;> cases requestUri <;> simp

/-! ## Whole requests -/

theorem fields_of_parse {endpoint : Option Url} {params : Object} {r : AuthenticationRequest}
    (read : parse endpoint params = .ok r) :
    r.endpoint = endpoint ∧ ReadFrom params r ∧ Proper r := by
  unfold parse at read
  obtain ⟨heading, headingRead, read⟩ := Outcome.bind_eq_ok.mp read
  obtain ⟨⟨request, requestUri⟩, objectRead, read⟩ := Outcome.bind_eq_ok.mp read
  obtain ⟨redirect, read⟩ := Outcome.refused_eq_ok.mp read
  obtain ⟨scope, scopeRead, read⟩ := Outcome.bind_eq_ok.mp read
  obtain ⟨nonce, nonceRead, read⟩ := Outcome.bind_eq_ok.mp read
  obtain ⟨claims, claimsRead, read⟩ := Outcome.bind_eq_ok.mp read
  obtain ⟨display, displayRead, read⟩ := Outcome.bind_eq_ok.mp read
  obtain ⟨prompt, promptRead, read⟩ := Outcome.bind_eq_ok.mp read
  obtain ⟨maxAge, maxAgeRead, read⟩ := Outcome.bind_eq_ok.mp read
  obtain ⟨uiLocales, uiLocalesRead, read⟩ := Outcome.bind_eq_ok.mp read
  obtain ⟨claimsLocales, claimsLocalesRead, read⟩ := Outcome.bind_eq_ok.mp read
  obtain ⟨idTokenHint, idTokenHintRead, read⟩ := Outcome.bind_eq_ok.mp read
  obtain ⟨loginHint, loginHintRead, read⟩ := Outcome.bind_eq_ok.mp read
  obtain ⟨acrValues, acrValuesRead, read⟩ := Outcome.bind_eq_ok.mp read
  obtain ⟨codeChallenge, codeChallengeRead, read⟩ := Outcome.bind_eq_ok.mp read
  obtain ⟨explicitMethod, explicitMethodRead, read⟩ := Outcome.bind_eq_ok.mp read
  obtain ⟨resource, resourceRead, read⟩ := Outcome.bind_eq_ok.mp read
  obtain ⟨grantedScopes, grantedScopesRead, done⟩ := Outcome.bind_eq_ok.mp read
  cases done
  obtain ⟨clientId, state, redirectUri, mode, responseType⟩ :=
    readHeading_eq_ok_iff.mp headingRead
  obtain ⟨found, foundUri, single⟩ := readRequestObject_eq_ok_iff.mp objectRead
  obtain ⟨foundScope, openid⟩ := readScope_eq_ok_iff.mp scopeRead
  obtain ⟨foundNonce, present⟩ := readNonce_eq_ok_iff.mp nonceRead
  refine ⟨rfl, ?_, single, redirect_iff.mp redirect, openid, nonce_iff.mp present⟩
  exact {
    responseType := responseType
    clientId := clientId
    redirectUri := redirectUri
    scope := foundScope
    state := state
    explicitMode := mode
    nonce := foundNonce
    display := optional_eq_ok_iff.mp displayRead
    prompt := optional_eq_ok_iff.mp promptRead
    maxAge := optional_eq_ok_iff.mp maxAgeRead
    uiLocales := optional_eq_ok_iff.mp uiLocalesRead
    claimsLocales := optional_eq_ok_iff.mp claimsLocalesRead
    idTokenHint := optional_eq_ok_iff.mp idTokenHintRead
    loginHint := optional_eq_ok_iff.mp loginHintRead
    acrValues := optional_eq_ok_iff.mp acrValuesRead
    claims := optional_eq_ok_iff.mp claimsRead
    request := found
    requestUri := foundUri
    codeChallenge := optional_eq_ok_iff.mp codeChallengeRead
    explicitMethod := optional_eq_ok_iff.mp explicitMethodRead
    resource := optional_eq_ok_iff.mp resourceRead
    grantedScopes := optional_eq_ok_iff.mp grantedScopesRead
    custom := rfl }

theorem parse_of_fields {params : Object} {r : AuthenticationRequest}
    (fields : ReadFrom params r) (proper : Proper r) : parse r.endpoint params = .ok r := by
  have headingRead : Heading.read params = .ok
      ⟨r.clientId, r.state, r.redirectUri, r.explicitMode, r.responseType⟩ :=
    readHeading_eq_ok_iff.mpr ⟨fields.clientId, fields.state, fields.redirectUri,
      fields.explicitMode, fields.responseType⟩
  unfold parse
  refine Outcome.bind_eq_ok.mpr ⟨_, headingRead, ?_⟩
  refine Outcome.bind_eq_ok.mpr ⟨(r.request, r.requestUri),
    readRequestObject_eq_ok_iff.mpr ⟨fields.request, fields.requestUri, proper.single⟩, ?_⟩
  refine Outcome.refused_eq_ok.mpr ⟨redirect_iff.mpr proper.redirect, ?_⟩
  refine Outcome.bind_eq_ok.mpr ⟨_,
    readScope_eq_ok_iff.mpr ⟨fields.scope, proper.openid⟩, ?_⟩
  refine Outcome.bind_eq_ok.mpr ⟨_,
    readNonce_eq_ok_iff.mpr ⟨fields.nonce, nonce_iff.mpr proper.nonce⟩, ?_⟩
  refine Outcome.bind_eq_ok.mpr ⟨_, optional_eq_ok_iff.mpr fields.claims, ?_⟩
  refine Outcome.bind_eq_ok.mpr ⟨_, optional_eq_ok_iff.mpr fields.display, ?_⟩
  refine Outcome.bind_eq_ok.mpr ⟨_, optional_eq_ok_iff.mpr fields.prompt, ?_⟩
  refine Outcome.bind_eq_ok.mpr ⟨_, optional_eq_ok_iff.mpr fields.maxAge, ?_⟩
  refine Outcome.bind_eq_ok.mpr ⟨_, optional_eq_ok_iff.mpr fields.uiLocales, ?_⟩
  refine Outcome.bind_eq_ok.mpr ⟨_, optional_eq_ok_iff.mpr fields.claimsLocales, ?_⟩
  refine Outcome.bind_eq_ok.mpr ⟨_, optional_eq_ok_iff.mpr fields.idTokenHint, ?_⟩
  refine Outcome.bind_eq_ok.mpr ⟨_, optional_eq_ok_iff.mpr fields.loginHint, ?_⟩
  refine Outcome.bind_eq_ok.mpr ⟨_, optional_eq_ok_iff.mpr fields.acrValues, ?_⟩
  refine Outcome.bind_eq_ok.mpr ⟨_, optional_eq_ok_iff.mpr fields.codeChallenge, ?_⟩
  refine Outcome.bind_eq_ok.mpr ⟨_, optional_eq_ok_iff.mpr fields.explicitMethod, ?_⟩
  refine Outcome.bind_eq_ok.mpr ⟨_, optional_eq_ok_iff.mpr fields.resource, ?_⟩
  refine Outcome.bind_eq_ok.mpr ⟨_, optional_eq_ok_iff.mpr fields.grantedScopes, ?_⟩
  rw [← fields.custom]
  rfl

/-- Parameters are read as exactly one request, if it is proper. -/
theorem parse_eq_ok_iff {endpoint : Option Url} {params : Object} {r : AuthenticationRequest} :
    parse endpoint params = .ok r ↔ r.endpoint = endpoint ∧ ReadFrom params r ∧ Proper r := by
  constructor
  · exact fields_of_parse
  · rintro ⟨rfl, fields, proper⟩
    exact parse_of_fields fields proper

end AuthenticationRequest

end OpenIdConnect
