import OpenIdConnect.Authentication.Refusal
import OpenIdConnect.Parameter.Authentication

/-!
# Authentication requests

A request for the authentication of an end-user.  It is written as an object of
parameters, as a query string, or as a URL at the authorization endpoint.  Parameters
without a place of their own are kept as they are.
-/

namespace OpenIdConnect

/-- An authentication request. -/
structure AuthenticationRequest where
  endpoint : Option Url
  responseType : ResponseType
  clientId : String
  redirectUri : Option Url
  scope : Scope
  state : Option String
  explicitMode : Option ResponseMode
  nonce : Option String
  display : Option Display
  prompt : Option Prompt
  maxAge : Option UInt64
  uiLocales : Option (List LanguageTag)
  claimsLocales : Option (List LanguageTag)
  idTokenHint : Option String
  loginHint : Option String
  acrValues : Option (NonEmpty String)
  claims : Option Claims.Request
  request : Option String
  requestUri : Option Url
  codeChallenge : Option String
  explicitMethod : Option ChallengeMethod
  resource : Option Url
  grantedScopes : Option Bool
  custom : Object

namespace AuthenticationRequest

/-- The request that says no more than it has to. -/
def plain (responseType : ResponseType) (scope : Scope) (clientId : String)
    (redirectUri : Option Url) : AuthenticationRequest where
  endpoint := none
  responseType := responseType
  clientId := clientId
  redirectUri := redirectUri
  scope := scope
  state := none
  explicitMode := none
  nonce := none
  display := none
  prompt := none
  maxAge := none
  uiLocales := none
  claimsLocales := none
  idTokenHint := none
  loginHint := none
  acrValues := none
  claims := none
  request := none
  requestUri := none
  codeChallenge := none
  explicitMethod := none
  resource := none
  grantedScopes := none
  custom := .empty

/--
Are two requests the same?  Response types are compared as sets, and claims requests as
what they ask for.
-/
def same (a b : AuthenticationRequest) : Bool :=
  a.endpoint == b.endpoint && a.responseType == b.responseType && a.clientId == b.clientId
    && a.redirectUri == b.redirectUri && a.scope == b.scope && a.state == b.state
    && a.explicitMode == b.explicitMode && a.nonce == b.nonce && a.display == b.display
    && a.prompt == b.prompt && a.maxAge == b.maxAge && a.uiLocales == b.uiLocales
    && a.claimsLocales == b.claimsLocales && a.idTokenHint == b.idTokenHint
    && a.loginHint == b.loginHint && a.acrValues == b.acrValues && a.claims == b.claims
    && a.request == b.request && a.requestUri == b.requestUri
    && a.codeChallenge == b.codeChallenge && a.explicitMethod == b.explicitMethod
    && a.resource == b.resource && a.grantedScopes == b.grantedScopes && a.custom == b.custom

instance : BEq AuthenticationRequest := ⟨same⟩

/-- The response mode: the explicit one, or the one that the response type implies. -/
def responseMode (r : AuthenticationRequest) : ResponseMode :=
  r.explicitMode.getD r.responseType.impliedMode

/-- The method of the code challenge, if there is a challenge. -/
def challengeMethod? (r : AuthenticationRequest) : Option ChallengeMethod :=
  r.codeChallenge.map fun _ => r.explicitMethod.getD .plain

/-- Are scopes granted before to be included? -/
def includesGrantedScopes (r : AuthenticationRequest) : Bool :=
  r.grantedScopes.getD false

/-- Is the request, or part of it, in a request object? -/
def hasRequestObject (r : AuthenticationRequest) : Bool :=
  r.request.isSome || r.requestUri.isSome

/-- What the request says of its sender. -/
def requester (r : AuthenticationRequest) : Requester :=
  ⟨some r.clientId, r.redirectUri, r.state, some r.responseMode⟩

/-- The refusal of the request. -/
def refuse (r : AuthenticationRequest) (objection : Objection) : Refusal :=
  r.requester.refuse objection

/-! ## Written forms -/

/-- The parameters of a request, custom ones included. -/
def parameters (r : AuthenticationRequest) : Object :=
  r.custom
    |>.write .responseType r.responseType
    |>.write .clientId r.clientId
    |>.write? .redirectUri r.redirectUri
    |>.write .scope r.scope
    |>.write? .state r.state
    |>.write? .responseMode r.explicitMode
    |>.write? .nonce r.nonce
    |>.write? .display r.display
    |>.write? .prompt r.prompt
    |>.write? .maxAge r.maxAge
    |>.write? .uiLocales r.uiLocales
    |>.write? .claimsLocales r.claimsLocales
    |>.write? .idTokenHint r.idTokenHint
    |>.write? .loginHint r.loginHint
    |>.write? .acrValues r.acrValues
    |>.write? .claims (r.claims.filter fun claims => !claims.isEmpty)
    |>.write? .request r.request
    |>.write? .requestUri r.requestUri
    |>.write? .codeChallenge r.codeChallenge
    |>.write? .codeChallengeMethod r.explicitMethod
    |>.write? .resource r.resource
    |>.write? .includeGrantedScopes r.grantedScopes

/-- The request as a query string. -/
def query (r : AuthenticationRequest) : String :=
  r.parameters.query

/-- The request as a URL at an endpoint, which is the given one or its own. -/
def toUrl (r : AuthenticationRequest) (endpoint : Option Url) : Except Fault Url := do
  match endpoint.or r.endpoint with
  | none => throw .noEndpoint
  | some endpoint =>
    if endpoint.query.isSome then throw (.endpointWithQuery endpoint)
    return endpoint.setQuery r.query

end AuthenticationRequest

end OpenIdConnect
