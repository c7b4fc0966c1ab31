import OpenIdConnect.Authentication.Request

/-!
# Reading authentication requests

Parameters are read in a fixed order, so that a refusal can name the client as soon as it
is known: first who asks and how the answer travels, then whether a request object is
used, then what is asked for, and last the parameters that stand under no condition.
-/

namespace OpenIdConnect

namespace Requester

variable {α : Type}

/-- A parameter that may be absent. -/
def optional (r : Requester) (params : Object) (p : Parameter α) :
    Except Refusal (Option α) :=
  match params.read? p with
  | none => .ok none
  | some (.ok value) => .ok (some value)
  | some (.error cause) => .error (r.refuse (.invalid p.name cause))

/-- A parameter that has to be there. -/
def required (r : Requester) (params : Object) (p : Parameter α) : Except Refusal α := do
  match ← r.optional params p with
  | some value => return value
  | none => throw (r.refuse (.missing p.name))

end Requester

namespace AuthenticationRequest

/-- Who asks, and how the answer travels. -/
structure Heading where
  clientId : String
  state : Option String
  redirectUri : Option Url
  explicitMode : Option ResponseMode
  responseType : ResponseType

namespace Heading

/-- What the heading says of the sender of a request. -/
def requester (h : Heading) : Requester :=
  ⟨some h.clientId, h.redirectUri, h.state, some (h.explicitMode.getD h.responseType.impliedMode)⟩

/-- The heading of a request. -/
def read (params : Object) : Except Refusal Heading := do
  let clientId ← Requester.unknown.required params .clientId
  let known := { Requester.unknown with clientId := some clientId }
  let state ← known.optional params .state
  let known := { known with state := state }
  let redirectUri ← known.optional params .redirectUri
  let known := { known with redirectUri := redirectUri }
  let explicitMode ← known.optional params .responseMode
  let known := { known with responseMode := explicitMode }
  let responseType ← known.required params .responseType
  return ⟨clientId, state, redirectUri, explicitMode, responseType⟩

end Heading

/-- The request object of a request, by value or by reference but not both. -/
def readRequestObject (known : Requester) (params : Object) :
    Except Refusal (Option String × Option Url) := do
  let request ← known.optional params .request
  let requestUri ← known.optional params .requestUri
  if request.isSome ∧ requestUri.isSome then throw (known.refuse .requestBesideRequestUri)
  return (request, requestUri)

/-- The scope of a request, which makes it one of OpenID Connect. -/
def readScope (known : Requester) (params : Object) : Except Refusal Scope := do
  let scope ← known.required params .scope
  if !scope.hasOpenid then throw (known.refuse .openidMissing)
  return scope

/-- The nonce of a request, which may not be absent where it is needed. -/
def readNonce (known : Requester) (needed : Bool) (params : Object) :
    Except Refusal (Option String) := do
  let nonce ← known.optional params .nonce
  if needed ∧ nonce.isNone then throw (known.refuse .nonceMissing)
  return nonce

/--
The request that parameters write.  A request object may hold the redirect URI and the
nonce, so that they may be absent outside it.
-/
def parse (endpoint : Option Url) (params : Object) : Except Refusal AuthenticationRequest := do
  let heading ← Heading.read params
  let known := heading.requester
  let (request, requestUri) ← readRequestObject known params
  let complete := request.isNone && requestUri.isNone
  if complete ∧ heading.redirectUri.isNone then
    throw (known.refuse (.missing Parameter.redirectUri.name))
  let scope ← readScope known params
  let nonce ← readNonce known (complete && heading.responseType.needsNonce) params
  let claims ← known.optional params .claims
  let display ← known.optional params .display
  let prompt ← known.optional params .prompt
  let maxAge ← known.optional params .maxAge
  let uiLocales ← known.optional params .uiLocales
  let claimsLocales ← known.optional params .claimsLocales
  let idTokenHint ← known.optional params .idTokenHint
  let loginHint ← known.optional params .loginHint
  let acrValues ← known.optional params .acrValues
  let codeChallenge ← known.optional params .codeChallenge
  let explicitMethod ← known.optional params .codeChallengeMethod
  let resource ← known.optional params .resource
  let grantedScopes ← known.optional params .includeGrantedScopes
  return {
    endpoint := endpoint
    responseType := heading.responseType
    clientId := heading.clientId
    redirectUri := heading.redirectUri
    scope := scope
    state := heading.state
    explicitMode := heading.explicitMode
    nonce := nonce
    display := display
    prompt := prompt
    maxAge := maxAge
    uiLocales := uiLocales
    claimsLocales := claimsLocales
    idTokenHint := idTokenHint
    loginHint := loginHint
    acrValues := acrValues
    claims := claims
    request := request
    requestUri := requestUri
    codeChallenge := codeChallenge
    explicitMethod := explicitMethod
    resource := resource
    grantedScopes := grantedScopes
    custom := params.eraseAll Parameter.registered }

/-- The parameters that a query string writes. -/
def readQuery (query : String) : Except Refusal Object :=
  (Object.ofQuery query).mapError fun cause => Requester.unknown.refuse (.query cause)

/-- The request that a query string writes. -/
def ofQuery (query : String) : Except Refusal AuthenticationRequest := do
  parse none (← readQuery query)

/-- The request that a URL writes; its endpoint is the URL without query and fragment. -/
def ofUrl (url : Url) : Except Refusal AuthenticationRequest := do
  parse (some url.dropQuery.dropFragment) (← readQuery (url.query.getD ""))

end AuthenticationRequest

end OpenIdConnect
