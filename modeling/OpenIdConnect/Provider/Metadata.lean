import OpenIdConnect.Authentication.Request
import OpenIdConnect.Parameter.Member

/-!
# Provider metadata

The document in which a provider describes itself.  Six members are required; the others
have to be readable when they are there.  A request that uses what the provider does not
support is refused.
-/

namespace OpenIdConnect

/-- The metadata of a provider: the whole document, and its required members. -/
structure ProviderMetadata where
  members : Object
  issuer : Url
  authorizationEndpoint : Url
  jwksUri : Url
  responseTypes : List ResponseType
  subjectTypes : List SubjectType
  signingAlgorithms : List String

namespace ProviderMetadata

/-- The members that have to be readable when they are there, in the order of checking. -/
def optionalMembers : List Member :=
  [Parameter.tokenEndpoint.member, Parameter.userinfoEndpoint.member,
    Parameter.responseModesSupported.member, Parameter.scopesSupported.member,
    Parameter.claimsSupported.member, Parameter.classesSupported.member,
    Parameter.displaysSupported.member, Parameter.claimsParameterSupported.member,
    Parameter.requestParameterSupported.member, Parameter.requestUriParameterSupported.member,
    Parameter.verifiedClaimsSupported.member, Parameter.trustFrameworksSupported.member,
    Parameter.verifiableClaims.member, Parameter.backchannelLogoutSupported.member]

/-- The metadata that a document holds. -/
def ofObject (o : Object) : Except Fault ProviderMetadata := do
  let issuer ← o.require .issuer
  let authorizationEndpoint ← o.require .authorizationEndpoint
  let jwksUri ← o.require .jwksUri
  let responseTypes ← o.require .responseTypesSupported
  let subjectTypes ← o.require .subjectTypesSupported
  let signingAlgorithms ← o.require .signingAlgorithms
  optionalMembers.forM o.validate
  return ⟨o, issuer, authorizationEndpoint, jwksUri, responseTypes, subjectTypes,
    signingAlgorithms⟩

/-- The document of metadata, with its required members in their written form. -/
def toObject (m : ProviderMetadata) : Object :=
  m.members
    |>.write .issuer m.issuer
    |>.write .authorizationEndpoint m.authorizationEndpoint
    |>.write .jwksUri m.jwksUri
    |>.write .responseTypesSupported m.responseTypes
    |>.write .subjectTypesSupported m.subjectTypes
    |>.write .signingAlgorithms m.signingAlgorithms

/-- The response modes supported. -/
def responseModes (m : ProviderMetadata) : Except Fault (List ResponseMode) :=
  inContext (.parameter Parameter.responseModesSupported.name)
    (m.members.readOr .responseModesSupported Parameter.responseModesImplied)

/-- A feature that is supported or not. -/
def feature (m : ProviderMetadata) (p : Parameter Bool) (implied : Bool) : Except Fault Bool :=
  inContext (.parameter p.name) (m.members.readOr p implied)

/-- Is the `claims` parameter supported? -/
def supportsClaims (m : ProviderMetadata) : Except Fault Bool :=
  m.feature .claimsParameterSupported false

/-- Is the `request` parameter supported? -/
def supportsRequest (m : ProviderMetadata) : Except Fault Bool :=
  m.feature .requestParameterSupported false

/-- Is the `request_uri` parameter supported? -/
def supportsRequestUri (m : ProviderMetadata) : Except Fault Bool :=
  m.feature .requestUriParameterSupported true

/-- Are verified claims supported? -/
def supportsVerifiedClaims (m : ProviderMetadata) : Except Fault Bool :=
  m.feature .verifiedClaimsSupported false

/-- Is back-channel logout supported? -/
def supportsBackchannelLogout (m : ProviderMetadata) : Except Fault Bool :=
  m.feature .backchannelLogoutSupported false

/-- Is the response type supported? -/
def supportsResponseType (m : ProviderMetadata) (t : ResponseType) : Bool :=
  m.responseTypes.any fun supported => supported == t

/-- Is the display supported, as far as the provider says anything of displays? -/
def supportsDisplay (m : ProviderMetadata) (d : Display) : Except Fault Bool :=
  match m.members.read? .displaysSupported with
  | none => .ok true
  | some result => result.map fun supported => supported.contains d

/-! ## Acceptance of requests -/

/-- Refuse a request that uses a feature, unless the feature is supported. -/
def demand (r : AuthenticationRequest) (used : Bool) (supported : Except Fault Bool)
    (objection : Objection) : Except Refusal Unit :=
  if used then
    match supported with
    | .ok true => .ok ()
    | .ok false => .error (r.refuse objection)
    | .error cause => .error (r.refuse (.providerAtFault cause))
  else .ok ()

/-- Refuse a request that uses what the provider does not support. -/
def accept (m : ProviderMetadata) (r : AuthenticationRequest) : Except Refusal Unit := do
  demand r true (.ok (m.supportsResponseType r.responseType))
    (.responseTypeUnsupported r.responseType)
  demand r r.claims.isSome m.supportsClaims .claimsUnsupported
  demand r r.request.isSome m.supportsRequest .requestUnsupported
  demand r r.requestUri.isSome m.supportsRequestUri .requestUriUnsupported
  match r.display with
  | none => return ()
  | some display => demand r true (m.supportsDisplay display) (.displayUnsupported display)

end ProviderMetadata

end OpenIdConnect
