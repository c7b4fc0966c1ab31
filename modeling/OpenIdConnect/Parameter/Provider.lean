import OpenIdConnect.Parameter.Authentication

/-!
# Parameters of provider metadata

What an OpenID Provider publishes about itself: its endpoints, and the values and features
it supports.
-/

namespace OpenIdConnect

/-- How a provider derives the subject identifier of an end-user. -/
inductive SubjectType where
  | shared
  | pairwise
  | other (text : String)
deriving DecidableEq

namespace SubjectType

/-- The type that a text writes. -/
def ofText (s : String) : SubjectType :=
  if s = "public" then shared else if s = "pairwise" then pairwise else other s

/-- The text of a type. -/
def text : SubjectType → String
  | shared => "public"
  | pairwise => "pairwise"
  | other s => s

end SubjectType

/-- The identifier of a provider: a URL without a query or a fragment. -/
def readIssuer (value : Json) : Except Fault Url := do
  let url ← value.readUrl
  if url.query.isSome ∨ url.fragment.isSome then throw .issuerWithComponents
  return url

namespace Parameter

/-- The `issuer` of a provider. -/
def issuer : Parameter Url :=
  ⟨"issuer", readIssuer, fun u => .string u.text⟩

/-- The `authorization_endpoint`. -/
def authorizationEndpoint : Parameter Url := url "authorization_endpoint"

/-- The `token_endpoint`. -/
def tokenEndpoint : Parameter Url := url "token_endpoint"

/-- The `userinfo_endpoint`. -/
def userinfoEndpoint : Parameter Url := url "userinfo_endpoint"

/-- The `jwks_uri`, where the keys of a provider are. -/
def jwksUri : Parameter Url := url "jwks_uri"

/-- The response types supported. -/
def responseTypesSupported : Parameter (List ResponseType) :=
  ⟨"response_types_supported", Json.readItems ResponseType.read,
    fun types => .array (types.map responseType.write)⟩

/-- The response modes supported. -/
def responseModesSupported : Parameter (List ResponseMode) :=
  ⟨"response_modes_supported", Json.readItems ResponseMode.read,
    fun modes => .array (modes.map responseMode.write)⟩

/-- The response modes supported when none are published. -/
def responseModesImplied : List ResponseMode :=
  [.query, .fragment]

/-- The subject types supported. -/
def subjectTypesSupported : Parameter (List SubjectType) :=
  ⟨"subject_types_supported", fun value => value.readStrings.map fun l => l.map .ofText,
    fun types => .array (types.map fun t => .string t.text)⟩

/-- The algorithms supported for signing ID tokens. -/
def signingAlgorithms : Parameter (List String) :=
  texts "id_token_signing_alg_values_supported"

/-- The scope values supported. -/
def scopesSupported : Parameter (List String) := texts "scopes_supported"

/-- The claims supported. -/
def claimsSupported : Parameter (List String) := texts "claims_supported"

/-- The classes of authentication supported. -/
def classesSupported : Parameter (List String) := texts "acr_values_supported"

/-- The displays supported. -/
def displaysSupported : Parameter (List Display) :=
  ⟨"display_values_supported", Json.readItems Display.read,
    fun displays => .array (displays.map display.write)⟩

/-- The trust frameworks supported. -/
def trustFrameworksSupported : Parameter (List String) := texts "trust_frameworks_supported"

/-- The claims that can be verified. -/
def verifiableClaims : Parameter (List String) := texts "claims_in_verified_claims_supported"

/-- Is the `claims` parameter supported? -/
def claimsParameterSupported : Parameter Bool := flag "claims_parameter_supported"

/-- Is the `request` parameter supported? -/
def requestParameterSupported : Parameter Bool := flag "request_parameter_supported"

/-- Is the `request_uri` parameter supported?  It is unless the contrary is published. -/
def requestUriParameterSupported : Parameter Bool := flag "request_uri_parameter_supported"

/-- Are verified claims supported? -/
def verifiedClaimsSupported : Parameter Bool := flag "verified_claims_supported"

/-- Is back-channel logout supported? -/
def backchannelLogoutSupported : Parameter Bool := flag "backchannel_logout_supported"

end Parameter

end OpenIdConnect
