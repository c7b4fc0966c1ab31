import OpenIdConnect.Claims.Request
import OpenIdConnect.Parameter.Flow
import OpenIdConnect.Parameter.Interaction

/-!
# Parameters of authentication requests

The parameters that an authentication request has a place for, besides those of the flow
and of the interaction.
-/

namespace OpenIdConnect

/-- How the code verifier becomes the code challenge. -/
inductive ChallengeMethod where
  | plain
  | s256
  | other (text : String)
deriving DecidableEq

namespace ChallengeMethod

/-- The method that a text writes. -/
def ofText (s : String) : ChallengeMethod :=
  if s = "plain" then plain else if s = "S256" then s256 else other s

/-- The text of a method. -/
def text : ChallengeMethod → String
  | plain => "plain"
  | s256 => "S256"
  | other s => s

end ChallengeMethod

/-- A resource indicator: a URL without a fragment. -/
def readResource (value : Json) : Except Fault Url := do
  let url ← value.readUrl
  if url.fragment.isSome then throw .resourceWithFragment
  return url

namespace Parameter

/-- The `client_id` parameter. -/
def clientId : Parameter String := text "client_id"

/-- The `redirect_uri` parameter. -/
def redirectUri : Parameter Url := url "redirect_uri"

/-- The `state` parameter. -/
def state : Parameter String := text "state"

/-- The `nonce` parameter. -/
def nonce : Parameter String := text "nonce"

/-- The `claims` parameter. -/
def claims : Parameter Claims.Request :=
  ⟨"claims", fun value => (Claims.Request.parse value).mapError .claims,
    fun r => r.toObject.toJson⟩

/-- The `request` parameter: a request object by value. -/
def request : Parameter String := text "request"

/-- The `request_uri` parameter: a request object by reference. -/
def requestUri : Parameter Url := url "request_uri"

/-- The `code_challenge` parameter. -/
def codeChallenge : Parameter String := text "code_challenge"

/-- The `code_challenge_method` parameter. -/
def codeChallengeMethod : Parameter ChallengeMethod :=
  ⟨"code_challenge_method", fun value => value.readString.map .ofText, fun m => .string m.text⟩

/-- The `resource` parameter. -/
def resource : Parameter Url :=
  ⟨"resource", readResource, fun u => .string u.text⟩

/-- The names of the parameters that an authentication request has a place for. -/
def registered : List String :=
  [responseType.name, clientId.name, redirectUri.name, scope.name, state.name, responseMode.name,
    nonce.name, display.name, prompt.name, maxAge.name, uiLocales.name, claimsLocales.name,
    idTokenHint.name, loginHint.name, acrValues.name, claims.name, request.name, requestUri.name,
    codeChallenge.name, codeChallengeMethod.name, resource.name, includeGrantedScopes.name]

end Parameter

end OpenIdConnect
