import OpenIdConnect.Authentication.Request

/-!
# Composing authentication requests

A client composes a request freely and then has it checked.  A request that no correct
client would send is not released.
-/

namespace OpenIdConnect

namespace AuthenticationRequest

/-- The request with a code challenge and its method. -/
def setChallenge (r : AuthenticationRequest) (challenge : String) (method : ChallengeMethod) :
    AuthenticationRequest :=
  { r with codeChallenge := some challenge, explicitMethod := some method }

/-- What keeps a composed request from being released. -/
def obstacle? (draft : AuthenticationRequest) : Option Fault :=
  if draft.request.isSome ∧ draft.requestUri.isSome then some .requestBesideRequestUri
  else if draft.redirectUri.isNone ∧ !draft.hasRequestObject then some .redirectUriRequired
  else if !draft.scope.hasOpenid then some .openidRequired
  else if draft.nonce.isNone ∧ draft.responseType.needsNonce then some .nonceRequired
  else none

/-- The request without empty claims and without custom parameters in the place of others. -/
def tidied (draft : AuthenticationRequest) : AuthenticationRequest :=
  { draft with
    claims := draft.claims.filter fun claims => !claims.isEmpty
    custom := draft.custom.eraseAll Parameter.registered }

/-- The request that is released. -/
def release (draft : AuthenticationRequest) : Except Fault AuthenticationRequest :=
  match draft.obstacle? with
  | some fault => .error fault
  | none => .ok draft.tidied

end AuthenticationRequest

end OpenIdConnect
