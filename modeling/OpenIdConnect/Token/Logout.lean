import OpenIdConnect.Parameter.Subject
import OpenIdConnect.Token.Compact

/-!
# Logout tokens

The claims of a token that reports a logout.  It names the end-user, the session or both,
and has no nonce, so that it cannot be mistaken for an ID token.
-/

namespace OpenIdConnect

/-- A logout token: all its claims, and those that are always there. -/
structure LogoutToken where
  members : Object
  issuer : String
  audience : NonEmpty String
  issuedAt : Int64
  tokenId : String
  events : Object

namespace LogoutToken

/-- The claim that a logout token must not have. -/
def forbidden : String := "nonce"

/-- The logout token of claims. -/
def ofObject (o : Object) : Except Fault LogoutToken := do
  let issuer ← o.require .tokenIssuer
  let audience ← o.require .audience
  let issuedAt ← o.require .issuedAt
  let tokenId ← o.require .tokenId
  let events ← o.require .events
  let subject ← o.optional .subject
  let session ← o.optional .session
  if subject.isNone ∧ session.isNone then throw .noSubjectOrSession
  if o.contains forbidden then throw .nonceInLogoutToken
  let _ ← o.optional .expiry
  return ⟨o, issuer, audience, issuedAt, tokenId, events⟩

/-- The logout token that a compact token carries, whatever its signature. -/
def ofToken (token : String) : Except Fault LogoutToken := do
  let claims ← Token.claims token
  inContext .logoutToken (ofObject claims)

/-- The logout token of an end-user, a session or both. -/
def make (issuer : String) (audience : NonEmpty String) (issuedAt : Int64) (tokenId : String)
    (subject session : Option String) : Except Fault LogoutToken :=
  if subject.isNone ∧ session.isNone then .error .noSubjectOrSession
  else
    .ok ⟨(Object.empty.write? .subject subject).write? .session session, issuer, audience,
      issuedAt, tokenId, logoutEvents⟩

/-- The claims of a logout token, with those that are always there in their written form. -/
def toObject (t : LogoutToken) : Object :=
  t.members
    |>.write .tokenIssuer t.issuer
    |>.write .audience t.audience
    |>.write .issuedAt t.issuedAt
    |>.write .tokenId t.tokenId
    |>.write .events t.events

/-- Are two tokens the same? -/
def same (a b : LogoutToken) : Bool :=
  a.members == b.members && a.issuer == b.issuer && a.audience == b.audience
    && a.issuedAt == b.issuedAt && a.tokenId == b.tokenId && a.events == b.events

instance : BEq LogoutToken := ⟨same⟩

/-- The end-user, if one is named. -/
def subject? (t : LogoutToken) : Option (Except Fault String) :=
  t.members.read? .subject

/-- The session, if one is named. -/
def session? (t : LogoutToken) : Option (Except Fault String) :=
  t.members.read? .session

/-- The time of expiry, if there is one. -/
def expiry? (t : LogoutToken) : Option (Except Fault Int64) :=
  t.members.read? .expiry

/-- The token with a time of expiry. -/
def setExpiry (t : LogoutToken) (time : Int64) : LogoutToken :=
  { t with members := t.members.write .expiry time }

/-- The token with another claim; those that are always there are kept apart from it. -/
def insert (t : LogoutToken) (name : String) (value : Json) : LogoutToken :=
  { t with members := t.members.insert name value }

/-- The token without a claim; those that are always there are kept apart from it. -/
def erase (t : LogoutToken) (name : String) : LogoutToken :=
  { t with members := t.members.erase name }

/-- Is the token meant for a client? -/
def isFor (t : LogoutToken) (clientId : String) : Bool :=
  t.audience.toList.contains clientId

end LogoutToken

end OpenIdConnect
