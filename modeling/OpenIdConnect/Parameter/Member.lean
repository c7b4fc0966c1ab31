import OpenIdConnect.Parameter.Provider
import OpenIdConnect.Parameter.Subject

/-!
# Members by name

Every parameter with the type of its values set aside: a member is checked by reading it,
and brought into its written form by writing it again.
-/

namespace OpenIdConnect

/-- A named member, the values of which are taken in their written form. -/
structure Member where
  name : String
  canonical : Json → Except Fault Json
  implied : Option Json

namespace Parameter

variable {α : Type}

/-- The member that a parameter stands for, which has no value when it is absent. -/
def member (p : Parameter α) : Member :=
  ⟨p.name, p.canonical, none⟩

/-- The member that a parameter stands for, which has a value even when it is absent. -/
def memberOr (p : Parameter α) (value : α) : Member :=
  ⟨p.name, p.canonical, some (p.write value)⟩

end Parameter

namespace Object

/-- The member in its written form, if it is there. -/
def canonical? (o : Object) (m : Member) : Option (Except Fault Json) :=
  (o.get? m.name).map m.canonical

/-- The member in its written form; it has to be there. -/
def requireCanonical (o : Object) (m : Member) : Except Fault Json :=
  match o.get? m.name with
  | none => .error (.missing m.name)
  | some value => inContext (.parameter m.name) (m.canonical value)

/-- The member in its written form, or its value when it is absent, if it has one. -/
def canonicalOrImplied? (o : Object) (m : Member) : Option (Except Fault Json) :=
  m.implied.map fun implied => (o.canonical? m).getD (.ok implied)

/-- Can the member be read, if it is there? -/
def validate (o : Object) (m : Member) : Except Fault Unit :=
  match o.get? m.name with
  | none => .ok ()
  | some value => inContext (.parameter m.name) ((m.canonical value).map fun _ => ())

end Object

namespace Member

open Parameter

/-- The members of authentication requests. -/
def ofRequests : List Member :=
  [clientId.member, redirectUri.member, state.member, nonce.member, scope.memberOr .empty,
    responseType.member, responseMode.member, display.memberOr .page, prompt.member,
    maxAge.member, uiLocales.member, claimsLocales.member, idTokenHint.member, loginHint.member,
    acrValues.member, request.member, requestUri.member, codeChallenge.member,
    codeChallengeMethod.memberOr .plain, resource.member, includeGrantedScopes.member,
    claims.memberOr .empty]

/-- The members of statements about a subject. -/
def ofSubjects : List Member :=
  [subject.member, tokenIssuer.member, audience.member, issuedAt.member, expiry.member,
    tokenId.member, events.memberOr logoutEvents, session.member]

/-- The members of provider metadata. -/
def ofProviders : List Member :=
  [issuer.member, authorizationEndpoint.member, tokenEndpoint.member, userinfoEndpoint.member,
    jwksUri.member, responseTypesSupported.member,
    responseModesSupported.memberOr responseModesImplied, subjectTypesSupported.member,
    signingAlgorithms.member, scopesSupported.memberOr [], claimsSupported.memberOr [],
    classesSupported.memberOr [], displaysSupported.member, trustFrameworksSupported.memberOr [],
    verifiableClaims.memberOr [], claimsParameterSupported.memberOr false,
    requestParameterSupported.memberOr false, requestUriParameterSupported.memberOr true,
    verifiedClaimsSupported.memberOr false, backchannelLogoutSupported.memberOr false]

/-- The member of a name. -/
def find? (name : String) : Option Member :=
  (ofRequests ++ ofSubjects ++ ofProviders).find? fun m => m.name == name

end Member

end OpenIdConnect
