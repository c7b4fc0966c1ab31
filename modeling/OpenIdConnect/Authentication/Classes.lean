import OpenIdConnect.Authentication.Request

/-!
# Classes of authentication

The authentication context classes that a client asks for.  The `acr_values` parameter
asks for voluntary ones; a request for the `acr` claim in the ID token can make them
essential.  At least one essential class has to be supported.
-/

namespace OpenIdConnect

/-- The classes of authentication asked for, each once on its side. -/
structure ClassRequest where
  essential : List String
  voluntary : List String
deriving DecidableEq

namespace ClassRequest

/-- The claim that names the class of an authentication. -/
def classClaim : Claims.Key :=
  ⟨"acr", none⟩

/-- The classes that a request for the claim names. -/
def classesOf (claim : Claims.Individual) : List String :=
  match claim.valueText?, claim.valuesTexts? with
  | some value, _ => [value]
  | none, some values => values
  | none, none => []

/-- The request for the claim in the ID token. -/
def claim? (r : AuthenticationRequest) : Option Claims.Individual := do
  let claims ← r.claims
  let plain ← claims.idToken.plain
  plain.get? classClaim

/-- The classes that an authentication request asks for. -/
def ofRequest (r : AuthenticationRequest) : ClassRequest :=
  let voluntary := Distinct.ofList ((r.acrValues.map NonEmpty.toList).getD [])
  match claim? r with
  | none => ⟨[], voluntary⟩
  | some claim =>
    if claim.isEssential then ⟨Distinct.ofList (classesOf claim), voluntary⟩
    else ⟨[], Distinct.addAll voluntary (classesOf claim)⟩

/-- Is no class asked for? -/
def isEmpty (c : ClassRequest) : Bool :=
  c.essential.isEmpty && c.voluntary.isEmpty

/-- Can the request be met with the supported classes? -/
def isMet (c : ClassRequest) (supported : List String) : Bool :=
  c.essential.isEmpty || c.essential.any supported.contains

/-- Refuse an authentication request that cannot be met with the supported classes. -/
def ensure (c : ClassRequest) (r : AuthenticationRequest) (supported : List String) :
    Except Refusal Unit :=
  if c.isMet supported then .ok () else .error (r.refuse .classesUnsupported)

end ClassRequest

end OpenIdConnect
