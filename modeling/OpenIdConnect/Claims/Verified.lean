import OpenIdConnect.Claims.Selection

/-!
# Verified claims

A request for claims together with the verification that they have to carry.  The
verification is kept as it is written.  A written request always asks for some claim.
-/

namespace OpenIdConnect

namespace Claims

/-- A request for verified claims. -/
structure Verified where
  verification : Object
  claims : Selection

namespace Verified

/-- The verification under a trust framework. -/
def underFramework (framework : String) : Object :=
  Object.empty.insert "trust_framework" (.string framework)

/-- The verification under any trust framework. -/
def anyVerification : Object :=
  Object.empty.insert "trust_framework" .null

/-- The request under another verification. -/
def setVerification (v : Verified) (verification : Object) : Verified :=
  { v with verification := verification }

/-- The request for other claims. -/
def setClaims (v : Verified) (claims : Selection) : Verified :=
  { v with claims := claims }

/-- The request with a request for a claim added, or replaced when its key is there. -/
def insert (v : Verified) (c : Individual) : Verified :=
  v.setClaims (v.claims.insert c)

/-- The request without the request for exactly this claim. -/
def erase (v : Verified) (key : Key) : Verified :=
  v.setClaims (v.claims.erase key)

/-- Do two requests ask for the same? -/
def same (a b : Verified) : Bool :=
  a.verification == b.verification && a.claims == b.claims

instance : BEq Verified := ⟨same⟩

/-- The written form. -/
def members (v : Verified) : Object :=
  (Object.empty.insert "verification" v.verification.toJson).insert "claims"
    v.claims.toObject.toJson

/-- The written form of a request that asks for some claim. -/
def toObject (v : Verified) : Except Fault Object :=
  if v.claims.isEmpty then .error .nothingToVerify else .ok v.members

/-- The verification that a member writes. -/
def readVerification : Option Json → Except Fault Object
  | some (.object members) => .ok (.ofList members)
  | some _ => .error (.notAnObject "verification")
  | none => .error .missingVerification

/-- The claims that a member writes. -/
def readClaims : Option Json → Except Fault Selection
  | some (.object members) => Selection.parse (.ofList members)
  | some .null => .ok .empty
  | none => .ok .empty
  | some _ => .error (.notAnObject "claims")

/-- The request that an object writes. -/
def parse (o : Object) : Except Fault Verified := do
  if o.isEmpty then throw .emptyVerifiedClaims
  let verification ← readVerification (o.get? "verification")
  let claims ← readClaims (o.get? "claims")
  if claims.isEmpty then throw .nothingToVerify
  return ⟨verification, claims⟩

/-- A fault inside verified claims; that nothing is asked for stands by itself. -/
def located : Fault → Fault
  | .nothingToVerify => .nothingToVerify
  | fault => .inVerifiedClaims fault

/-- The request that an element of a list writes. -/
def parseElement : Json → Except Fault Verified
  | .object members => parse (.ofList members)
  | _ => .error (.notAnObject "verified_claims element")

/-- The requests that one object or a list of them writes. -/
def parseAll : Json → Except Fault (List Verified)
  | .object members => (parse (.ofList members)).map fun v => [v]
  | .array [] => .error .emptyVerifiedClaims
  | .array elements => elements.mapM parseElement
  | _ => .error (.notAnObject "verified_claims")

/-- The requests that the member for verified claims writes. -/
def parseList (value : Json) : Except Fault (List Verified) :=
  (parseAll value).mapError located

end Verified

end Claims

end OpenIdConnect
