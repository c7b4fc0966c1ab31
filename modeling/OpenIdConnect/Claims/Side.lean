import OpenIdConnect.Claims.Verified

/-!
# Sides of a claims request

What is requested in one place, the ID token or the UserInfo response: plain claims, and
any number of requests for verified claims.  A side without claims counts as absent.
-/

namespace OpenIdConnect

namespace Claims

/-- The claims requested from one side. -/
structure Side where
  plain : Option Selection
  verified : List Verified

namespace Side

/-- The side that nothing is requested from. -/
def empty : Side := ⟨none, []⟩

/-- Is nothing requested? -/
def isEmpty (s : Side) : Bool :=
  s.plain.isNone && s.verified.isEmpty

/-- Do two sides hold the same requests? -/
def same (a b : Side) : Bool :=
  a.plain == b.plain && a.verified == b.verified

instance : BEq Side := ⟨same⟩

/-- The side with other plain claims, of which there are none in an empty selection. -/
def setPlain (s : Side) (claims : Selection) : Side :=
  { s with plain := if claims.isEmpty then none else some claims }

/-- The side with one more request for verified claims, which asks for some claim. -/
def addVerified (s : Side) (v : Verified) : Except Fault Side :=
  if v.claims.isEmpty then .error .nothingToVerify
  else .ok { s with verified := s.verified ++ [v] }

/-- The plain claims of both. -/
def mergePlain : Option Selection → Option Selection → Option Selection
  | some claims, some other => some (claims.merge other)
  | none, some other => some other
  | claims, none => claims

/-- The requests of both sides. -/
def add (s other : Side) : Side :=
  ⟨mergePlain s.plain other.plain, s.verified ++ other.verified⟩

/-- The written form: a single request for verified claims stands outside a list. -/
def toObject (s : Side) : Object :=
  let plain := (s.plain.map Selection.toObject).getD .empty
  match s.verified with
  | [] => plain
  | [v] => plain.insert Selection.verifiedMember v.members.toJson
  | vs => plain.insert Selection.verifiedMember (.array (vs.map fun v => v.members.toJson))

/-- The requests for verified claims that a member writes. -/
def readVerified : Option Json → Except Fault (List Verified)
  | some value => Verified.parseList value
  | none => .ok []

/-- The side that a member of a claims request writes. -/
def parse (name : String) : Json → Except Fault Side
  | .object members => do
    let o := Object.ofList members
    let claims ← Selection.parse o
    let verified ← readVerified (o.get? Selection.verifiedMember)
    return { empty.setPlain claims with verified := verified }
  | _ => .error (.notAnObject name)

/-- The side that a member writes, if it is there. -/
def read (name : String) : Option Json → Except Fault Side
  | some value => parse name value
  | none => .ok empty

end Side

end Claims

end OpenIdConnect
