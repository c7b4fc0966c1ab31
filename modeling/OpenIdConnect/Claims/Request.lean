import OpenIdConnect.Claims.Side
import OpenIdConnect.Json.Printer

/-!
# Claims requests

The claims requested in the ID token and from the UserInfo endpoint, each side with plain
claims and verified claims.  A claims request may also be written as a string that holds
its JSON text, any number of times over; the text of a string is longer than the string,
so unwrapping ends.
-/

namespace OpenIdConnect

namespace Claims

/-- A claims request. -/
structure Request where
  idToken : Side
  userinfo : Side

namespace Request

/-- The request without claims. -/
def empty : Request := ⟨.empty, .empty⟩

instance : Inhabited Request := ⟨empty⟩

/-- Is nothing requested? -/
def isEmpty (r : Request) : Bool :=
  r.idToken.isEmpty && r.userinfo.isEmpty

/-- Do two requests ask for the same? -/
def same (a b : Request) : Bool :=
  a.idToken == b.idToken && a.userinfo == b.userinfo

instance : BEq Request := ⟨same⟩

/-- The request with other plain claims in the ID token. -/
def setIdToken (r : Request) (claims : Selection) : Request :=
  { r with idToken := r.idToken.setPlain claims }

/-- The request with other plain claims from the UserInfo endpoint. -/
def setUserinfo (r : Request) (claims : Selection) : Request :=
  { r with userinfo := r.userinfo.setPlain claims }

/-- The request with one more request for verified claims in the ID token. -/
def addIdTokenVerified (r : Request) (v : Verified) : Except Fault Request :=
  (r.idToken.addVerified v).map fun side => { r with idToken := side }

/-- The request with one more request for verified claims from the UserInfo endpoint. -/
def addUserinfoVerified (r : Request) (v : Verified) : Except Fault Request :=
  (r.userinfo.addVerified v).map fun side => { r with userinfo := side }

/-- Both requests. -/
def add (r other : Request) : Request :=
  ⟨r.idToken.add other.idToken, r.userinfo.add other.userinfo⟩

/-- The written form: a side that nothing is requested from is left out. -/
def toObject (r : Request) : Object :=
  let start :=
    if r.idToken.isEmpty then Object.empty
    else Object.empty.insert "id_token" r.idToken.toObject.toJson
  if r.userinfo.isEmpty then start else start.insert "userinfo" r.userinfo.toObject.toJson

/-- The text of the written form. -/
def text (r : Request) : String :=
  r.toObject.compact

/--
The value that a string holds the text of, for as long as it is a string.  Each text is
longer than the string it denotes, so the number of its bytes bounds the steps.
-/
def unwrap : Nat → Json → Except Fault Json
  | fuel + 1, .string s =>
    match Json.read s with
    | .ok v => unwrap fuel v
    | .error e => .error (.notJson e)
  | _, v => .ok v

/-- How often a value can be unwrapped at most. -/
def unwrapBound : Json → Nat
  | .string s => s.utf8ByteSize + 1
  | _ => 0

/-- The request that an unwrapped value writes. -/
def parseObject : Json → Except Fault Request
  | .object members => do
    let o := Object.ofList members
    let idToken ← Side.read "id_token" (o.get? "id_token")
    let userinfo ← Side.read "userinfo" (o.get? "userinfo")
    return ⟨idToken, userinfo⟩
  | _ => .error (.notAnObject "claims")

/-- The request that a value writes. -/
def parse (value : Json) : Except Fault Request :=
  (do parseObject (← unwrap (unwrapBound value) value)).mapError .inClaims

end Request

end Claims

end OpenIdConnect
