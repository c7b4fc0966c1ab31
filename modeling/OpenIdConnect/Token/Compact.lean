import OpenIdConnect.Fault
import OpenIdConnect.Text.Pieces

/-!
# Compact tokens

A JSON Web Token in its compact form: three segments when it is signed or unsecured, five
when it is encrypted.  Only the header and the claims are read; signatures are checked
elsewhere.
-/

namespace OpenIdConnect

namespace Token

/-- The segments between the points of a token. -/
def segments (token : String) : Except Fault (List (List Char)) :=
  let found := Text.pieces (· == '.') token.toList
  if found.length = 3 ∨ found.length = 5 then .ok found
  else .error (.jwtSegments found.length)

/-- A segment without the padding at its end. -/
def unpadded (segment : List Char) : List Char :=
  (segment.reverse.dropWhile (· == '=')).reverse

/-- The object that a segment encodes. -/
def segmentObject (segment : List Char) : Except Fault Object := do
  let encoded := Text.Utf8.bytes (String.ofList (unpadded segment))
  let bytes ← inContext .jwtSegment ((Text.Base64Url.decode encoded).mapError .base64)
  match ← (Json.readBytes bytes).mapError Fault.json with
  | .object members => return .ofList members
  | _ => throw .segmentNotAnObject

/-- The header of a token. -/
def header (token : String) : Except Fault Object := do
  match ← segments token with
  | first :: _ => inContext .jwtHeader (segmentObject first)
  | [] => throw (.jwtSegments 0)

/-- The claims of a token that is not encrypted, whatever its signature. -/
def claims (token : String) : Except Fault Object := do
  match ← segments token with
  | [_, second, _] => inContext .jwtClaims (segmentObject second)
  | _ => throw .encryptedJwt

/-- The header of an unsecured token. -/
def unsecuredHeader : Object :=
  Object.empty.insert "alg" (.string "none")

/-- The unsecured token that carries claims. -/
def unsecured (claims : Object) : String :=
  Text.Base64Url.encodeText unsecuredHeader.compact ++ "."
    ++ Text.Base64Url.encodeText claims.compact ++ "."

end Token

end OpenIdConnect
