import OpenIdConnect.Text.Percent
import OpenIdConnect.Text.Pieces
import OpenIdConnect.Text.Utf8

/-!
# Form encoding

Pairs of texts as one text of ASCII: `name=value` parts with an ampersand between each
two.  A space is written as a plus sign, letters, digits and `*-._` stand for themselves,
and every other byte is percent-encoded.  When pairs are read, empty parts are passed
over, a part without an equals sign is a name without a value, and bytes that are not
UTF-8 become replacement characters.
-/

namespace OpenIdConnect.Text

namespace Form

/-- Does the byte stand for itself? -/
def isPlain (b : UInt8) : Bool :=
  (0x30 ≤ b && b ≤ 0x39) || (0x41 ≤ b && b ≤ 0x5A) || (0x61 ≤ b && b ≤ 0x7A)
    || b == 0x2A || b == 0x2D || b == 0x2E || b == 0x5F

/-- The encoding of a byte. -/
def encodeByte (b : UInt8) : List Char :=
  if b = 0x20 then ['+']
  else if isPlain b then [Char.ofNat b.toNat]
  else Percent.encodeByte b

/-- The encoding of a text. -/
def encode (s : String) : List Char :=
  (Utf8.bytes s).flatMap encodeByte

/-- The encoding of a pair. -/
def encodePair (pair : String × String) : List Char :=
  encode pair.1 ++ '=' :: encode pair.2

/-- The encodings of pairs with an ampersand between each two. -/
def encodePairs : List (String × String) → List Char
  | [] => []
  | [pair] => encodePair pair
  | pair :: pairs => encodePair pair ++ '&' :: encodePairs pairs

/-- The pairs as one text. -/
def write (pairs : List (String × String)) : String :=
  String.ofList (encodePairs pairs)

/-- The text that an encoding stands for. -/
def decode (encoded : List Char) : String :=
  let spaced := encoded.map fun c => if c = '+' then ' ' else c
  Utf8.decodeLossy (Percent.decode (Utf8.bytes (String.ofList spaced)))

/-- The pair that a part stands for. -/
def decodePair (part : List Char) : String × String :=
  let (name, value) := cutAtFirst (· == '=') part
  (decode name, decode (value.getD []))

/-- The pairs that a text stands for. -/
def read (text : String) : List (String × String) :=
  ((pieces (· == '&') text.toList).filter fun part => !part.isEmpty).map decodePair

end Form

end OpenIdConnect.Text
