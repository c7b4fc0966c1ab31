import OpenIdConnect.Text.Digits

/-!
# Percent-encoding

A byte is written as a percent sign and its two hexadecimal digits.  When bytes are
decoded, a percent sign that no two digits follow stands for itself.
-/

namespace OpenIdConnect.Text

namespace Percent

/-- A byte as a percent sign and two uppercase digits. -/
def encodeByte (b : UInt8) : List Char :=
  '%' :: Digits.hexPair b

/-- The byte that two hexadecimal digits write. -/
def byte? (high low : UInt8) : Option UInt8 := do
  let high ← Digits.hexValue? high
  let low ← Digits.hexValue? low
  return UInt8.ofNat (high * 16 + low)

/-- The bytes with every encoded byte replaced by the byte it stands for. -/
def decode : List UInt8 → List UInt8
  | b :: high :: low :: rest =>
    match if b = 0x25 then byte? high low else none with
    | some c => c :: decode rest
    | none => b :: decode (high :: low :: rest)
  | short => short

end Percent

end OpenIdConnect.Text
