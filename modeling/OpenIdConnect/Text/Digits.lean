/-!
# Digits

Numerals in base ten and base sixteen, as lists of characters.
-/

namespace OpenIdConnect.Text

namespace Digits

/-- The decimal numeral of a natural number, without leading zeros. -/
def decimal (n : Nat) : List Char :=
  Nat.toDigits 10 n

/-- The decimal numeral of an integer, with a sign only when it is negative. -/
def signed : Int → List Char
  | .ofNat n => decimal n
  | .negSucc n => '-' :: decimal (n + 1)

/-- The lowercase hexadecimal numeral of a natural number, without leading zeros. -/
def hex (n : Nat) : List Char :=
  Nat.toDigits 16 n

/-- The value of a hexadecimal digit of either case. -/
def hexValue? (b : UInt8) : Option Nat :=
  if 0x30 ≤ b ∧ b ≤ 0x39 then some (b.toNat - 0x30)
  else if 0x41 ≤ b ∧ b ≤ 0x46 then some (b.toNat - 0x37)
  else if 0x61 ≤ b ∧ b ≤ 0x66 then some (b.toNat - 0x57)
  else none

/-- The two uppercase hexadecimal digits of a byte. -/
def hexPair (b : UInt8) : List Char :=
  [upperDigit (b.toNat / 16), upperDigit (b.toNat % 16)]
where
  upperDigit (n : Nat) : Char :=
    if n < 10 then Char.ofNat (0x30 + n) else Char.ofNat (0x37 + n)

/-- Is this byte an ASCII decimal digit? -/
def isDigit (b : UInt8) : Bool :=
  0x30 ≤ b && b ≤ 0x39

end Digits

end OpenIdConnect.Text
