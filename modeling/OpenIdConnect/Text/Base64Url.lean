import OpenIdConnect.Text.Utf8

/-!
# Base64 for URLs

Bytes in groups of six bits, without padding.  The bits behind the last whole byte have
to be zero.
-/

namespace OpenIdConnect.Text

namespace Base64Url

/-- Why bytes are not an encoding. -/
inductive Defect where
  | remainder
  | byte (value : UInt8) (offset : Nat)
  | lastSymbol (value : UInt8) (offset : Nat)
deriving DecidableEq

/-- The wording of a defect. -/
def Defect.message : Defect → String
  | remainder => "Encoded text cannot have a 6-bit remainder."
  | byte value offset =>
    "Invalid byte " ++ toString value.toNat ++ ", offset " ++ toString offset ++ "."
  | lastSymbol value offset =>
    "Invalid last symbol " ++ toString value.toNat ++ ", offset " ++ toString offset ++ "."

/-- The symbol of a group of six bits. -/
def symbol (n : Nat) : UInt8 :=
  if n < 26 then UInt8.ofNat (0x41 + n)
  else if n < 52 then UInt8.ofNat (0x61 + (n - 26))
  else if n < 62 then UInt8.ofNat (0x30 + (n - 52))
  else if n = 62 then 0x2D
  else 0x5F

/-- The six bits that a symbol stands for. -/
def value? (b : UInt8) : Option Nat :=
  if 0x41 ≤ b ∧ b ≤ 0x5A then some (b.toNat - 0x41)
  else if 0x61 ≤ b ∧ b ≤ 0x7A then some (b.toNat - 0x61 + 26)
  else if 0x30 ≤ b ∧ b ≤ 0x39 then some (b.toNat - 0x30 + 52)
  else if b = 0x2D then some 62
  else if b = 0x5F then some 63
  else none

/-- The encoding of bytes. -/
def encode : List UInt8 → List UInt8
  | a :: b :: c :: rest =>
    symbol (a.toNat / 4) :: symbol (a.toNat % 4 * 16 + b.toNat / 16)
      :: symbol (b.toNat % 16 * 4 + c.toNat / 64) :: symbol (c.toNat % 64) :: encode rest
  | [a, b] =>
    [symbol (a.toNat / 4), symbol (a.toNat % 4 * 16 + b.toNat / 16), symbol (b.toNat % 16 * 4)]
  | [a] => [symbol (a.toNat / 4), symbol (a.toNat % 4 * 16)]
  | [] => []

/-- The bytes that groups of six bits hold; `none` when bits are left over. -/
def bytesOf? : List Nat → Option (List UInt8)
  | a :: b :: c :: d :: rest =>
    (bytesOf? rest).map fun more =>
      UInt8.ofNat (a * 4 + b / 16) :: UInt8.ofNat (b * 16 + c / 4) :: UInt8.ofNat (c * 64 + d)
        :: more
  | [a, b, c] =>
    if c % 4 = 0 then some [UInt8.ofNat (a * 4 + b / 16), UInt8.ofNat (b * 16 + c / 4)] else none
  | [a, b] => if b % 16 = 0 then some [UInt8.ofNat (a * 4 + b / 16)] else none
  | [_] => none
  | [] => some []

/-- The first byte that is no symbol, and its offset. -/
def firstInvalid? : Nat → List UInt8 → Option (UInt8 × Nat)
  | _, [] => none
  | offset, b :: rest =>
    if (value? b).isSome then firstInvalid? (offset + 1) rest else some (b, offset)

/-- The bytes that an encoding stands for. -/
def decode (encoded : List UInt8) : Except Defect (List UInt8) :=
  let last := encoded.length - 1
  if encoded.length % 4 = 1 then
    match firstInvalid? last (encoded.drop last) with
    | some (b, offset) => .error (.byte b offset)
    | none => .error .remainder
  else
    match firstInvalid? 0 encoded with
    | some (b, offset) => .error (.byte b offset)
    | none =>
      match bytesOf? (encoded.filterMap value?) with
      | some bytes => .ok bytes
      | none => .error (.lastSymbol (encoded.getLast?.getD 0) last)

/-- Bytes of ASCII as a text. -/
def asciiText (bytes : List UInt8) : String :=
  String.ofList (bytes.map fun b => Char.ofNat b.toNat)

/-- The encoding of a text. -/
def encodeText (s : String) : String :=
  asciiText (encode (Utf8.bytes s))

end Base64Url

end OpenIdConnect.Text
