/-!
# UTF-8

The bytes of a text, and the characters of a byte sequence.  Bytes that begin no
character are read as one hole per maximal subpart: the longest run that could still
have become a character counts once.
-/

namespace OpenIdConnect.Text

namespace Utf8

/-- The UTF-8 bytes of a text. -/
def bytes (s : String) : List UInt8 :=
  s.toList.flatMap String.utf8EncodeChar

/-- A character whose last bytes are still to come. -/
structure Pending where
  bits : Nat
  owed : Nat
  low : UInt8
  high : UInt8

/-- What one byte leads to. -/
inductive Step where
  | char (c : Char)
  | more (pending : Pending)
  | hole

/-- The step of a byte that stands between characters. -/
def start (b : UInt8) : Step :=
  if b < 0x80 then .char (Char.ofNat b.toNat)
  else if b < 0xC2 then .hole
  else if b < 0xE0 then .more ⟨b.toNat - 0xC0, 1, 0x80, 0xBF⟩
  else if b = 0xE0 then .more ⟨0, 2, 0xA0, 0xBF⟩
  else if b = 0xED then .more ⟨0xD, 2, 0x80, 0x9F⟩
  else if b < 0xF0 then .more ⟨b.toNat - 0xE0, 2, 0x80, 0xBF⟩
  else if b = 0xF0 then .more ⟨0, 3, 0x90, 0xBF⟩
  else if b < 0xF4 then .more ⟨b.toNat - 0xF0, 3, 0x80, 0xBF⟩
  else if b = 0xF4 then .more ⟨4, 3, 0x80, 0x8F⟩
  else .hole

/-- The step of a byte after an unfinished character, if it continues that character. -/
def Pending.next? (p : Pending) (b : UInt8) : Option Step :=
  if p.low ≤ b ∧ b ≤ p.high then
    let bits := p.bits * 64 + (b.toNat - 0x80)
    if p.owed ≤ 1 then some (.char (Char.ofNat bits))
    else some (.more ⟨bits, p.owed - 1, 0x80, 0xBF⟩)
  else none

/-- The characters of a byte sequence, with `none` for each hole. -/
def scan : Option Pending → List UInt8 → List (Option Char)
  | none, [] => []
  | some _, [] => [none]
  | none, b :: rest =>
    match start b with
    | .char c => some c :: scan none rest
    | .more p => scan (some p) rest
    | .hole => none :: scan none rest
  | some p, b :: rest =>
    match p.next? b with
    | some (.char c) => some c :: scan none rest
    | some (.more q) => scan (some q) rest
    | some .hole => none :: scan none rest
    | none =>
      match start b with
      | .char c => none :: some c :: scan none rest
      | .more q => none :: scan (some q) rest
      | .hole => none :: none :: scan none rest

/-- The text that the bytes spell, when they are well-formed. -/
def decode? (bs : List UInt8) : Option String :=
  ((scan none bs).mapM id).map String.ofList

/-- The bytes from the first hole on. -/
def fromFirstHole (bs : List UInt8) : List UInt8 :=
  let before := ((scan none bs).takeWhile Option.isSome).filterMap id
  bs.drop (before.flatMap String.utf8EncodeChar).length

/-- The text that the bytes spell, with U+FFFD for each hole. -/
def decodeLossy (bs : List UInt8) : String :=
  String.ofList ((scan none bs).map fun c => c.getD '\uFFFD')

end Utf8

end OpenIdConnect.Text
