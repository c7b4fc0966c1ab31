import OpenIdConnect.Json.Object
import OpenIdConnect.Text.Digits
import OpenIdConnect.Text.Utf8

/-!
# Reading JSON text

A reader over bytes.  A failure keeps the bytes that follow the place it is reported at;
the line and the column are computed from what precedes them.  A failure at a byte that
has only been looked at is reported behind that byte, a failure at a byte that has been
consumed behind it as well, and a failure at the end of the text at the end.
The names of an object are kept in ascending order, the last value of a name counts, and
arrays and objects nest at most 127 deep.
-/

namespace OpenIdConnect

namespace Json

/-- Why a text is not JSON. -/
inductive Defect where
  | endInValue
  | endInList
  | endInObject
  | endInString
  | expectedValue
  | expectedColon
  | expectedCommaOrBracket
  | expectedCommaOrBrace
  | expectedLiteral
  | trailingComma
  | trailingCharacters
  | nameNotString
  | tooDeep
  | invalidNumber
  | numberOutOfRange
  | controlCharacter
  | invalidEscape
  | loneSurrogate
  | unfinishedPair
  | invalidUtf8
deriving DecidableEq

namespace Defect

/-- The wording of a defect. -/
def message : Defect → String
  | endInValue => "EOF while parsing a value"
  | endInList => "EOF while parsing a list"
  | endInObject => "EOF while parsing an object"
  | endInString => "EOF while parsing a string"
  | expectedValue => "expected value"
  | expectedColon => "expected `:`"
  | expectedCommaOrBracket => "expected `,` or `]`"
  | expectedCommaOrBrace => "expected `,` or `\x7d`"
  | expectedLiteral => "expected ident"
  | trailingComma => "trailing comma"
  | trailingCharacters => "trailing characters"
  | nameNotString => "key must be a string"
  | tooDeep => "recursion limit exceeded"
  | invalidNumber => "invalid number"
  | numberOutOfRange => "number out of range"
  | controlCharacter => "control character (\\u0000-\\u001F) found while parsing a string"
  | invalidEscape => "invalid escape"
  | loneSurrogate => "lone leading surrogate in hex escape"
  | unfinishedPair => "unexpected end of hex escape"
  | invalidUtf8 => "invalid unicode code point"

end Defect

/-- A defect and the bytes behind the place it is reported at. -/
structure Stop where
  defect : Defect
  behind : List UInt8

/-- A defect with its line and column. -/
structure Misread where
  defect : Defect
  line : Nat
  column : Nat
deriving DecidableEq

/-- The wording of a defect and its place. -/
def Misread.message (e : Misread) : String :=
  e.defect.message ++ " at line " ++ toString e.line ++ " column " ++ toString e.column

namespace Reader

/-- A result and the bytes that follow. -/
abbrev Reading (α : Type) : Type := α × List UInt8

/-- A failure at the next byte, which has only been looked at. -/
def failAt {α : Type} (defect : Defect) (input : List UInt8) : Except Stop α :=
  .error ⟨defect, input.drop 1⟩

/-- A failure right behind the consumed bytes. -/
def failBehind {α : Type} (defect : Defect) (input : List UInt8) : Except Stop α :=
  .error ⟨defect, input⟩

/-- Is this byte blank between the tokens? -/
def isBlank (b : UInt8) : Bool :=
  b == 0x20 || b == 0x09 || b == 0x0A || b == 0x0D

/-- The bytes from the first that is not blank. -/
def skipBlanks (input : List UInt8) : List UInt8 :=
  input.dropWhile isBlank

/-- The rest of a literal whose first byte is consumed. -/
def literal (value : Json) : List UInt8 → List UInt8 → Except Stop (Reading Json)
  | [], input => .ok (value, input)
  | _ :: _, [] => failBehind .endInValue []
  | e :: expected, b :: input =>
    if b = e then literal value expected input else failBehind .expectedLiteral input

/-! ## Strings -/

/-- The number that four hexadecimal digits write. -/
def hexQuad? (a b c d : UInt8) : Option Nat := do
  let a ← Text.Digits.hexValue? a
  let b ← Text.Digits.hexValue? b
  let c ← Text.Digits.hexValue? c
  let d ← Text.Digits.hexValue? d
  return ((a * 16 + b) * 16 + c) * 16 + d

/-- The unit that an escape with four digits writes; the digits are consumed before they count. -/
def hexEscape : List UInt8 → Except Stop (Reading Nat)
  | a :: b :: c :: d :: input =>
    match hexQuad? a b c d with
    | some n => .ok (n, input)
    | none => failBehind .invalidEscape input
  | _ => failBehind .endInString []

/-- The bytes of the character with this code point. -/
def codeBytes (n : Nat) : List UInt8 :=
  String.utf8EncodeChar (Char.ofNat n)

/-- A character escaped by one unit or by a pair of them; `\u` is consumed. -/
def unicodeEscape (input : List UInt8) : Except Stop (Reading (List UInt8)) := do
  let (high, input) ← hexEscape input
  if 0xDC00 ≤ high ∧ high ≤ 0xDFFF then failBehind .loneSurrogate input
  else if high < 0xD800 ∨ 0xDBFF < high then .ok (codeBytes high, input)
  else
    match input with
    | [] => failBehind .endInString []
    | b :: input =>
      if b ≠ 0x5C then failBehind .unfinishedPair input
      else
        match input with
        | [] => failBehind .endInString []
        | b :: input =>
          if b ≠ 0x75 then failBehind .unfinishedPair input
          else do
            let (low, input) ← hexEscape input
            if low < 0xDC00 ∨ 0xDFFF < low then failBehind .loneSurrogate input
            else .ok (codeBytes (0x10000 + (high - 0xD800) * 0x400 + (low - 0xDC00)), input)

/-- An escaped character; the backslash is consumed. -/
def escape : List UInt8 → Except Stop (Reading (List UInt8))
  | [] => failBehind .endInString []
  | b :: input =>
    if b = 0x22 ∨ b = 0x5C ∨ b = 0x2F then .ok ([b], input)
    else if b = 0x62 then .ok ([0x08], input)
    else if b = 0x66 then .ok ([0x0C], input)
    else if b = 0x6E then .ok ([0x0A], input)
    else if b = 0x72 then .ok ([0x0D], input)
    else if b = 0x74 then .ok ([0x09], input)
    else if b = 0x75 then unicodeEscape input
    else failBehind .invalidEscape input

/-- The bytes of a string up to its closing quotation mark; the opening one is consumed. -/
def stringBytes : Nat → List UInt8 → Except Stop (Reading (List UInt8))
  | 0, _ => failBehind .endInString []
  | _ + 1, [] => failBehind .endInString []
  | fuel + 1, b :: input =>
    if b = 0x22 then .ok ([], input)
    else if b = 0x5C then do
      let (piece, input) ← escape input
      let (more, input) ← stringBytes fuel input
      .ok (piece ++ more, input)
    else if b < 0x20 then failBehind .controlCharacter input
    else do
      let (more, input) ← stringBytes fuel input
      .ok (b :: more, input)

/--
A string; the opening quotation mark is consumed.  Bytes that are not UTF-8 are found when the
string is complete.  Their place is counted back from its end over the bytes from the first
hole on, an escape counting as what it stands for.
-/
def string (input : List UInt8) : Except Stop (Reading String) := do
  let (bytes, rest) ← stringBytes (input.length + 1) input
  match Text.Utf8.decode? bytes with
  | some s => .ok (s, rest)
  | none =>
    let consumed := input.length - rest.length
    .error ⟨.invalidUtf8, input.drop (consumed - (Text.Utf8.fromFirstHole bytes).length)⟩

/-! ## Numbers -/

/-- The largest significand that is kept in full: a larger one loses its last digits. -/
def maxSignificand : Nat :=
  18446744073709551615

/-- A floating-point number, unless it is too large. -/
def float (negative : Bool) (significand : Nat) (exponent : Int) (input : List UInt8) :
    Except Stop (Reading Number) :=
  match Decimal.Binary64.ofDecimal? negative significand exponent with
  | some x => .ok (.float x, input)
  | none => failBehind .numberOutOfRange input

/-- The significand continued by the digits that fit, how many they are, and what follows. -/
def digits (significand : Nat) : List UInt8 → Nat × Nat × List UInt8
  | [] => (significand, 0, [])
  | b :: input =>
    if Text.Digits.isDigit b then
      let next := significand * 10 + (b.toNat - 0x30)
      if maxSignificand < next then (significand, 0, b :: input)
      else
        let (result, count, rest) := digits next input
        (result, count + 1, rest)
    else (significand, 0, b :: input)

/-- The largest written exponent that is counted. -/
def maxExponent : Nat :=
  2147483647

/-- The digits of an exponent after its first one; `none` at the digit that makes it too large. -/
def exponentDigits (exponent : Nat) : List UInt8 → Option Nat × List UInt8
  | [] => (some exponent, [])
  | b :: input =>
    if Text.Digits.isDigit b then
      let next := exponent * 10 + (b.toNat - 0x30)
      if maxExponent < next then (none, input) else exponentDigits next input
    else (some exponent, b :: input)

/-- A number from its exponent on; the letter is consumed. -/
def exponent (negative : Bool) (significand : Nat) (start : Int) (input : List UInt8) :
    Except Stop (Reading Number) :=
  let (down, input) :=
    match input with
    | b :: rest => if b = 0x2B then (false, rest) else if b = 0x2D then (true, rest) else (false, input)
    | [] => (false, [])
  match input with
  | [] => failBehind .endInValue []
  | b :: input =>
    if Text.Digits.isDigit b then
      match exponentDigits (b.toNat - 0x30) input with
      | (some e, input) => float negative significand (if down then start - e else start + e) input
      | (none, input) =>
        if significand ≠ 0 ∧ !down then failBehind .numberOutOfRange input
        else .ok (.float (.zero negative), input.dropWhile Text.Digits.isDigit)
    else failBehind .invalidNumber input

/-- Is this byte the letter of an exponent? -/
def isExponentLetter (b : UInt8) : Bool :=
  b == 0x65 || b == 0x45

/-- A number whose digits are read: its exponent, if there is one. -/
def exponent? (negative : Bool) (significand : Nat) (start : Int) (input : List UInt8) :
    Except Stop (Reading Number) :=
  match input with
  | b :: rest =>
    if isExponentLetter b then exponent negative significand start rest
    else float negative significand start input
  | [] => float negative significand start []

/-- A number from its decimal point on; the point is consumed. -/
def fraction (negative : Bool) (significand : Nat) (start : Int) (input : List UInt8) :
    Except Stop (Reading Number) :=
  let (significand, count, rest) := digits significand input
  match rest with
  | b :: _ =>
    if Text.Digits.isDigit b then
      exponent? negative significand (start - count) (rest.dropWhile Text.Digits.isDigit)
    else if count = 0 then failAt .invalidNumber rest
    else exponent? negative significand (start - count) rest
  | [] =>
    if count = 0 then failAt .endInValue [] else exponent? negative significand (start - count) []

/-- A number whose integer digits have all been kept. -/
def afterInteger (negative : Bool) (significand : Nat) (input : List UInt8) : Except Stop (Reading Number) :=
  match input with
  | b :: rest =>
    if b = 0x2E then fraction negative significand 0 rest
    else if isExponentLetter b then exponent negative significand 0 rest
    else whole input
  | [] => whole []
where
  /-- An integer when it fits and is not a negative zero. -/
  whole (input : List UInt8) : Except Stop (Reading Number) :=
    if negative then
      if significand = 0 then float true 0 0 input
      else
        match Number.ofInt? (- (significand : Int)) with
        | some n => .ok (n, input)
        | none => float true significand 0 input
    else
      match Number.ofInt? significand with
      | some n => .ok (n, input)
      | none => float false significand 0 input

/-- A number whose integer digits do not all fit: the others only count. -/
def longInteger (negative : Bool) (significand : Nat) (input : List UInt8) : Except Stop (Reading Number) :=
  let dropped := input.takeWhile Text.Digits.isDigit
  let rest := input.dropWhile Text.Digits.isDigit
  match rest with
  | b :: more =>
    if b = 0x2E then fraction negative significand dropped.length more
    else exponent? negative significand dropped.length rest
  | [] => float negative significand dropped.length []

/-- A number; its sign is consumed. -/
def number (negative : Bool) (input : List UInt8) : Except Stop (Reading Number) :=
  match input with
  | [] => failBehind .endInValue []
  | b :: rest =>
    if b = 0x30 then
      match rest with
      | c :: _ =>
        if Text.Digits.isDigit c then failAt .invalidNumber rest else afterInteger negative 0 rest
      | [] => afterInteger negative 0 []
    else if Text.Digits.isDigit b then
      let (significand, _, rest) := digits 0 input
      match rest with
      | c :: _ =>
        if Text.Digits.isDigit c then longInteger negative significand rest
        else afterInteger negative significand rest
      | [] => afterInteger negative significand []
    else failBehind .invalidNumber rest

/-! ## Values -/

mutual

/-- A value; `depth` is how deep arrays and objects may still nest. -/
def value (fuel depth : Nat) (input : List UInt8) : Except Stop (Reading Json) :=
  match fuel with
  | 0 => failAt .endInValue []
  | fuel + 1 =>
    match skipBlanks input with
    | [] => failAt .endInValue []
    | b :: rest =>
      if b = 0x6E then literal .null [0x75, 0x6C, 0x6C] rest
      else if b = 0x74 then literal (.bool true) [0x72, 0x75, 0x65] rest
      else if b = 0x66 then literal (.bool false) [0x61, 0x6C, 0x73, 0x65] rest
      else if b = 0x2D then do
        let (n, rest) ← number true rest
        .ok (.number n, rest)
      else if Text.Digits.isDigit b then do
        let (n, rest) ← number false (b :: rest)
        .ok (.number n, rest)
      else if b = 0x22 then do
        let (s, rest) ← string rest
        .ok (.string s, rest)
      else if b = 0x5B then
        match depth with
        | 0 => failBehind .tooDeep rest
        | depth + 1 => do
          let (items, rest) ← firstItem fuel depth rest
          .ok (.array items, rest)
      else if b = 0x7B then
        match depth with
        | 0 => failBehind .tooDeep rest
        | depth + 1 => do
          let (members, rest) ← firstMember fuel depth rest
          .ok ((Object.ofList members).toJson, rest)
      else failBehind .expectedValue rest

/-- The items of an array; its bracket is consumed. -/
def firstItem (fuel depth : Nat) (input : List UInt8) : Except Stop (Reading (List Json)) :=
  match fuel with
  | 0 => failAt .endInList []
  | fuel + 1 =>
    match skipBlanks input with
    | [] => failAt .endInList []
    | b :: rest =>
      if b = 0x5D then .ok ([], rest)
      else do
        let (item, rest) ← value fuel depth (b :: rest)
        let (items, rest) ← moreItems fuel depth rest
        .ok (item :: items, rest)

/-- The items of an array after one of them. -/
def moreItems (fuel depth : Nat) (input : List UInt8) : Except Stop (Reading (List Json)) :=
  match fuel with
  | 0 => failAt .endInList []
  | fuel + 1 =>
    match skipBlanks input with
    | [] => failAt .endInList []
    | b :: rest =>
      if b = 0x5D then .ok ([], rest)
      else if b = 0x2C then
        match skipBlanks rest with
        | [] => failAt .endInValue []
        | c :: rest =>
          if c = 0x5D then failBehind .trailingComma rest
          else do
            let (item, rest) ← value fuel depth (c :: rest)
            let (items, rest) ← moreItems fuel depth rest
            .ok (item :: items, rest)
      else failBehind .expectedCommaOrBracket rest

/-- The members of an object; its brace is consumed. -/
def firstMember (fuel depth : Nat) (input : List UInt8) : Except Stop (Reading (List (String × Json))) :=
  match fuel with
  | 0 => failAt .endInObject []
  | fuel + 1 =>
    match skipBlanks input with
    | [] => failAt .endInObject []
    | b :: rest =>
      if b = 0x7D then .ok ([], rest)
      else if b = 0x22 then member fuel depth rest
      else failBehind .nameNotString rest

/-- The members of an object after one of them. -/
def moreMembers (fuel depth : Nat) (input : List UInt8) : Except Stop (Reading (List (String × Json))) :=
  match fuel with
  | 0 => failAt .endInObject []
  | fuel + 1 =>
    match skipBlanks input with
    | [] => failAt .endInObject []
    | b :: rest =>
      if b = 0x7D then .ok ([], rest)
      else if b = 0x2C then
        match skipBlanks rest with
        | [] => failAt .endInValue []
        | c :: rest =>
          if c = 0x22 then member fuel depth rest
          else if c = 0x7D then failBehind .trailingComma rest
          else failBehind .nameNotString rest
      else failBehind .expectedCommaOrBrace rest

/-- A member and those after it; the quotation mark of its name is consumed. -/
def member (fuel depth : Nat) (input : List UInt8) : Except Stop (Reading (List (String × Json))) :=
  match fuel with
  | 0 => failAt .endInObject []
  | fuel + 1 => do
    let (name, rest) ← string input
    match skipBlanks rest with
    | [] => failAt .endInObject []
    | b :: rest =>
      if b = 0x3A then do
        let (v, rest) ← value fuel depth rest
        let (members, rest) ← moreMembers fuel depth rest
        .ok ((name, v) :: members, rest)
      else failBehind .expectedColon rest

end

/-- How deep arrays and objects may nest. -/
def maxDepth : Nat :=
  127

/-- A whole document. -/
def document (input : List UInt8) : Except Stop Json := do
  let (v, rest) ← value (2 * input.length + 2) maxDepth input
  match skipBlanks rest with
  | [] => .ok v
  | _ :: rest => failBehind .trailingCharacters rest

/-- The line and the column that the consumed bytes end at. -/
def place (consumed : List UInt8) : Nat × Nat :=
  (consumed.count 0x0A + 1, (consumed.reverse.takeWhile (· != 0x0A)).length)

end Reader

/-- The value that a sequence of bytes writes. -/
def readBytes (input : List UInt8) : Except Misread Json :=
  match Reader.document input with
  | .ok v => .ok v
  | .error stop =>
    let (line, column) := Reader.place (input.take (input.length - stop.behind.length))
    .error ⟨stop.defect, line, column⟩

/-- The value that a text writes. -/
def read (text : String) : Except Misread Json :=
  readBytes (Text.Utf8.bytes text)

end Json

end OpenIdConnect
