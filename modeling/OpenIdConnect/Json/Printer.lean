import OpenIdConnect.Json.Object
import OpenIdConnect.Decimal.Shortest

/-!
# Compact JSON text

The text of a value without any blanks.  Inside strings only the quotation mark, the
backslash and the control characters below U+0020 are escaped.  A floating-point number
is written with its shortest digits: positionally, and always with a point, when its first
digit stands between `10 ^ -5` and `10 ^ 15`, and with a signed exponent otherwise.
-/

namespace OpenIdConnect

namespace Json

/-- One character inside a string. -/
def escapeChar (c : Char) : List Char :=
  if c = '"' then ['\\', '"']
  else if c = '\\' then ['\\', '\\']
  else if c = '\n' then ['\\', 'n']
  else if c = '\r' then ['\\', 'r']
  else if c = '\t' then ['\\', 't']
  else if c.toNat = 8 then ['\\', 'b']
  else if c.toNat = 12 then ['\\', 'f']
  else if c.toNat < 32 then
    ['\\', 'u', '0', '0'] ++ (if c.toNat < 16 then ['0'] else ['1'])
      ++ Text.Digits.hex (c.toNat % 16)
  else [c]

/-- A string with its quotation marks. -/
def quote (s : String) : List Char :=
  '"' :: (s.toList.flatMap escapeChar ++ ['"'])

/-- Digits in positional notation, the first one standing at `10 ^ first`. -/
def positional (digits : List Char) (first : Int) : List Char :=
  match first with
  | .ofNat e =>
    let whole := digits.take (e + 1)
    let part := digits.drop (e + 1)
    whole ++ List.replicate (e + 1 - whole.length) '0' ++ ['.']
      ++ (if part.isEmpty then ['0'] else part)
  | .negSucc e => ['0', '.'] ++ List.replicate e '0' ++ digits

/-- Digits in scientific notation, the first one standing at `10 ^ first`. -/
def scientific (digits : List Char) (first : Int) : List Char :=
  let part := digits.drop 1
  digits.take 1 ++ (if part.isEmpty then [] else '.' :: part)
    ++ 'e' :: (if first < 0 then Text.Digits.signed first else '+' :: Text.Digits.signed first)

/-- The text of a floating-point number. -/
def printFloat (x : Decimal.Binary64) : List Char :=
  let d := Decimal.shortest x
  let magnitude :=
    if -5 ≤ d.first ∧ d.first ≤ 15 then positional d.digits d.first
    else scientific d.digits d.first
  if x.negative then '-' :: magnitude else magnitude

/-- The text of a number. -/
def printNumber : Number → List Char
  | .integer n _ => Text.Digits.signed n
  | .float x => printFloat x

mutual

/-- The characters of a value's text. -/
def print : Json → List Char
  | .null => ['n', 'u', 'l', 'l']
  | .bool true => ['t', 'r', 'u', 'e']
  | .bool false => ['f', 'a', 'l', 's', 'e']
  | .number n => printNumber n
  | .string s => quote s
  | .array [] => ['[', ']']
  | .array (item :: items) => '[' :: (print item ++ printItems items)
  | .object [] => ['\x7b', '\x7d']
  | .object ((name, value) :: members) =>
    '\x7b' :: (quote name ++ ':' :: (print value ++ printMembers members))

/-- The remaining items of an array, and its end. -/
def printItems : List Json → List Char
  | [] => [']']
  | item :: items => ',' :: (print item ++ printItems items)

/-- The remaining members of an object, and its end. -/
def printMembers : List (String × Json) → List Char
  | [] => ['\x7d']
  | (name, value) :: members =>
    ',' :: (quote name ++ ':' :: (print value ++ printMembers members))

end

/-- The compact text of a value. -/
def compact (v : Json) : String :=
  String.ofList (print v)

end Json

/-- The compact text of an object. -/
def Object.compact (o : Object) : String :=
  o.toJson.compact

end OpenIdConnect
