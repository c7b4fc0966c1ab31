import OpenIdConnect.Text.Pieces
import OpenIdConnect.Url.Basic

/-!
# Hosts

Domain names, IPv4 addresses in all their written forms, and IPv6 addresses with the
longest run of zeros left out.  Domain names are ASCII; one with other characters, which
would have to be mapped to ASCII first, is refused.
-/

namespace OpenIdConnect

namespace Url

namespace Host

/-! ## IPv4 -/

/-- The value of a hexadecimal digit. -/
def digit? (c : Char) : Option Nat :=
  if c.toNat < 0x80 then Text.Digits.hexValue? c.toUInt8 else none

/-- The number that digits write in a base. -/
def numeral? (base : Nat) (digits : List Char) : Option Nat :=
  digits.foldl
    (fun n c => do
      let n ← n
      let d ← digit? c
      if d < base then some (n * base + d) else none)
    (some 0)

/-- A part of an IPv4 address: hexadecimal behind `0x`, octal behind `0`, else decimal. -/
def ipv4Number? : List Char → Option Nat
  | [] => none
  | '0' :: 'x' :: digits | '0' :: 'X' :: digits => numeral? 16 digits
  | '0' :: d :: digits => numeral? 8 (d :: digits)
  | digits => numeral? 10 digits

/-- The parts of a domain name, without an empty last one. -/
def parts (domain : List Char) : List (List Char) :=
  let all := Text.pieces (· == '.') domain
  match all.reverse with
  | [] :: rest => if rest.isEmpty then all else rest.reverse
  | _ => all

/-- Is the last part of a domain name a number? -/
def endsInNumber (domain : List Char) : Bool :=
  match (parts domain).reverse with
  | [] => false
  | last :: _ => (!last.isEmpty && last.all Char.isDigit) || (ipv4Number? last).isSome

/-- The address that numbers write, of which the last fills all the bytes that are left. -/
def ipv4 (domain : List Char) : Except Defect Nat :=
  let written := parts domain
  match written.mapM ipv4Number? with
  | none => .error .invalidIpv4
  | some numbers =>
    match numbers.reverse with
    | [] => .error .invalidIpv4
    | last :: others =>
      if 3 < others.length then .error .invalidIpv4
      else if Nat.pow 256 (4 - others.length) ≤ last then .error .invalidIpv4
      else if others.any fun n => 255 < n then .error .invalidIpv4
      else
        let high := others.reverse.foldl (fun n d => n * 256 + d) 0
        .ok (high * Nat.pow 256 (4 - others.length) + last)

/-- The text of an IPv4 address. -/
def ipv4Text (address : Nat) : List Char :=
  let byte (n : Nat) : List Char := Text.Digits.decimal (n % 256)
  byte (address / 16777216) ++ '.' :: byte (address / 65536) ++ '.' :: byte (address / 256)
    ++ '.' :: byte address

/-! ## IPv6 -/

/-- The pieces of an IPv6 address read so far, and how many of them precede the gap. -/
structure Pieces where
  read : List Nat
  gap : Option Nat

/-- Up to four hexadecimal digits: their value, how many they are, and what follows. -/
def hexPiece : Nat → List Char → Nat × Nat × List Char
  | 0, input => (0, 0, input)
  | _ + 1, [] => (0, 0, [])
  | n + 1, c :: rest =>
    match digit? c with
    | none => (0, 0, c :: rest)
    | some d =>
      let (value, count, rest) := hexPiece n rest
      (d * Nat.pow 16 count + value, count + 1, rest)

/-- A decimal number up to 255 without leading zeros. -/
def decimalByte? (digits : List Char) : Option Nat :=
  if digits.isEmpty ∨ !digits.all Char.isDigit ∨ 3 < digits.length then none
  else if 1 < digits.length ∧ digits.head? = some '0' then none
  else (numeral? 10 digits).bind fun n => if n ≤ 255 then some n else none

/-- The two pieces that an IPv4 address at the end of an IPv6 address stands for. -/
def embeddedIpv4? (input : List Char) : Option (List Nat) := do
  match ← (Text.pieces (· == '.') input).mapM decimalByte? with
  | [a, b, c, d] => some [a * 256 + b, c * 256 + d]
  | _ => none

/-- The pieces of an IPv6 address. -/
def ipv6Pieces : Nat → Pieces → List Char → Except Defect Pieces
  | 0, _, _ => .error .invalidIpv6
  | _ + 1, found, [] => .ok found
  | fuel + 1, found, c :: rest =>
    if found.read.length = 8 then .error .invalidIpv6
    else if c = ':' then
      if found.gap.isSome then .error .invalidIpv6
      else ipv6Pieces fuel ⟨found.read ++ [0], some (found.read.length + 1)⟩ rest
    else
      let (value, count, after) := hexPiece 4 (c :: rest)
      match after with
      | [] => .ok { found with read := found.read ++ [value] }
      | '.' :: _ =>
        if count = 0 ∨ 6 < found.read.length then .error .invalidIpv6
        else
          match embeddedIpv4? (c :: rest) with
          | some pieces => .ok { found with read := found.read ++ pieces }
          | none => .error .invalidIpv6
      | ':' :: after =>
        if after.isEmpty then .error .invalidIpv6
        else ipv6Pieces fuel { found with read := found.read ++ [value] } after
      | _ => .error .invalidIpv6

/-- The eight pieces, with zeros in the gap. -/
def filled (found : Pieces) : Except Defect (List Nat) :=
  match found.gap with
  | none => if found.read.length = 8 then .ok found.read else .error .invalidIpv6
  | some gap =>
    if 8 < found.read.length then .error .invalidIpv6
    else
      .ok (found.read.take gap ++ List.replicate (8 - found.read.length) 0 ++ found.read.drop gap)

/-- The address that the text between the brackets writes. -/
def ipv6 (input : List Char) : Except Defect (List Nat) := do
  match input with
  | ':' :: ':' :: rest => filled (← ipv6Pieces (rest.length + 1) ⟨[0], some 1⟩ rest)
  | ':' :: _ => .error .invalidIpv6
  | _ =>
    if input.length < 2 then .error .invalidIpv6
    else filled (← ipv6Pieces (input.length + 1) ⟨[], none⟩ input)

/-- The runs of zeros in a list of pieces: where each starts, and its length. -/
def zeroRuns : Nat → List Nat → List (Nat × Nat)
  | _, [] => []
  | index, piece :: rest =>
    let later := zeroRuns (index + 1) rest
    if piece ≠ 0 then later
    else
      match later with
      | (start, length) :: runs =>
        if start = index + 1 then (index, length + 1) :: runs else (index, 1) :: later
      | [] => [(index, 1)]

/-- The first of the longest runs of at least two zeros. -/
def longestRun? (pieces : List Nat) : Option (Nat × Nat) :=
  (zeroRuns 0 pieces).foldl
    (fun best run =>
      match best with
      | some (start, length) => if length < run.2 then some run else some (start, length)
      | none => if 2 ≤ run.2 then some run else none)
    none

/-- Pieces with a colon between each two. -/
def colonJoined : List Nat → List Char
  | [] => []
  | [piece] => Text.Digits.hex piece
  | piece :: pieces => Text.Digits.hex piece ++ ':' :: colonJoined pieces

/-- The text of an IPv6 address. -/
def ipv6Text (pieces : List Nat) : List Char :=
  match longestRun? pieces with
  | none => colonJoined pieces
  | some (start, length) =>
    colonJoined (pieces.take start) ++ ':' :: ':' :: colonJoined (pieces.drop (start + length))

/-! ## Hosts -/

/-- The characters that no domain name holds. -/
def isForbidden (c : Char) : Bool :=
  c.toNat ≤ 0x20 || c.toNat == 0x7F
    || ['%', '#', '/', ':', '<', '>', '?', '@', '[', '\\', ']', '^', '|'].contains c

/-- The characters that no host of a plain scheme holds. -/
def isForbiddenInPlain (c : Char) : Bool :=
  [Char.ofNat 0, '\t', '\n', '\r', ' ', '#', '/', ':', '<', '>', '?', '@', '[', '\\', ']', '^',
    '|'].contains c

/-- An address between brackets. -/
def bracketed (input : List Char) : Except Defect (List Char) :=
  match input.reverse with
  | ']' :: inner => (ipv6 inner.reverse).map fun pieces => '[' :: (ipv6Text pieces ++ [']'])
  | _ => .error .invalidIpv6

/--
The host of a special scheme: a domain name, or an address.

A domain name with characters outside ASCII is refused, as the tables by which it would be mapped
to ASCII are left out; for the same reason a label that begins with `xn--` is taken as it is.
-/
def special (input : List Char) : Except Defect (List Char) :=
  match input with
  | '[' :: rest => bracketed rest
  | _ =>
    match Text.Utf8.decode? (Text.Percent.decode (Text.Utf8.bytes (String.ofList input))) with
    | none => .error .invalidDomainName
    | some decoded =>
      let domain := decoded.toList.map Char.toLower
      if domain.any fun c => isForbidden c || 0x7F < c.toNat then .error .invalidDomainName
      else if domain.isEmpty then .error .emptyHost
      else if endsInNumber domain then (ipv4 domain).map ipv4Text
      else .ok domain

/-- The host of a plain scheme. -/
def plain (input : List Char) : Except Defect (List Char) :=
  match input with
  | '[' :: rest => bracketed rest
  | _ =>
    if input.any isForbiddenInPlain then .error .invalidDomainCharacter
    else .ok (encode isControl input)

end Host

end Url

end OpenIdConnect
