import OpenIdConnect.Text.Percent
import OpenIdConnect.Text.Utf8

/-!
# URLs

A URL in its normal form: scheme, authority and path as one text, and the query and the
fragment when they are there, even empty.  A query or fragment that is set is
percent-encoded, and tabs and line ends in it are dropped.
-/

namespace OpenIdConnect

/-- A URL in normal form.  `hierarchy` is its scheme, authority and path. -/
structure Url where
  hierarchy : String
  query : Option String
  fragment : Option String
deriving DecidableEq

namespace Url

/-- Why a text is not a URL. -/
inductive Defect where
  | relative
  | emptyHost
  | invalidPort
  | invalidIpv4
  | invalidIpv6
  | invalidDomainName
  | invalidDomainCharacter
deriving DecidableEq

/-- The wording of a defect. -/
def Defect.message : Defect → String
  | relative => "relative URL without a base"
  | emptyHost => "empty host"
  | invalidPort => "invalid port number"
  | invalidIpv4 => "invalid IPv4 address"
  | invalidIpv6 => "invalid IPv6 address"
  | invalidDomainName => "invalid international domain name"
  | invalidDomainCharacter => "invalid domain character"

/-! ## Percent-encoding -/

/-- A character percent-encoded byte by byte. -/
def percentEncoded (c : Char) : List Char :=
  (String.utf8EncodeChar c).flatMap Text.Percent.encodeByte

/-- Is the character a control or outside ASCII?  Such a character is always encoded. -/
def isControl (c : Char) : Bool :=
  c.toNat < 0x20 || 0x7E < c.toNat

/-- The characters encoded in a fragment. -/
def inFragment (c : Char) : Bool :=
  isControl c || [' ', '"', '<', '>', Char.ofNat 0x60].contains c

/-- The characters encoded in a path. -/
def inPath (c : Char) : Bool :=
  inFragment c || ['#', '?', '\x7b', '\x7d'].contains c

/-- The characters encoded in a user name or a password. -/
def inUserinfo (c : Char) : Bool :=
  inPath c || ['/', ':', ';', '=', '@', '[', '\\', ']', '^', '|'].contains c

/-- The characters encoded in a query. -/
def inQuery (special : Bool) (c : Char) : Bool :=
  isControl c || [' ', '"', '#', '<', '>'].contains c || (special && c == '\x27')

/-- The characters with those that the test picks out encoded. -/
def encode (picked : Char → Bool) (s : List Char) : List Char :=
  s.flatMap fun c => if picked c then percentEncoded c else [c]

/-- Is the character dropped wherever it stands? -/
def isDropped (c : Char) : Bool :=
  c == '\t' || c == '\n' || c == '\r'

/-- The characters that are not dropped. -/
def kept (s : List Char) : List Char :=
  s.filter fun c => !isDropped c

/-! ## Schemes -/

/-- The kinds of scheme that are read differently. -/
inductive Kind where
  | special
  | file
  | plain
deriving DecidableEq

/-- The kind of a scheme. -/
def kindOf (scheme : String) : Kind :=
  if ["http", "https", "ws", "wss", "ftp"].contains scheme then .special
  else if scheme = "file" then .file
  else .plain

/-- Is the scheme one of the special ones, files included? -/
def Kind.isSpecial : Kind → Bool
  | .plain => false
  | _ => true

/-- The port of a scheme when none is written. -/
def defaultPort? (scheme : String) : Option Nat :=
  if scheme = "http" ∨ scheme = "ws" then some 80
  else if scheme = "https" ∨ scheme = "wss" then some 443
  else if scheme = "ftp" then some 21
  else none

/-- The scheme of a URL. -/
def scheme (u : Url) : String :=
  String.ofList (u.hierarchy.toList.takeWhile (· != ':'))

/-- Does the path of a URL have no hierarchy, as in a `urn`? -/
def isFlat (u : Url) : Bool :=
  match u.hierarchy.toList.dropWhile (· != ':') with
  | _ :: '/' :: _ => false
  | _ => true

/-! ## Text and setters -/

/-- The text of a URL. -/
def text (u : Url) : String :=
  u.hierarchy
    ++ (match u.query with | some q => "?" ++ q | none => "")
    ++ (match u.fragment with | some f => "#" ++ f | none => "")

/-- The URL without the spaces at the end of a flat path that nothing follows. -/
def trimmed (u : Url) : Url :=
  if u.isFlat ∧ u.query = none ∧ u.fragment = none then
    let trimmed := (u.hierarchy.toList.reverse.dropWhile (· == ' ')).reverse
    ⟨String.ofList trimmed, none, none⟩
  else u

/-- The URL with another query. -/
def setQuery (u : Url) (query : String) : Url :=
  let picked := inQuery (kindOf u.scheme).isSpecial
  { u with query := some (String.ofList (encode picked (kept query.toList))) }

/-- The URL without its query. -/
def dropQuery (u : Url) : Url :=
  trimmed { u with query := none }

/-- The URL with another fragment. -/
def setFragment (u : Url) (fragment : String) : Url :=
  { u with fragment := some (String.ofList (encode inFragment (kept fragment.toList))) }

/-- The URL without its fragment. -/
def dropFragment (u : Url) : Url :=
  trimmed { u with fragment := none }

/-- The URL with a form-encoded text behind its query. -/
def appendQuery (u : Url) (encoded : String) : Url :=
  match u.query with
  | some q =>
    if q.isEmpty ∨ encoded.isEmpty then { u with query := some (q ++ encoded) }
    else { u with query := some (q ++ "&" ++ encoded) }
  | none => { u with query := some encoded }

end Url

end OpenIdConnect
