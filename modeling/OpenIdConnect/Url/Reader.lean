import OpenIdConnect.Url.Host
import OpenIdConnect.Url.Path

/-!
# Reading URLs

An absolute URL is read from left to right: scheme, authority, path, query, fragment.
Spaces and controls around the text are ignored, and so are tabs and line ends within it,
except that in the path of a file they tell a drive from what follows it.
-/

namespace OpenIdConnect

namespace Url

namespace Reader

/-- Is the character ignored at both ends of the text? -/
def isOuter (c : Char) : Bool :=
  c.toNat ≤ 0x20

/-- The text without what is ignored at both ends. -/
def inner (s : String) : List Char :=
  ((s.toList.dropWhile isOuter).reverse.dropWhile isOuter).reverse

/-- Is the character allowed in a scheme? -/
def isSchemeChar (c : Char) : Bool :=
  c.isAlpha || c.isDigit || c == '+' || c == '-' || c == '.'

/-- The scheme in lowercase, and what follows its colon. -/
def scheme? (input : List Char) : Option (List Char × List Char) :=
  match input with
  | [] => none
  | first :: _ =>
    if !first.isAlpha then none
    else
      match input.dropWhile isSchemeChar with
      | ':' :: rest => some ((input.takeWhile isSchemeChar).map Char.toLower, rest)
      | _ => none

/-- Does the character end an authority? -/
def endsAuthority (kind : Kind) (c : Char) : Bool :=
  c == '/' || c == '?' || c == '#' || (c == '\\' && kind.isSpecial)

/-- The user name and password with the sign behind them. -/
def userinfoText (written : List Char) : List Char :=
  let name := encode inUserinfo (written.takeWhile (· != ':'))
  let password := encode inUserinfo ((written.dropWhile (· != ':')).drop 1)
  if name.isEmpty && password.isEmpty then []
  else name ++ (if password.isEmpty then [] else ':' :: password) ++ ['@']

/-- The user information of an authority in normal form, and what follows it. -/
def userinfo (kind : Kind) (input : List Char) : Except Defect (List Char × List Char) :=
  let authority := input.takeWhile fun c => !endsAuthority kind c
  match (authority.reverse.dropWhile (· != '@')).reverse.dropLast, authority.contains '@' with
  | _, false => .ok ([], input)
  | written, true =>
    let rest := input.drop (written.length + 1)
    match written, rest with
    | [], c :: _ => if endsAuthority kind c then .error .emptyHost else .ok ([], rest)
    | _, _ => .ok (userinfoText written, rest)

/-- The length of a host: it ends at a colon outside brackets or with the authority. -/
def hostLength (kind : Kind) : Bool → List Char → Nat
  | _, [] => 0
  | inBrackets, c :: rest =>
    if (c == ':' && !inBrackets) || endsAuthority kind c then 0
    else
      let inBrackets := if c = '[' then true else if c = ']' then false else inBrackets
      hostLength kind inBrackets rest + 1

/-- The digits of a port: its number and what follows. -/
def portDigits : Nat → List Char → Except Defect (Nat × List Char)
  | n, [] => .ok (n, [])
  | n, c :: rest =>
    if c.isDigit then
      let n := n * 10 + (c.toNat - 0x30)
      if 65535 < n then .error .invalidPort else portDigits n rest
    else if c = '/' ∨ c = '\\' ∨ c = '?' ∨ c = '#' then .ok (n, c :: rest)
    else .error .invalidPort

/-- The port in normal form, which leaves out the scheme's own, and what follows it. -/
def port (scheme : String) (input : List Char) : Except Defect (List Char × List Char) := do
  match input with
  | ':' :: rest =>
    let (n, after) ← portDigits 0 rest
    let written := !(rest.takeWhile Char.isDigit).isEmpty
    if !written || defaultPort? scheme == some n then return ([], after)
    else return (':' :: Text.Digits.decimal n, after)
  | _ => return ([], input)

/-- The host and the port in normal form, whether there is a host, and what follows them. -/
def hostAndPort (scheme : String) (kind : Kind) (input : List Char) :
    Except Defect (List Char × Bool × List Char) := do
  let length := hostLength kind false input
  let written := input.take length
  let rest := input.drop length
  if written.isEmpty ∧ (kind.isSpecial ∨ rest.head? = some ':') then throw .emptyHost
  let host ← if kind.isSpecial then Host.special written else Host.plain written
  let (port, rest) ← port scheme rest
  return (host ++ port, !host.isEmpty, rest)

/-- The query and the fragment that the rest of the input writes. -/
def queryAndFragment (kind : Kind) (input : List Char) : Option String × Option String :=
  let fragmentOf : List Char → Option String
    | '#' :: rest => some (String.ofList (encode inFragment rest))
    | _ => none
  match input with
  | '?' :: rest =>
    let query := encode (inQuery kind.isSpecial) (rest.takeWhile (· != '#'))
    (some (String.ofList query), fragmentOf (rest.dropWhile (· != '#')))
  | _ => (none, fragmentOf input)

/-- A URL from its hierarchy and the rest of the input. -/
def assembled (kind : Kind) (hierarchy : List Char) (rest : List Char) : Url :=
  let (query, fragment) := queryAndFragment kind rest
  ⟨String.ofList hierarchy, query, fragment⟩

/-- A URL from what follows the two slashes. -/
def afterSlashes (scheme : List Char) (kind : Kind) (input : List Char) : Except Defect Url := do
  let (user, rest) ← userinfo kind input
  let (host, hasHost, rest) ← hostAndPort (String.ofList scheme) kind rest
  if !hasHost && !user.isEmpty then throw .emptyHost
  let (draft, rest) := Path.afterAuthority kind rest
  return assembled kind (scheme ++ "://".toList ++ user ++ host ++ draft.path) rest

/-- A URL of a plain scheme from what follows the colon. -/
def plain (scheme : List Char) (input : List Char) : Except Defect Url :=
  match input with
  | '/' :: '/' :: rest => afterSlashes scheme .plain rest
  | '/' :: rest =>
    let (draft, rest) := Path.read .plain ['/'] rest
    let path :=
      match draft.path with
      | '/' :: '/' :: _ => '/' :: '.' :: draft.path
      | _ => draft.path
    .ok (assembled .plain (scheme ++ ':' :: path) rest)
  | _ =>
    let (path, rest) := Path.flat input
    .ok (assembled .plain (scheme ++ ':' :: path) rest)

/-- Is the character one of the two slashes? -/
def isSlash (c : Char) : Bool :=
  c == '/' || c == '\\'

/-- What follows a slash, if the input starts with one. -/
def behindSlash? (input : List Char) : Option (List Char) :=
  match input.dropWhile isDropped with
  | c :: rest => if isSlash c then some rest else none
  | [] => none

/-- The host of a file in normal form, which leaves out the local one, and what follows it. -/
def fileHost (input : List Char) : Except Defect (List Char × List Char) := do
  let ends (c : Char) : Bool := isSlash c || c == '?' || c == '#'
  let written := kept (input.takeWhile fun c => !ends c)
  if Path.isDrive written then return ([], input)
  let rest := input.dropWhile fun c => !ends c
  if written.isEmpty then return ([], rest)
  let host ← Host.special written
  return (if host = "localhost".toList then [] else host, rest)

/-- A URL of a file from its host, its path and the rest of the input. -/
def assembledFile (host : List Char) (draft : Path.Draft) (rest : List Char) : Url :=
  let host := if draft.dropHost then [] else host
  assembled .file ("file://".toList ++ host ++ draft.path) (kept rest)

/-- A URL of a file from what follows the colon, ignored characters included. -/
def file (input : List Char) : Except Defect Url := do
  match behindSlash? input with
  | none =>
    let (draft, rest) := Path.read .file ['/'] input
    return assembledFile [] draft rest
  | some behind =>
    match behindSlash? behind with
    | none =>
      let (draft, rest) := Path.read .file [] input
      return assembledFile [] draft rest
    | some behind =>
      let (host, rest) ← fileHost behind
      let (draft, rest) :=
        if host.isEmpty then Path.read .file ['/'] rest else Path.afterAuthority .file rest
      return assembledFile host draft rest

end Reader

/-- The URL that a text writes. -/
def parse (s : String) : Except Defect Url :=
  match Reader.scheme? (kept (Reader.inner s)) with
  | none => .error .relative
  | some (scheme, rest) =>
    match kindOf (String.ofList scheme) with
    | .special => Reader.afterSlashes scheme .special (rest.dropWhile Reader.isSlash)
    | .file => Reader.file (((Reader.inner s).dropWhile (· != ':')).drop 1)
    | .plain => Reader.plain scheme rest

end Url

end OpenIdConnect
