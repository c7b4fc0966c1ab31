import OpenIdConnect.Url.Basic

/-!
# Paths

The path of a URL is built segment by segment.  A segment of one dot is dropped, one of
two dots takes the segment before it away, and in the path of a file a letter with a
colon or a bar is a drive, which no dots take away.  A drive that is the first segment
is written with a colon and takes the host's place.
-/

namespace OpenIdConnect

namespace Url

namespace Path

/-- Does a text start with a drive, that is a letter and a colon or bar at the end of a segment? -/
def startsWithDrive : List Char → Bool
  | letter :: mark :: rest =>
    letter.isAlpha && (mark == ':' || mark == '|') &&
      match rest with
      | [] => true
      | c :: _ => c == '/' || c == '\\' || c == '?' || c == '#'
  | _ => false

/-- Is the segment a drive? -/
def isDrive (segment : List Char) : Bool :=
  segment.length == 2 && startsWithDrive segment

/-- Is the segment a drive with a colon? -/
def isNormalDrive (segment : List Char) : Bool :=
  isDrive segment && segment.drop 1 == [':']

/-- Is the segment one dot, plain or percent-encoded? -/
def isDot (segment : List Char) : Bool :=
  [".", "%2e", "%2E"].contains (String.ofList segment)

/-- Is the segment two dots, plain or percent-encoded? -/
def isDotDot (segment : List Char) : Bool :=
  ["..", "%2e%2e", "%2e%2E", "%2E%2e", "%2E%2E", "%2e.", "%2E.", ".%2e", ".%2E"].contains
    (String.ofList segment)

/-- Does the path end with a slash? -/
def endsWithSlash (path : List Char) : Bool :=
  path.getLast? == some '/'

/-- The path up to its last slash, that slash included. -/
def upToLastSlash (path : List Char) : List Char :=
  (path.reverse.dropWhile (· != '/')).reverse

/-- The path behind its last slash. -/
def behindLastSlash (path : List Char) : List Char :=
  (path.reverse.takeWhile (· != '/')).reverse

/-- The path without its last slash, unless that is its first or follows a drive. -/
def dropLastSlash (path : List Char) : List Char :=
  let before := path.dropLast
  if !endsWithSlash path || !before.contains '/' then path
  else if startsWithDrive (behindLastSlash before ++ ['/']) then path
  else before

/-- The path without its last segment, unless that is a drive of a file. -/
def shortened (kind : Kind) (path : List Char) : List Char :=
  if path.isEmpty then path
  else if kind = .file ∧ isNormalDrive path then path
  else if kind = .file ∧ isNormalDrive (behindLastSlash path) then path
  else upToLastSlash path

/-- The segment that the input starts with: its characters, whether a slash ends it, what follows. -/
def segment (kind : Kind) : List Char → List Char × Bool × List Char
  | [] => ([], false, [])
  | c :: rest =>
    if c = '/' ∨ (c = '\\' ∧ kind.isSpecial) then ([], true, rest)
    else if c = '?' ∨ c = '#' then ([], false, c :: rest)
    else
      let (more, ended, after) := segment kind rest
      (c :: more, ended, after)

/-- Does an ignored character stand between a drive with a colon and more of its segment? -/
def isDriveBroken (raw : List Char) : Bool :=
  isNormalDrive ((kept raw).take 2) && 2 < (kept raw).length
    && ((raw.dropWhile (· != ':')).drop 1).head?.any isDropped

/-- A path under construction; `dropHost` tells that a drive takes the host's place. -/
structure Draft where
  path : List Char
  dropHost : Bool

/--
The path with one more segment, from which the ignored characters are dropped.  A first segment
that such a character breaks behind its drive is two segments.
-/
def Draft.add (d : Draft) (kind : Kind) (raw : List Char) (ended : Bool) : Draft :=
  let form := encode inPath (kept raw)
  let slash := if ended then ['/'] else []
  let isFirst := kind = .file ∧ d.path.length = 1
  if isFirst ∧ isDriveBroken raw then
    { d with path := d.path ++ form.take 2 ++ '/' :: form.drop 2 ++ slash }
  else if isDotDot form then
    let path := shortened kind (dropLastSlash d.path)
    { d with path := if ended && !endsWithSlash path then path ++ ['/'] else path }
  else if isDot form then
    { d with path := if endsWithSlash d.path then d.path else d.path ++ ['/'] }
  else if isFirst ∧ isDrive form then
    ⟨d.path ++ form.take 1 ++ ':' :: slash, true⟩
  else { d with path := d.path ++ form ++ slash }

/-- The path continued by the segments of the input, and what follows them. -/
def extend (kind : Kind) : Nat → Draft → List Char → Draft × List Char
  | 0, draft, input => (draft, input)
  | fuel + 1, draft, input =>
    let (raw, ended, rest) := segment kind input
    let draft := draft.add kind raw ended
    if ended then extend kind fuel draft rest else (draft, rest)

/-- A path that starts as given and continues with the input, and what follows it. -/
def read (kind : Kind) (start : List Char) (input : List Char) : Draft × List Char :=
  let (draft, rest) := extend kind (input.length + 1) ⟨start, false⟩ input
  if kind = .file then ({ draft with path := '/' :: draft.path.dropWhile (· == '/') }, rest)
  else (draft, rest)

/-- The path behind an authority, and what follows it. -/
def afterAuthority (kind : Kind) (input : List Char) : Draft × List Char :=
  match kind.isSpecial, input with
  | true, c :: rest =>
    if c = '/' ∨ c = '\\' then read kind ['/'] rest else read kind ['/'] input
  | true, [] => read kind ['/'] []
  | false, [] => (⟨[], false⟩, [])
  | false, c :: _ =>
    if c = '?' ∨ c = '#' then (⟨[], false⟩, input)
    else if c = '/' then read kind [] input
    else read kind ['/'] input

/-- A path without hierarchy, and what follows it. -/
def flat (input : List Char) : List Char × List Char :=
  (encode isControl (input.takeWhile fun c => c != '?' && c != '#'),
    input.dropWhile fun c => c != '?' && c != '#')

end Path

end Url

end OpenIdConnect
