import OpenIdConnect.Text.Pieces

/-!
# Language tags

Well-formed language tags, in canonical case: scripts are capitalised, regions are
uppercase, and everything else is lowercase.  Subtags are read from left to right; what a
subtag may be depends on those before it.  A few grandfathered tags are accepted as they
are registered, and a tag of private use may be any letters, digits and dashes.
-/

namespace OpenIdConnect

/-- A well-formed language tag, by its canonical text. -/
structure LanguageTag where
  text : String
deriving DecidableEq

namespace LanguageTag

/-- Why a text is not a language tag. -/
inductive Defect where
  | emptyExtension
  | emptyPrivateUse
  | forbiddenChar
  | invalidSubtag
  | invalidLanguage
  | subtagTooLong
  | emptySubtag
  | tooManyExtlangs
deriving DecidableEq

/-- The wording of a defect. -/
def Defect.message : Defect → String
  | emptyExtension => "if an extension subtag is present, it must not be empty"
  | emptyPrivateUse => "if the `x` subtag is present, it must not be empty"
  | forbiddenChar => "the langtag contains a char not allowed"
  | invalidSubtag => "a subtag fails to parse, it does not match any other subtags"
  | invalidLanguage => "the given language subtag is invalid"
  | subtagTooLong => "a subtag may be eight characters in length at maximum"
  | emptySubtag => "a subtag should not be empty"
  | tooManyExtlangs => "at maximum three extlangs are allowed"

/-- The tags that are accepted although they are not formed by the rules, as registered. -/
def grandfathered : List String :=
  ["art-lojban", "cel-gaulish", "en-GB-oed", "i-ami", "i-bnn", "i-default", "i-enochian",
    "i-hak", "i-klingon", "i-lux", "i-mingo", "i-navajo", "i-pwn", "i-tao", "i-tay", "i-tsu",
    "no-bok", "no-nyn", "sgn-BE-FR", "sgn-BE-NL", "sgn-CH-DE", "zh-guoyu", "zh-hakka", "zh-min",
    "zh-min-nan", "zh-xiang"]

/-- The characters in lowercase. -/
def lower (s : List Char) : List Char :=
  s.map Char.toLower

/-- The characters in uppercase. -/
def upper (s : List Char) : List Char :=
  s.map Char.toUpper

/-- The characters with the first in uppercase and the others in lowercase. -/
def capitalised : List Char → List Char
  | [] => []
  | c :: rest => c.toUpper :: lower rest

/-- Is the character an ASCII letter or digit? -/
def isAlphanumeric (c : Char) : Bool :=
  c.isAlpha || c.isDigit

/-- Is the character an ASCII letter? -/
def isLetter (c : Char) : Bool :=
  c.isAlpha

/-- Where the reader stands between two subtags. -/
inductive Place where
  | afterLanguage (extlangs : Nat)
  | afterExtlang
  | afterScript
  | afterRegion
  | inExtension (started : Bool)
  | inPrivateUse (started : Bool)
deriving DecidableEq

/-- May a script stand here? -/
def Place.beforeScript : Place → Bool
  | afterLanguage _ | afterExtlang => true
  | _ => false

/-- May a region stand here? -/
def Place.beforeRegion : Place → Bool
  | afterLanguage _ | afterExtlang | afterScript => true
  | _ => false

/-- May a variant stand here? -/
def Place.beforeVariant : Place → Bool
  | afterLanguage _ | afterExtlang | afterScript | afterRegion => true
  | _ => false

/-- The length of a subtag in bytes. -/
def size : List Char → Nat
  | [] => 0
  | c :: rest => c.utf8Size + size rest

/-- Is the subtag long enough for a variant that starts as it does? -/
def isVariant (subtag : List Char) : Bool :=
  subtag.all isAlphanumeric &&
    match subtag with
    | [] => false
    | c :: _ => (5 ≤ subtag.length && isLetter c) || (4 ≤ subtag.length && c.isDigit)

/-- Is the subtag a region? -/
def isRegion (subtag : List Char) : Bool :=
  (subtag.length == 2 && subtag.all isLetter) || (subtag.length == 3 && subtag.all Char.isDigit)

/-- One subtag after the language: its canonical form, and where the reader stands then. -/
def subtag (place : Place) (s : List Char) : Except Defect (List Char × Place) :=
  match place with
  | .inPrivateUse _ =>
    if s.all isAlphanumeric then .ok (lower s, .inPrivateUse true) else .error .invalidSubtag
  | _ =>
    if s.length = 1 ∧ s.all isAlphanumeric then
      if place = .inExtension false then .error .emptyExtension
      else if lower s = ['x'] then .ok (['x'], .inPrivateUse false)
      else .ok (lower s, .inExtension false)
    else
      match place with
      | .inExtension _ =>
        if s.all isAlphanumeric then .ok (lower s, .inExtension true) else .error .invalidSubtag
      | .afterLanguage extlangs =>
        if s.length = 3 ∧ s.all isLetter then
          if extlangs < 3 then .ok (lower s, .afterLanguage (extlangs + 1))
          else .error .tooManyExtlangs
        else other place s
      | _ => other place s
where
  /-- A script, a region or a variant. -/
  other (place : Place) (s : List Char) : Except Defect (List Char × Place) :=
    if place.beforeScript ∧ s.length = 4 ∧ s.all isLetter then .ok (capitalised s, .afterScript)
    else if place.beforeRegion ∧ isRegion s then .ok (upper s, .afterRegion)
    else if place.beforeVariant ∧ isVariant s then .ok (lower s, .afterRegion)
    else .error .invalidSubtag

/-- What every subtag has to meet: it is not empty and not longer than eight bytes. -/
def checkSize (s : List Char) : Except Defect Unit :=
  if s.isEmpty then .error .emptySubtag
  else if 8 < size s then .error .subtagTooLong
  else .ok ()

/-- May the tag end here? -/
def Place.finish : Place → Except Defect Unit
  | .inExtension false => .error .emptyExtension
  | .inPrivateUse false => .error .emptyPrivateUse
  | _ => .ok ()

/-- The canonical forms of the subtags after the language, each behind a dash. -/
def subtags : Place → List (List Char) → Except Defect (List Char)
  | place, [] => do
    place.finish
    return []
  | place, s :: rest => do
    checkSize s
    let (form, place) ← subtag place s
    let more ← subtags place rest
    return '-' :: (form ++ more)

/-- The language that a tag starts with, and where the reader stands then. -/
def language (s : List Char) : Except Defect (List Char × Place) := do
  checkSize s
  if s.length < 2 ∨ !s.all isLetter then throw .invalidLanguage
  return (lower s, if s.length < 4 then .afterLanguage 0 else .afterExtlang)

/-- A tag of private use: letters, digits and dashes behind `x-`. -/
def privateUse (s : List Char) : Except Defect (List Char) :=
  if !s.all fun c => isAlphanumeric c || c == '-' then .error .forbiddenChar
  else if s.length = 2 then .error .emptyPrivateUse
  else .ok (lower s)

/-- The canonical form of a tag. -/
def canonical (s : List Char) : Except Defect (List Char) :=
  match grandfathered.find? fun tag => lower tag.toList == lower s with
  | some tag => .ok tag.toList
  | none =>
    match s with
    | 'x' :: '-' :: _ | 'X' :: '-' :: _ => privateUse s
    | _ =>
      match Text.pieces (· == '-') s with
      | [] => .error .emptySubtag
      | first :: rest => do
        let (form, place) ← language first
        let more ← subtags place rest
        return form ++ more

/-- The language tag that a text writes. -/
def parse (s : String) : Except Defect LanguageTag :=
  (canonical s.toList).map fun form => ⟨String.ofList form⟩

end LanguageTag

end OpenIdConnect
