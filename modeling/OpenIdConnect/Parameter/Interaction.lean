import OpenIdConnect.Parameter.NonEmpty
import OpenIdConnect.Token.Compact

/-!
# Interaction with the end-user

How the end-user is asked: the kind of display, the prompts, the age of the last
authentication, languages, hints and classes of authentication.
-/

namespace OpenIdConnect

/-- How the pages for the end-user are displayed. -/
inductive Display where
  | page
  | popup
  | touch
  | wap
deriving DecidableEq

namespace Display

/-- The text of a display. -/
def text : Display → String
  | page => "page"
  | popup => "popup"
  | touch => "touch"
  | wap => "wap"

/-- The display that a text writes. -/
def ofText (s : String) : Except Fault Display :=
  if s = "page" then .ok page
  else if s = "popup" then .ok popup
  else if s = "touch" then .ok touch
  else if s = "wap" then .ok wap
  else .error (.unknownDisplay s)

/-- The display that a string writes. -/
def read (value : Json) : Except Fault Display := do
  ofText (← value.readString)

end Display

/-- What the end-user is prompted for. -/
inductive PromptValue where
  | nothing
  | login
  | consent
  | selectAccount
  | create
  | other (text : String)
deriving DecidableEq

namespace PromptValue

/-- The value that a text writes. -/
def ofText (s : String) : PromptValue :=
  if s = "none" then nothing
  else if s = "login" then login
  else if s = "consent" then consent
  else if s = "select_account" then selectAccount
  else if s = "create" then create
  else other s

/-- The text of a value. -/
def text : PromptValue → String
  | nothing => "none"
  | login => "login"
  | consent => "consent"
  | selectAccount => "select_account"
  | create => "create"
  | other s => s

/-- Is the value none of those defined here? -/
def isOther : PromptValue → Bool
  | other _ => true
  | _ => false

end PromptValue

/-- The prompts of a request; `none` stands alone. -/
structure Prompt where
  values : NonEmpty PromptValue
  noneAlone : .nothing ∈ values.toList → values.size ≤ 1
deriving DecidableEq

namespace Prompt

/-- The prompt of several values. -/
def ofValues (values : List PromptValue) : Except Fault Prompt := do
  let values ← inContext .prompt (NonEmpty.ofList values)
  if combined : 1 < values.size ∧ .nothing ∈ values.toList then throw .promptNoneBesideOthers
  else return ⟨values, fun h => Nat.le_of_not_lt fun hlt => combined ⟨hlt, h⟩⟩

/-- The prompt that tokens write. -/
def read (value : Json) : Except Fault Prompt := do
  ofValues ((← value.readTokens).map .ofText)

/-- Is the value among the prompts? -/
def contains (p : Prompt) (value : PromptValue) : Bool :=
  p.values.toList.contains value

/-- The values as tokens. -/
def texts (p : Prompt) : List String :=
  p.values.toList.map PromptValue.text

end Prompt

/-- The number that decimal digits write behind those read so far, below `2 ^ 64`. -/
def naturalDigits : Nat → List Char → Except Fault UInt64
  | n, [] => .ok (UInt64.ofNat n)
  | n, c :: rest =>
    if c.isDigit then
      let n := n * 10 + (c.toNat - 0x30)
      if 18446744073709551616 ≤ n then .error (.numeral .tooLarge) else naturalDigits n rest
    else .error (.numeral .invalidDigit)

/-- The number that a text writes: digits behind an optional plus sign. -/
def naturalNumber (s : String) : Except Fault UInt64 :=
  match s.toList with
  | [] => .error (.numeral .empty)
  | ['+'] => .error (.numeral .invalidDigit)
  | '+' :: digits => naturalDigits 0 digits
  | digits => naturalDigits 0 digits

/-- The natural number that a string or a number writes. -/
def readNatural : Json → Except Fault UInt64
  | .string s => inContext (.naturalNumber s) (naturalNumber s)
  | .number (.integer n h) =>
    if 0 ≤ n then .ok (UInt64.ofNat n.toNat) else .error (.notNatural (.integer n h))
  | .number n => .error (.notNatural n)
  | v => .error (.notAnInteger v)

/-- A language tag among several. -/
def readTag (s : String) : Except Fault LanguageTag :=
  inContext (.languageTag s) ((LanguageTag.parse s).mapError .languageTag)

/-- The language tags that tokens write. -/
def readTags (value : Json) : Except Fault (List LanguageTag) := do
  (← value.readTokens).mapM readTag

/-- A token of which the header can be read. -/
def readHint (value : Json) : Except Fault String := do
  let token ← value.readString
  let _ ← Token.header token
  return token

/-- The classes of authentication that tokens write. -/
def readClasses (value : Json) : Except Fault (NonEmpty String) := do
  inContext .acrValues (NonEmpty.ofList (← value.readTokens))

/-- True or false, also as a string. -/
def readTruth : Json → Except Fault Bool
  | .bool b => .ok b
  | .string s =>
    if s = "true" then .ok true
    else if s = "false" then .ok false
    else .error (.notTrueOrFalse (.string s))
  | v => .error (.notTrueOrFalse v)

namespace Parameter

/-- The `display` parameter. -/
def display : Parameter Display :=
  ⟨"display", Display.read, fun d => .string d.text⟩

/-- The `prompt` parameter. -/
def prompt : Parameter Prompt :=
  ⟨"prompt", Prompt.read, fun p => .ofTokens p.texts⟩

/-- The `max_age` parameter, in seconds; it is written as a string. -/
def maxAge : Parameter UInt64 :=
  ⟨"max_age", readNatural, fun n => .string (String.ofList (Text.Digits.decimal n.toNat))⟩

/-- A parameter that lists languages. -/
def locales (name : String) : Parameter (List LanguageTag) :=
  ⟨name, readTags, fun tags => .ofTokens (tags.map LanguageTag.text)⟩

/-- The `ui_locales` parameter. -/
def uiLocales : Parameter (List LanguageTag) :=
  locales "ui_locales"

/-- The `claims_locales` parameter. -/
def claimsLocales : Parameter (List LanguageTag) :=
  locales "claims_locales"

/-- The `id_token_hint` parameter. -/
def idTokenHint : Parameter String :=
  ⟨"id_token_hint", readHint, Json.string⟩

/-- The `login_hint` parameter. -/
def loginHint : Parameter String :=
  text "login_hint"

/-- The `acr_values` parameter. -/
def acrValues : Parameter (NonEmpty String) :=
  ⟨"acr_values", readClasses, fun l => .ofTokens l.toList⟩

/-- The `include_granted_scopes` parameter; it is written as a string. -/
def includeGrantedScopes : Parameter Bool :=
  ⟨"include_granted_scopes", readTruth, fun b => .string (if b then "true" else "false")⟩

end Parameter

end OpenIdConnect
