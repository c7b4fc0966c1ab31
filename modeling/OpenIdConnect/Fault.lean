import OpenIdConnect.Claims.Fault
import OpenIdConnect.Json.Printer
import OpenIdConnect.Language.Tag
import OpenIdConnect.Text.Base64Url
import OpenIdConnect.Text.Quoted
import OpenIdConnect.Url.Basic

/-!
# Faults

Why a parameter, an object or a token is refused.  A fault may stand in a context that
says what was being read; the wording of a fault starts with its outermost context.
-/

namespace OpenIdConnect

/-- What a value was expected to be. -/
inductive Expected where
  | text
  | boolean
  | sequence
  | map
  | integer64
  | url
  | configuration
  | errorObject
deriving DecidableEq

/-- The wording of an expectation. -/
def Expected.phrase : Expected → String
  | text => "a string"
  | boolean => "a boolean"
  | sequence => "a sequence"
  | map => "a map"
  | integer64 => "i64"
  | url => "a string representing an URL"
  | configuration => "struct Config"
  | errorObject => "struct ErrorObject"

/-- A value as a message names it when another kind of value was expected. -/
def Json.described : Json → String
  | .null => "null"
  | .bool b => "boolean `" ++ (if b then "true" else "false") ++ "`"
  | .number (.integer n h) => "integer `" ++ Json.compact (.number (.integer n h)) ++ "`"
  | .number (.float x) => "floating point `" ++ Json.compact (.number (.float x)) ++ "`"
  | .string s => "string " ++ Text.quoted s
  | .array _ => "sequence"
  | .object _ => "map"

/-- Why a text is not a natural number below `2 ^ 64`. -/
inductive NumeralDefect where
  | empty
  | invalidDigit
  | tooLarge
deriving DecidableEq

/-- The wording of a defect. -/
def NumeralDefect.message : NumeralDefect → String
  | empty => "cannot parse integer from empty string"
  | invalidDigit => "invalid digit found in string"
  | tooLarge => "number too large to fit in target type"

/-- What was being read when a fault was found. -/
inductive Context where
  | parameter (name : String)
  | naturalNumber (text : String)
  | languageTag (text : String)
  | prompt
  | acrValues
  | jwtHeader
  | jwtClaims
  | jwtSegment
  | logoutToken
  | reported (text : String)

/-- The event that makes a token a logout token. -/
def logoutEvent : String :=
  "http://schemas.openid.net/event/backchannel-logout"

/-- The wording of a context. -/
def Context.message : Context → String
  | parameter name => "'" ++ name ++ "' could not be parsed"
  | naturalNumber text => "'" ++ text ++ "' is not a non-negative integer"
  | languageTag text => "invalid language tag '" ++ text ++ "'"
  | prompt => "the prompt must not be empty"
  | acrValues => "the ACR values must not be empty"
  | jwtHeader => "invalid JWT header"
  | jwtClaims => "invalid JWT claims set"
  | jwtSegment => "segment is not base64url encoded"
  | logoutToken => "invalid logout token"
  | reported text => text

/-- Why something is refused. -/
inductive Fault where
  | mistyped (found : Json) (expected : Expected)
  | outOfRange (found : Int)
  | missingMember (name : String)
  | tooFewItems (found : Nat) (expected : Expected) (needed : Nat)
  | tooManyItems (found : Nat)
  | missing (name : String)
  | repeated (name : String)
  | notAnObject
  | notAnArray
  | notAString
  | notAToken (found : Json)
  | notTokens (found : Json)
  | url (defect : Url.Defect) (text : String)
  | languageTag (defect : LanguageTag.Defect)
  | numeral (defect : NumeralDefect)
  | notNatural (found : Number)
  | notAnInteger (found : Json)
  | notTrueOrFalse (found : Json)
  | emptyList
  | emptyResponseType
  | noneBesideOthers
  | promptNoneBesideOthers
  | unknownDisplay (text : String)
  | resourceWithFragment
  | issuerWithComponents
  | emptySubject
  | audienceNotStrings
  | noAudience
  | eventMissing
  | eventNotAnObject
  | noSubjectOrSession
  | nonceInLogoutToken
  | jwtSegments (found : Nat)
  | encryptedJwt
  | segmentNotAnObject
  | json (defect : Json.Misread)
  | base64 (defect : Text.Base64Url.Defect)
  | claims (fault : Claims.Fault)
  | noRedirect (responseMode : String)
  | noEndpoint
  | endpointWithQuery (endpoint : Url)
  | requestBesideRequestUri
  | redirectUriRequired
  | openidRequired
  | nonceRequired
  | reported (text : String)
  | within (context : Context) (cause : Fault)

namespace Fault

/-- The wording of a fault, its contexts included. -/
def message : Fault → String
  | mistyped found expected =>
    "invalid type: " ++ found.described ++ ", expected " ++ expected.phrase
  | outOfRange found =>
    "invalid value: integer `" ++ String.ofList (Text.Digits.signed found) ++ "`, expected i64"
  | missingMember name => "missing field `" ++ name ++ "`"
  | tooFewItems found expected needed =>
    "invalid length " ++ toString found ++ ", expected " ++ expected.phrase ++ " with "
      ++ toString needed ++ " elements"
  | tooManyItems found =>
    "invalid length " ++ toString found ++ ", expected fewer elements in array"
  | missing name => "'" ++ name ++ "' is missing"
  | repeated name => "parameter '" ++ name ++ "' is included more than once"
  | notAnObject => "expected a JSON object"
  | notAnArray => "expected JSON array"
  | notAString => "expected a string"
  | notAToken found => "expected a string, found " ++ found.compact
  | notTokens found => "expected a space-delimited string, found " ++ found.compact
  | url defect text => defect.message ++ ": " ++ Text.quoted text
  | languageTag defect => defect.message
  | numeral defect => defect.message
  | notNatural found =>
    "'" ++ Json.compact (.number found) ++ "' is not a non-negative integer"
  | notAnInteger found => "expected an integer, found " ++ found.compact
  | notTrueOrFalse found => "expected 'true' or 'false', found " ++ found.compact
  | emptyList => "cannot create a NonEmptyVec from an empty Vec"
  | emptyResponseType => "the response type must contain at least one value"
  | noneBesideOthers =>
    "the response type value 'none' must not be combined with other values"
  | promptNoneBesideOthers =>
    "Invalid prompt: The none value must not be combined with other values"
  | unknownDisplay text => "Unknown display type: " ++ text
  | resourceWithFragment => "the resource URI must not contain a fragment"
  | issuerWithComponents => "the issuer must not have a query or fragment component"
  | emptySubject => "the subject must not be empty"
  | audienceNotStrings => "expected a string or an array of strings"
  | noAudience => "at least one audience is required"
  | eventMissing => "the '" ++ logoutEvent ++ "' event is missing"
  | eventNotAnObject => "the '" ++ logoutEvent ++ "' event must be a JSON object"
  | noSubjectOrSession => "a logout token requires 'sub', 'sid' or both"
  | nonceInLogoutToken => "a logout token must not contain 'nonce'"
  | jwtSegments found =>
    "invalid serialized JWT: expected 3 or 5 segments, found " ++ toString found
  | encryptedJwt => "the claims of an encrypted JWT cannot be read before decryption"
  | segmentNotAnObject => "segment is not a JSON object"
  | json defect => defect.message
  | base64 defect => defect.message
  | claims fault => fault.message
  | noRedirect responseMode =>
    "response mode '" ++ responseMode ++ "' cannot be encoded in a redirect URI"
  | noEndpoint => "no authorization endpoint to encode the request against"
  | endpointWithQuery endpoint =>
    "the authorization endpoint must not have a query: " ++ endpoint.text
  | requestBesideRequestUri => "'request' and 'request_uri' are mutually exclusive"
  | redirectUriRequired =>
    "'redirect_uri' is required unless the request is passed in a request object"
  | openidRequired => "the scope must include the 'openid' value"
  | nonceRequired => "'nonce' is required in the implicit and hybrid flows"
  | reported text => text
  | within context cause => context.message ++ ": " ++ cause.message

/-- The outermost part of the wording. -/
def summary : Fault → String
  | within context _ => context.message
  | fault => fault.message

end Fault

/-- A result whose fault, if any, is put into a context. -/
def inContext {α : Type} (context : Context) (result : Except Fault α) : Except Fault α :=
  result.mapError (.within context)

end OpenIdConnect
