import OpenIdConnect.Distinct
import OpenIdConnect.Parameter.Basic

/-!
# Scopes, response types and response modes

What is asked for and how the answer travels.  A response type is a set of values: the
order in which they are written does not matter for equality or for any of the questions
asked about it.
-/

namespace OpenIdConnect

/-- The scope values of a request, each once, in the order of their first occurrences. -/
structure Scope where
  values : List String
  distinct : values.Nodup
deriving DecidableEq

namespace Scope

/-- The scope without values. -/
def empty : Scope := ⟨[], .nil⟩

/-- The scope with one more value. -/
def add (s : Scope) (value : String) : Scope :=
  ⟨Distinct.add s.values value, Distinct.nodup_add s.distinct value⟩

/-- The scope of several values. -/
def ofList (values : List String) : Scope :=
  ⟨Distinct.ofList values, Distinct.nodup_ofList values⟩

/-- Is the value in the scope? -/
def contains (s : Scope) (value : String) : Bool :=
  s.values.contains value

/-- Does the scope make the request one of OpenID Connect? -/
def hasOpenid (s : Scope) : Bool :=
  s.contains "openid"

/-- The values with a space between each two. -/
def text (s : Scope) : String :=
  Text.joined " " s.values

end Scope

/-- A value of the response type. -/
inductive ResponseValue where
  | code
  | token
  | idToken
  | nothing
  | other (text : String)
deriving DecidableEq

namespace ResponseValue

/-- The value that a text writes. -/
def ofText (s : String) : ResponseValue :=
  if s = "code" then code
  else if s = "token" then token
  else if s = "id_token" then idToken
  else if s = "none" then nothing
  else other s

/-- The text of a value. -/
def text : ResponseValue → String
  | code => "code"
  | token => "token"
  | idToken => "id_token"
  | nothing => "none"
  | other s => s

/-- Is the value none of those defined here? -/
def isOther : ResponseValue → Bool
  | other _ => true
  | _ => false

end ResponseValue

/-- How the parameters of a response are returned. -/
inductive ResponseMode where
  | query
  | fragment
  | formPost
  | queryJwt
  | fragmentJwt
  | formPostJwt
  | jwt
  | other (text : String)
deriving DecidableEq

namespace ResponseMode

/-- The mode that a text writes. -/
def ofText (s : String) : ResponseMode :=
  if s = "query" then query
  else if s = "fragment" then fragment
  else if s = "form_post" then formPost
  else if s = "query.jwt" then queryJwt
  else if s = "fragment.jwt" then fragmentJwt
  else if s = "form_post.jwt" then formPostJwt
  else if s = "jwt" then jwt
  else other s

/-- The text of a mode. -/
def text : ResponseMode → String
  | query => "query"
  | fragment => "fragment"
  | formPost => "form_post"
  | queryJwt => "query.jwt"
  | fragmentJwt => "fragment.jwt"
  | formPostJwt => "form_post.jwt"
  | jwt => "jwt"
  | other s => s

/-- Is the response secured as a JWT? -/
def isSecured : ResponseMode → Bool
  | queryJwt | fragmentJwt | formPostJwt | jwt => true
  | _ => false

/-- The mode that a string writes. -/
def read (value : Json) : Except Fault ResponseMode :=
  value.readString.map ofText

end ResponseMode

/-- The values of a response type: each once, at least one, and `none` only alone. -/
structure ResponseType where
  values : List ResponseValue
  distinct : values.Nodup
  nonempty : values ≠ []
  noneAlone : .nothing ∈ values → values.length ≤ 1
deriving DecidableEq

namespace ResponseType

/-- The response type of several values. -/
def ofValues (values : List ResponseValue) : Except Fault ResponseType :=
  let kept := Distinct.ofList values
  if nonempty : kept = [] then .error .emptyResponseType
  else if combined : 1 < kept.length ∧ .nothing ∈ kept then .error .noneBesideOthers
  else
    .ok ⟨kept, Distinct.nodup_ofList values, nonempty,
      fun h => Nat.le_of_not_lt fun hlt => combined ⟨hlt, h⟩⟩

/-- The response type of the code flow. -/
def codeOnly : ResponseType :=
  ⟨[.code], by decide, by decide, by decide⟩

/-- The response type of an ID token alone. -/
def idTokenOnly : ResponseType :=
  ⟨[.idToken], by decide, by decide, by decide⟩

/-- The response type that tokens write. -/
def read (value : Json) : Except Fault ResponseType := do
  ofValues ((← value.readTokens).map .ofText)

/-- The response type that a text writes. -/
def ofText (s : String) : Except Fault ResponseType :=
  read (.string s)

/-- Is the value one of the response type? -/
def contains (t : ResponseType) (value : ResponseValue) : Bool :=
  t.values.contains value

/-- Do two response types have the same values? -/
def same (a b : ResponseType) : Bool :=
  a.values.length == b.values.length && a.values.all b.contains

instance (priority := high) : BEq ResponseType := ⟨same⟩

/-- The values as tokens. -/
def texts (t : ResponseType) : List String :=
  t.values.map ResponseValue.text

/-- The values with a space between each two. -/
def text (t : ResponseType) : String :=
  Text.joined " " t.texts

/-- Does the authorization endpoint itself return a token? -/
def returnsToken (t : ResponseType) : Bool :=
  t.contains .token || t.contains .idToken

/-- Is this the code flow? -/
def isCodeFlow (t : ResponseType) : Bool :=
  t.values == [.code]

/-- Is this the implicit flow? -/
def isImplicitFlow (t : ResponseType) : Bool :=
  !t.contains .code && t.returnsToken

/-- Is this the hybrid flow? -/
def isHybridFlow (t : ResponseType) : Bool :=
  t.contains .code && t.returnsToken

/-- Does the flow need a nonce? -/
def needsNonce (t : ResponseType) : Bool :=
  t.isImplicitFlow || t.isHybridFlow

/-- Is an ID token asked for, at once or for a code? -/
def isOpenid (t : ResponseType) : Bool :=
  t.contains .code || t.contains .idToken

/-- The response mode when none is given. -/
def impliedMode (t : ResponseType) : ResponseMode :=
  if t.returnsToken then .fragment else .query

/-- Are the claims delivered in the ID token, as no access token is issued? -/
def deliversInIdToken (t : ResponseType) : Bool :=
  t.contains .idToken && !t.contains .code && !t.contains .token

end ResponseType

namespace Parameter

/-- The `scope` parameter. -/
def scope : Parameter Scope :=
  ⟨"scope", fun value => value.readTokens.map .ofList, fun s => .ofTokens s.values⟩

/-- The `response_type` parameter. -/
def responseType : Parameter ResponseType :=
  ⟨"response_type", ResponseType.read, fun t => .ofTokens t.texts⟩

/-- The `response_mode` parameter. -/
def responseMode : Parameter ResponseMode :=
  ⟨"response_mode", ResponseMode.read, fun m => .string m.text⟩

end Parameter

end OpenIdConnect
