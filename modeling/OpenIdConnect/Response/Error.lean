import OpenIdConnect.Parameter.Flow

/-!
# Error responses

What an authorization endpoint answers instead of granting a request: an error code, and
perhaps a description and the address of a page about the error.  It is returned to the
client in the query or in the fragment of a redirect.
-/

namespace OpenIdConnect

/-- What an error response says is wrong. -/
inductive ErrorCode where
  | invalidRequest
  | unauthorizedClient
  | accessDenied
  | unsupportedResponseType
  | invalidScope
  | serverError
  | temporarilyUnavailable
  | loginRequired
  | consentRequired
  | interactionRequired
  | requestNotSupported
  | requestUriNotSupported
  | invalidRequestObject
  | other (text : String)
deriving DecidableEq

namespace ErrorCode

/-- The codes defined here. -/
def known : List ErrorCode :=
  [invalidRequest, unauthorizedClient, accessDenied, unsupportedResponseType, invalidScope,
    serverError, temporarilyUnavailable, loginRequired, consentRequired, interactionRequired,
    requestNotSupported, requestUriNotSupported, invalidRequestObject]

/-- The text of a code. -/
def text : ErrorCode → String
  | invalidRequest => "invalid_request"
  | unauthorizedClient => "unauthorized_client"
  | accessDenied => "access_denied"
  | unsupportedResponseType => "unsupported_response_type"
  | invalidScope => "invalid_scope"
  | serverError => "server_error"
  | temporarilyUnavailable => "temporarily_unavailable"
  | loginRequired => "login_required"
  | consentRequired => "consent_required"
  | interactionRequired => "interaction_required"
  | requestNotSupported => "request_not_supported"
  | requestUriNotSupported => "request_uri_not_supported"
  | invalidRequestObject => "invalid_request_object"
  | other s => s

/-- The code that a text writes. -/
def ofText (s : String) : ErrorCode :=
  (known.find? fun code => code.text == s).getD (other s)

/-- Is the code one of those defined here? -/
def isKnown : ErrorCode → Bool
  | other _ => false
  | _ => true

end ErrorCode

/-- An error response. -/
structure ErrorResponse where
  code : ErrorCode
  description : Option String
  page : Option Url
deriving DecidableEq

namespace ErrorResponse

/-- The response of a code alone. -/
def ofCode (code : ErrorCode) : ErrorResponse :=
  ⟨code, none, none⟩

/-- The response with another description. -/
def describe (e : ErrorResponse) (description : String) : ErrorResponse :=
  { e with description := some description }

/-- The response with a detail behind its description. -/
def detail (e : ErrorResponse) (detail : String) : ErrorResponse :=
  match e.description with
  | some description => e.describe (description ++ ": " ++ detail)
  | none => e.describe detail

/-- The response with the address of a page about the error. -/
def refer (e : ErrorResponse) (page : Url) : ErrorResponse :=
  { e with page := some page }

/-- The response to a request that is not well-formed. -/
def invalidRequest : ErrorResponse :=
  (ofCode .invalidRequest).describe "Invalid request"

/-- The response to a request that is denied. -/
def accessDenied : ErrorResponse :=
  (ofCode .accessDenied).describe "Access denied by resource owner or authorization server"

/-- The response to a response type that is not supported. -/
def unsupportedResponseType : ErrorResponse :=
  (ofCode .unsupportedResponseType).describe "Unsupported response type"

/-- The response to a request object that is not valid. -/
def invalidRequestObject : ErrorResponse :=
  (ofCode .invalidRequestObject).describe "Invalid request object"

/-- The code, and the description behind it if there is one. -/
def text (e : ErrorResponse) : String :=
  match e.description with
  | some description => e.code.text ++ ": " ++ description
  | none => e.code.text

/-! ## Members -/

/-- The members of a response. -/
def toObject (e : ErrorResponse) : Object :=
  ((Object.empty.insert "error" (.string e.code.text)).insert? "error_description"
    (e.description.map Json.string)).insert? "error_uri" (e.page.map fun u => .string u.text)

/-- A value that null stands for the absence of. -/
def readUnlessNull {α : Type} (read : Json → Except Fault α) : Json → Except Fault (Option α)
  | .null => .ok none
  | value => (read value).map some

/-- What a member holds, if it is there. -/
def readMember {α : Type} (o : Object) (name : String) (read : Json → Except Fault α) :
    Except Fault (Option α) :=
  match o.get? name with
  | none => .ok none
  | some value => (read value).map some

/-- The response that an object writes. -/
def ofObject (o : Object) : Except Fault ErrorResponse := do
  let code ← readMember o "error" Json.readString
  let description ← readMember o "error_description" (readUnlessNull Json.readString)
  let page ← readMember o "error_uri" (readUnlessNull Json.readUrl)
  match code with
  | some code => return ⟨.ofText code, description.join, page.join⟩
  | none => throw (.missingMember "error")

/-- The fault of a list that ends too early. -/
def tooShort (found : Nat) : Fault :=
  .tooFewItems found .errorObject 3

/-- The response that a list writes: the code, the description and the page. -/
def ofItems : List Json → Except Fault ErrorResponse
  | [] => .error (tooShort 0)
  | code :: rest => do
    let code ← code.readString
    match rest with
    | [] => throw (tooShort 1)
    | description :: rest =>
      let description ← readUnlessNull Json.readString description
      match rest with
      | [] => throw (tooShort 2)
      | page :: rest =>
        let page ← readUnlessNull Json.readUrl page
        if rest.isEmpty then return ⟨.ofText code, description, page⟩
        else throw (.tooManyItems (3 + rest.length))

/-- The response that a value writes. -/
def read : Json → Except Fault ErrorResponse
  | .object members => ofObject (.ofList members)
  | .array items => ofItems items
  | value => .error (.mistyped value .errorObject)

/-! ## Redirects -/

/-- The response as pairs of texts, with the state of the request it answers. -/
def pairs (e : ErrorResponse) (state : Option String) : List (String × String) :=
  [("error", e.code.text)] ++ (e.description.toList.map fun s => ("error_description", s))
    ++ (e.page.toList.map fun u => ("error_uri", u.text))
    ++ (state.toList.map fun s => ("state", s))

/-- The redirect that returns a response in the query or in the fragment. -/
def redirect (e : ErrorResponse) (target : Url) (mode : ResponseMode) (state : Option String) :
    Except Fault Url :=
  let form := Text.Form.write (e.pairs state)
  match mode with
  | .query => .ok (target.appendQuery form)
  | .fragment => .ok (target.setFragment form)
  | mode => .error (.noRedirect mode.text)

end ErrorResponse

end OpenIdConnect
