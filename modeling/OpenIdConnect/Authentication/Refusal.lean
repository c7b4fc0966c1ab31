import OpenIdConnect.Response.Error
import OpenIdConnect.Parameter.Interaction

/-!
# Refusals

Why an authentication request is refused, what the client is told, and what is known of
the client so that it can be told.  The wording of an objection becomes the description of
the error response.
-/

namespace OpenIdConnect

/-- Why an authentication request is refused. -/
inductive Objection where
  | query (cause : Fault)
  | invalid (parameter : String) (cause : Fault)
  | missing (parameter : String)
  | requestBesideRequestUri
  | openidMissing
  | nonceMissing
  | requestObject (cause : Fault)
  | otherClient
  | otherResponseType
  | responseTypeUnsupported (found : ResponseType)
  | claimsUnsupported
  | requestUnsupported
  | requestUriUnsupported
  | displayUnsupported (found : Display)
  | providerAtFault (cause : Fault)
  | classesUnsupported
  | stated (text : String)

namespace Objection

/-- The wording of an objection. -/
def message : Objection → String
  | query cause => cause.message
  | invalid parameter cause => "Invalid \"" ++ parameter ++ "\" parameter: " ++ cause.message
  | missing parameter => "Missing \"" ++ parameter ++ "\" parameter"
  | requestBesideRequestUri =>
    "The \"request\" and \"request_uri\" parameters must not be used together"
  | openidMissing => "The scope must include an \"openid\" value"
  | nonceMissing => "Missing \"nonce\" parameter: Required in the implicit and hybrid flows"
  | requestObject cause => "Invalid request object: " ++ cause.message
  | otherClient =>
    "The \"client_id\" of the request object does not match the \"client_id\" parameter"
  | otherResponseType =>
    "The \"response_type\" of the request object does not match the \"response_type\" parameter"
  | responseTypeUnsupported found => "Unsupported response type: " ++ found.text
  | claimsUnsupported => "The \"claims\" parameter is not supported"
  | requestUnsupported => "The \"request\" parameter is not supported"
  | requestUriUnsupported => "The \"request_uri\" parameter is not supported"
  | displayUnsupported found => "Unsupported \"display\" value: " ++ found.text
  | providerAtFault cause => "Invalid provider metadata: " ++ cause.message
  | classesUnsupported => "Requested essential ACR(s) not supported"
  | stated text => text

/-- The error response to an objection. -/
def response (o : Objection) : ErrorResponse :=
  match o with
  | requestObject _ | otherClient | otherResponseType =>
    ErrorResponse.invalidRequestObject.detail o.message
  | responseTypeUnsupported _ => (ErrorResponse.ofCode .unsupportedResponseType).describe o.message
  | claimsUnsupported | displayUnsupported _ =>
    (ErrorResponse.ofCode .invalidRequest).describe o.message
  | requestUnsupported => (ErrorResponse.ofCode .requestNotSupported).describe o.message
  | requestUriUnsupported => (ErrorResponse.ofCode .requestUriNotSupported).describe o.message
  | providerAtFault _ => .ofCode .serverError
  | classesUnsupported => ErrorResponse.accessDenied.detail o.message
  | query _ | invalid _ _ | missing _ | requestBesideRequestUri | openidMissing | nonceMissing
  | stated _ => ErrorResponse.invalidRequest.detail o.message

end Objection

/-- What is known of the client that sent a request, and of how it is answered. -/
structure Requester where
  clientId : Option String
  redirectUri : Option Url
  state : Option String
  responseMode : Option ResponseMode
deriving DecidableEq

namespace Requester

/-- The requester of whom nothing is known. -/
def unknown : Requester :=
  ⟨none, none, none, none⟩

end Requester

/-- The refusal of a request. -/
structure Refusal where
  objection : Objection
  response : ErrorResponse
  requester : Requester

namespace Refusal

/-- The wording of a refusal. -/
def message (r : Refusal) : String :=
  r.objection.message

/-- The redirect that tells the client, when it is known where to and how. -/
def redirect? (r : Refusal) : Option (Except Fault Url) :=
  match r.requester.redirectUri, r.requester.responseMode with
  | some target, some mode => some (r.response.redirect target mode r.requester.state)
  | _, _ => none

end Refusal

namespace Requester

/-- The refusal of what a requester asks for. -/
def refuse (r : Requester) (objection : Objection) : Refusal :=
  ⟨objection, objection.response, r⟩

end Requester

end OpenIdConnect
