import OpenIdConnect.Authentication.Reader

/-!
# Request objects

A request object carries parameters of an authentication request in a token.  What it says
stands over what the query says, except that it can neither name another client nor ask
for another response type; the parameters of both are then read again as a whole.
-/

namespace OpenIdConnect

namespace AuthenticationRequest

variable {α : Type}

/-- Does a request object contradict a value, by another one or by one that is at fault? -/
def contradicts [BEq α] (object : Object) (p : Parameter α) (value : α) : Bool :=
  match object.read? p with
  | none => false
  | some (.ok found) => !(found == value)
  | some (.error _) => true

/-- An object without the parameters that hold a request object. -/
def withoutRequestObject (params : Object) : Object :=
  params.eraseAll [Parameter.request.name, Parameter.requestUri.name]

/-- The request with the parameters of a request object over its own. -/
def assemble (r : AuthenticationRequest) (object : Object) :
    Except Refusal AuthenticationRequest := do
  if contradicts object .clientId r.clientId then throw (r.refuse .otherClient)
  if contradicts object .responseType r.responseType then throw (r.refuse .otherResponseType)
  parse r.endpoint ((withoutRequestObject r.parameters).union (withoutRequestObject object))

/-- The request with the parameters of the request object it holds, which is read as given. -/
def resolveWith (r : AuthenticationRequest) (decode : String → Except Fault Object) :
    Except Refusal AuthenticationRequest := do
  match r.request with
  | none => return r
  | some token =>
    match decode token with
    | .ok object => r.assemble object
    | .error cause => throw (r.refuse (.requestObject cause))

/-- The request with the parameters of the request object it holds, taken as unsecured. -/
def resolve (r : AuthenticationRequest) : Except Refusal AuthenticationRequest :=
  r.resolveWith Token.claims

end AuthenticationRequest

end OpenIdConnect
