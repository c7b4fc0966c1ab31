import OpenIdConnect.Authentication.Request

/-!
# Claims that scopes ask for

Some scope values stand for claims: the standard ones, and those that a provider defines.
The claims of a scope are asked for in the ID token when no access token is issued, and
from the UserInfo endpoint otherwise; explicit requests come on top of them.
-/

namespace OpenIdConnect

namespace Claims

/-- The claims of scope values that a provider defines. -/
abbrev ScopeClaims := List (String × List String)

/-- The claims of the standard scope values. -/
def standardScopes : ScopeClaims :=
  [("profile",
      ["name", "family_name", "given_name", "middle_name", "nickname", "preferred_username",
        "profile", "picture", "website", "gender", "birthdate", "zoneinfo", "locale",
        "updated_at"]),
    ("email", ["email", "email_verified"]),
    ("address", ["address"]),
    ("phone", ["phone_number", "phone_number_verified"])]

/-- The claims of a standard scope value. -/
def standardClaims? (value : String) : Option (List String) :=
  standardScopes.lookup value

/-- The claims of a scope value: the standard ones, then those that a provider defines. -/
def claimsOf (defined : ScopeClaims) (value : String) : List String :=
  (standardClaims? value).getD [] ++ (defined.lookup value).getD []

/-- What is said when a claim without a name is asked for. -/
def namelessClaim : String :=
  "the claim name must not be empty"

namespace Selection

/-- The claims of a scope; `none` when one of them has no name. -/
def ofScope? (scope : Scope) (defined : ScopeClaims) : Option Selection :=
  empty.insertNames? (scope.values.flatMap (claimsOf defined))

end Selection

namespace Request

/-- The request for the claims of a scope alone. -/
def ofScope? (responseType : ResponseType) (scope : Scope) (defined : ScopeClaims) :
    Option Request :=
  (Selection.ofScope? scope defined).map fun claims =>
    if responseType.deliversInIdToken then empty.setIdToken claims
    else empty.setUserinfo claims

/-- Does the request belong to OpenID Connect, by its scope and its response type? -/
def concernsOpenid (responseType : ResponseType) (scope : Option Scope) : Bool :=
  (scope.map Scope.hasOpenid).getD false && responseType.isOpenid

/--
All claims that are asked for, by scope or explicitly; `none` when a claim of the scope has
no name.
-/
def resolve? (responseType : ResponseType) (scope : Option Scope) (explicit : Option Request)
    (defined : ScopeClaims) : Option Request :=
  if concernsOpenid responseType scope then
    (ofScope? responseType (scope.getD .empty) defined).map fun implied =>
      match explicit with
      | some explicit => implied.add explicit
      | none => implied
  else some empty

end Request

end Claims

namespace AuthenticationRequest

/-- All claims that a request asks for. -/
def resolveClaims? (r : AuthenticationRequest) (defined : Claims.ScopeClaims) :
    Option Claims.Request :=
  Claims.Request.resolve? r.responseType (some r.scope) r.claims defined

end AuthenticationRequest

end OpenIdConnect
