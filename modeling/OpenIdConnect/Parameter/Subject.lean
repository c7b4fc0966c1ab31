import OpenIdConnect.Parameter.NonEmpty

/-!
# Parameters about a subject

Members of UserInfo responses and of logout tokens: who the end-user is, which session is
meant, and who issued the statement for whom and when.
-/

namespace OpenIdConnect

/-- A subject identifier, which is not empty. -/
def readSubject : Json → Except Fault String
  | .string s => if s.isEmpty then .error .emptySubject else .ok s
  | _ => .error .notAString

/-- One audience, or several of them. -/
def readAudience : Json → Except Fault (NonEmpty String)
  | .string s => .ok (.single s)
  | .array items => do
    match ← items.mapM Json.readString with
    | [] => throw .noAudience
    | first :: rest => return ⟨first, rest⟩
  | _ => .error .audienceNotStrings

/-- Audiences: a single one stands for itself. -/
def writeAudience : NonEmpty String → Json
  | ⟨first, []⟩ => .string first
  | audience => .array (audience.toList.map Json.string)

/-- Events, among them the one of a logout. -/
def readEvents : Json → Except Fault Object
  | .object members =>
    let events := Object.ofList members
    match events.get? logoutEvent with
    | some (.object _) => .ok events
    | some _ => .error .eventNotAnObject
    | none => .error .eventMissing
  | _ => .error .notAnObject

/-- The event of a logout alone. -/
def logoutEvents : Object :=
  Object.empty.insert logoutEvent Object.empty.toJson

namespace Parameter

/-- The end-user, `sub`. -/
def subject : Parameter String :=
  ⟨"sub", readSubject, Json.string⟩

/-- The issuer of a token, `iss`. -/
def tokenIssuer : Parameter String := text "iss"

/-- The audience of a token, `aud`. -/
def audience : Parameter (NonEmpty String) :=
  ⟨"aud", readAudience, writeAudience⟩

/-- A time in seconds since the epoch. -/
def time (name : String) : Parameter Int64 :=
  ⟨name, Json.readInt64, Json.ofInt64⟩

/-- The time a token was issued at, `iat`. -/
def issuedAt : Parameter Int64 := time "iat"

/-- The time a token expires at, `exp`. -/
def expiry : Parameter Int64 := time "exp"

/-- The identifier of a token, `jti`. -/
def tokenId : Parameter String := text "jti"

/-- The events that a token reports, `events`. -/
def events : Parameter Object :=
  ⟨"events", readEvents, Object.toJson⟩

/-- The session of an end-user, `sid`. -/
def session : Parameter String := text "sid"

end Parameter

end OpenIdConnect
