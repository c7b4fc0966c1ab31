import OpenIdConnect.Claims.Selection
import OpenIdConnect.Parameter.Subject

/-!
# UserInfo responses

The claims about an end-user.  Besides the subject, only what was requested is released: a
request with a language tag releases that variant of a claim, and one without a tag
releases the claim in every language.
-/

namespace OpenIdConnect

/-- A UserInfo response: its members, and the subject they are about. -/
structure UserInfo where
  members : Object
  subject : String

namespace UserInfo

/-- The response that an object holds. -/
def ofObject (o : Object) : Except Fault UserInfo := do
  let subject ← o.require .subject
  return ⟨o, subject⟩

/-- The object of a response. -/
def toObject (u : UserInfo) : Object :=
  u.members.write .subject u.subject

/-- Are two responses the same? -/
def same (a b : UserInfo) : Bool :=
  a.members == b.members && a.subject == b.subject

instance : BEq UserInfo := ⟨same⟩

/-- The response with another member; the subject is kept apart from it. -/
def insert (u : UserInfo) (name : String) (value : Json) : UserInfo :=
  { u with members := u.members.insert name value }

/-- The response without a member; the subject is kept apart from it. -/
def erase (u : UserInfo) (name : String) : UserInfo :=
  { u with members := u.members.erase name }

/-! ## Claims -/

/-- A claim, in one language if there is a tag. -/
def claim? (u : UserInfo) (key : Claims.Key) : Option Json :=
  u.members.get? key.text

/-- A claim that is a string. -/
def text? (u : UserInfo) (name : String) : Option String :=
  match u.members.get? name with
  | some (.string s) => some s
  | _ => none

/-- A claim that is true or false. -/
def truth? (u : UserInfo) (name : String) : Option Bool :=
  match u.members.get? name with
  | some (.bool b) => some b
  | _ => none

/-- A claim that is a time in seconds since the epoch. -/
def time? (u : UserInfo) (name : String) : Option Int64 :=
  (u.members.get? name).bind fun value => value.readInt64.toOption

/-! ## Release -/

/-- The name of a claim without the language tag that may stand behind it. -/
def untagged (member : String) : String :=
  match Text.cutAtLast? (· == '#') member.toList with
  | some (name, _) => String.ofList name
  | none => member

/-- Does the request for a claim ask for a member? -/
def covers (c : Claims.Individual) (member : String) : Bool :=
  match c.key.tag with
  | some _ => c.key.text == member
  | none => c.key.name == untagged member || c.key.name == member

/-- Is a member released when a selection is requested? -/
def released (requested : Claims.Selection) (member : String) : Bool :=
  member == Parameter.subject.name || requested.claims.any fun c => covers c member

/-- The subject and what was requested. -/
def filter (u : UserInfo) (requested : Claims.Selection) : UserInfo :=
  ⟨u.members.filter fun member _ => released requested member, u.subject⟩

end UserInfo

end OpenIdConnect
