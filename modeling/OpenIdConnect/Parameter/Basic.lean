import OpenIdConnect.Fault
import OpenIdConnect.Text.Blank
import OpenIdConnect.Text.Form
import OpenIdConnect.Url.Reader

/-!
# Parameters

A parameter is a name with a way to read a value from JSON and to write it back.  Objects
are read and written through parameters: a member is absent, or it is read, or it is at
fault.
-/

namespace OpenIdConnect

/-- A named member of an object with values of one type. -/
structure Parameter (α : Type) where
  name : String
  read : Json → Except Fault α
  write : α → Json

namespace Parameter

variable {α : Type}

/-- The value as it would be written after reading it. -/
def canonical (p : Parameter α) (value : Json) : Except Fault Json :=
  (p.read value).map p.write

end Parameter

namespace Object

variable {α : Type}

/-- The value of a parameter, if its member is there. -/
def read? (o : Object) (p : Parameter α) : Option (Except Fault α) :=
  (o.get? p.name).map p.read

/-- The value of a parameter whose member has to be there. -/
def require (o : Object) (p : Parameter α) : Except Fault α :=
  match o.get? p.name with
  | none => .error (.missing p.name)
  | some value => inContext (.parameter p.name) (p.read value)

/-- The value of a parameter whose member may be absent; a fault names the parameter. -/
def optional (o : Object) (p : Parameter α) : Except Fault (Option α) :=
  match o.get? p.name with
  | none => .ok none
  | some value => (inContext (.parameter p.name) (p.read value)).map some

/-- The value of a parameter, or another when its member is absent. -/
def readOr (o : Object) (p : Parameter α) (other : α) : Except Fault α :=
  match o.get? p.name with
  | none => .ok other
  | some value => p.read value

/-- The object with the value of a parameter. -/
def write (o : Object) (p : Parameter α) (value : α) : Object :=
  o.insert p.name (p.write value)

/-- The object with the value of a parameter, or unchanged without one. -/
def write? (o : Object) (p : Parameter α) : Option α → Object
  | some value => o.write p value
  | none => o

/-! ## Query strings -/

/-- The members as pairs of texts: null is left out, and a string stands for itself. -/
def pairs (o : Object) : List (String × String) :=
  o.members.filterMap fun m =>
    match m.2 with
    | .null => none
    | .string s => some (m.1, s)
    | value => some (m.1, value.compact)

/-- The members as a query string. -/
def query (o : Object) : String :=
  Text.Form.write o.pairs

/-- An object with more pairs: one without a value is passed over, and none may be repeated. -/
def insertPairs : Object → List (String × String) → Except Fault Object
  | o, [] => .ok o
  | o, (name, value) :: rest =>
    if value.isEmpty then o.insertPairs rest
    else if o.contains name then .error (.repeated name)
    else (o.insert name (.string value)).insertPairs rest

/-- The object that a query string writes. -/
def ofQuery (query : String) : Except Fault Object :=
  empty.insertPairs (Text.Form.read query)

end Object

/-! ## Reading values of simple types -/

namespace Json

/-- A string. -/
def readString : Json → Except Fault String
  | .string s => .ok s
  | v => .error (.mistyped v .text)

/-- A boolean. -/
def readBool : Json → Except Fault Bool
  | .bool b => .ok b
  | v => .error (.mistyped v .boolean)

/-- A list of strings. -/
def readStrings : Json → Except Fault (List String)
  | .array items => items.mapM readString
  | v => .error (.mistyped v .sequence)

/-- A signed integer of 64 bits. -/
def readInt64 : Json → Except Fault Int64
  | .number (.integer n _) =>
    if n < 9223372036854775808 then .ok (Int64.ofInt n) else .error (.outOfRange n)
  | v => .error (.mistyped v .integer64)

/-- An absolute URL. -/
def readUrl : Json → Except Fault Url
  | .string s => (Url.parse s).mapError fun defect => .url defect s
  | v => .error (.mistyped v .url)

/-- An object. -/
def readObject : Json → Except Fault Object
  | .object members => .ok (.ofList members)
  | _ => .error .notAnObject

/-- A map from names to values. -/
def readMap : Json → Except Fault Object
  | .object members => .ok (.ofList members)
  | v => .error (.mistyped v .map)

/-- A token, which stands in a list. -/
def readToken : Json → Except Fault String
  | .string s => .ok s
  | v => .error (.notAToken v)

/-- Tokens: the words of a string, or a list of strings as they are. -/
def readTokens : Json → Except Fault (List String)
  | .string s => .ok (Text.words s)
  | .array items => items.mapM readToken
  | v => .error (.notTokens v)

/-- Tokens as a string with a space between each two. -/
def ofTokens (tokens : List String) : Json :=
  .string (Text.joined " " tokens)

/-- Each item of a list. -/
def readItems {α : Type} (item : Json → Except Fault α) : Json → Except Fault (List α)
  | .array items => items.mapM item
  | _ => .error .notAnArray

end Json

namespace Parameter

/-- A parameter that is any string. -/
def text (name : String) : Parameter String :=
  ⟨name, Json.readString, Json.string⟩

/-- A parameter that is an absolute URL. -/
def url (name : String) : Parameter Url :=
  ⟨name, Json.readUrl, fun u => .string u.text⟩

/-- A parameter that is true or false. -/
def flag (name : String) : Parameter Bool :=
  ⟨name, Json.readBool, Json.bool⟩

/-- A parameter that is a list of strings. -/
def texts (name : String) : Parameter (List String) :=
  ⟨name, Json.readStrings, fun l => .array (l.map Json.string)⟩

end Parameter

end OpenIdConnect
