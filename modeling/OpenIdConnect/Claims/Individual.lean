import OpenIdConnect.Claims.Fault
import OpenIdConnect.Language.Tag

/-!
# Requests for single claims

A claim is identified by its name and, for a variant in one language, a language tag,
written `name#tag`.  A request for it says whether the claim is essential, which value or
values are acceptable and what the claim is needed for; further details are kept as they
are.  A request that says nothing is written as null.
-/

namespace OpenIdConnect

namespace Claims

/-- What identifies a claim among others. -/
structure Key where
  name : String
  tag : Option LanguageTag
deriving DecidableEq

namespace Key

/-- The name, and the tag behind a number sign if there is one. -/
def text (k : Key) : String :=
  match k.tag with
  | some tag => k.name ++ "#" ++ tag.text
  | none => k.name

/--
The key that a text writes.  A tag stands behind the last number sign; where that is not
preceded by a name or not followed by a language tag, the whole text is the name.
-/
def ofText (s : String) : Key :=
  match Text.cutAtLast? (· == '#') s.toList with
  | none => ⟨s, none⟩
  | some (name, suffix) =>
    if name.isEmpty then ⟨s, none⟩
    else
      match LanguageTag.parse (String.ofList suffix) with
      | .ok tag => ⟨String.ofList name, some tag⟩
      | .error _ => ⟨s, none⟩

end Key

/-- How much a claim is needed. -/
inductive Necessity where
  | voluntary
  | essential
deriving DecidableEq

/-- The greater of two necessities. -/
def Necessity.max : Necessity → Necessity → Necessity
  | voluntary, n => n
  | essential, _ => essential

/--
What is acceptable as the value of a claim: anything, one value, or the values of a list.

No request has both a value and a list of values, so the two are one field.  A request that is
written with both is refused.  Setting either takes the place of the other, and setting null leaves
neither.  A merged request has the whole constraint of the second request or that of the first.
-/
inductive Constraint where
  | any
  | value (v : Json)
  | values (vs : List Json)

namespace Constraint

/-- Do two constraints accept the same? -/
def same : Constraint → Constraint → Bool
  | any, any => true
  | value v, value w => v == w
  | values vs, values ws => Json.sameItems vs ws
  | _, _ => false

instance : BEq Constraint := ⟨same⟩

/-- Does the constraint accept everything? -/
def isAny : Constraint → Bool
  | any => true
  | _ => false

/-- The second constraint where it says anything, else the first. -/
def orElse : Constraint → Constraint → Constraint
  | c, any => c
  | _, c => c

end Constraint

/-- A request for one claim. -/
structure Individual where
  key : Key
  necessity : Necessity
  constraint : Constraint
  purpose : Option String
  details : Option Object

namespace Individual

/-- Do two requests ask for the same? -/
def same (a b : Individual) : Bool :=
  a.key == b.key && a.necessity == b.necessity && a.constraint == b.constraint
    && a.purpose == b.purpose && a.details == b.details

instance : BEq Individual := ⟨same⟩

/-- The voluntary request for a claim, without constraints. -/
def ofKey (key : Key) : Individual :=
  ⟨key, .voluntary, .any, none, none⟩

/-- The voluntary request for an untagged claim, unless its name is empty. -/
def named? (name : String) : Option Individual :=
  if name.isEmpty then none else some (ofKey ⟨name, none⟩)

/-- Is the claim essential? -/
def isEssential (c : Individual) : Bool :=
  c.necessity == .essential

/-- The value asked for, if there is one. -/
def value? (c : Individual) : Option Json :=
  match c.constraint with
  | .value v => some v
  | _ => none

/-- The acceptable values, if they are listed. -/
def values? (c : Individual) : Option (List Json) :=
  match c.constraint with
  | .values vs => some vs
  | _ => none

/-- The value asked for, when it is a string. -/
def valueText? (c : Individual) : Option String :=
  match c.value? with
  | some (.string s) => some s
  | _ => none

/-- The strings among the listed values. -/
def valuesTexts? (c : Individual) : Option (List String) :=
  c.values?.map fun vs => vs.filterMap fun v =>
    match v with
    | .string s => some s
    | _ => none

/-- The request with another language tag. -/
def setTag (c : Individual) (tag : Option LanguageTag) : Individual :=
  { c with key := { c.key with tag := tag } }

/-- The request with another necessity. -/
def setNecessity (c : Individual) (necessity : Necessity) : Individual :=
  { c with necessity := necessity }

/-- The request for one value; null asks for any. -/
def setValue (c : Individual) (v : Json) : Individual :=
  { c with constraint := if v.isNull then .any else .value v }

/-- The request for one of several values. -/
def setValues (c : Individual) (vs : List Json) : Individual :=
  { c with constraint := .values vs }

/-- The request with a purpose of a proper length. -/
def setPurpose (c : Individual) (purpose : String) : Except Fault Individual :=
  if minPurposeLength ≤ purpose.length ∧ purpose.length ≤ maxPurposeLength then
    .ok { c with purpose := some purpose }
  else .error (.purposeLength purpose.length)

/-- The members with a meaning of their own. -/
def reserved : List String :=
  ["essential", "value", "values", "purpose"]

/-- Details, of which there are none in an empty object. -/
def detailsOf (details : Object) : Option Object :=
  if details.isEmpty then none else some details

/-- The request with other details, none of them a member with a meaning of its own. -/
def setDetails (c : Individual) (details : Object) : Except Fault Individual :=
  match details.names.find? fun name => reserved.contains name with
  | some name => .error (.reservedMember name)
  | none => .ok { c with details := detailsOf details }

/-- The details of both requests, those of the second over those of the first. -/
def mergeDetails : Option Object → Option Object → Option Object
  | details, none => details
  | none, some details => some details
  | some details, some more => some (details.union more)

/--
Both requests for a claim in one: the greater necessity, and whatever the second one says
over what the first one says.
-/
def merge (c other : Individual) : Individual :=
  { key := c.key
    necessity := c.necessity.max other.necessity
    constraint := c.constraint.orElse other.constraint
    purpose := other.purpose.or c.purpose
    details := mergeDetails c.details other.details }

/-! ## Written form -/

/-- Does the request say nothing beyond the claim it is for? -/
def isPlain (c : Individual) : Bool :=
  !c.isEssential && c.constraint.isAny && c.purpose.isNone && c.details.isNone

/-- The members of the written request. -/
def members (c : Individual) : Object :=
  let start := if c.isEssential then Object.empty.insert "essential" (.bool true) else .empty
  let constrained :=
    (start.insert? "value" c.value?).insert? "values" (c.values?.map Json.array)
  let explained := constrained.insert? "purpose" (c.purpose.map Json.string)
  explained.union (c.details.getD .empty)

/-- The written request. -/
def spec (c : Individual) : Json :=
  if c.isPlain then .null else c.members.toJson

/-- What a written request says about the necessity. -/
def readNecessity (claim : String) : Option Json → Except Fault Necessity
  | none => .ok .voluntary
  | some (.bool true) => .ok .essential
  | some (.bool false) => .ok .voluntary
  | some _ => .error (.invalidMember claim .essentialNotBoolean)

/-- What a written request says about the purpose. -/
def readPurpose (claim : String) : Option Json → Except Fault (Option String)
  | none => .ok none
  | some (.string s) => .ok (some s)
  | some _ => .error (.invalidMember claim .purposeNotString)

/-- What a written request says about the values. -/
def readValues (claim : String) : Option Json → Except Fault (Option (List Json))
  | none => .ok none
  | some (.array vs) => .ok (some vs)
  | some _ => .error (.invalidMember claim .valuesNotArray)

/-- The constraint that a value, of which null counts as none, or values make. -/
def readConstraint (claim : String) (v : Option Json) (vs : Option (List Json)) :
    Except Fault Constraint :=
  match v.filter fun v => !v.isNull, vs with
  | none, none => .ok .any
  | some v, none => .ok (.value v)
  | none, some vs => .ok (.values vs)
  | some _, some _ => .error (.invalidMember claim .valuesBesideValue)

/-- The request that a member of a claims object writes. -/
def parse (key : String) (spec : Json) : Except Fault Individual := do
  if key.isEmpty then throw .unnamedClaim
  let claim := ofKey (.ofText key)
  match spec with
  | .null => return claim
  | .object members =>
    let o := Object.ofList members
    let necessity ← readNecessity key (o.get? "essential")
    let purpose ← readPurpose key (o.get? "purpose")
    let values ← readValues key (o.get? "values")
    let constraint ← readConstraint key (o.get? "value") values
    return ⟨claim.key, necessity, constraint, purpose, detailsOf (o.eraseAll reserved)⟩
  | _ => throw (.notAnObject ("\"" ++ key ++ "\""))

end Individual

end Claims

end OpenIdConnect
