import OpenIdConnect.Claims.Resolution

/-!
# Settings of a provider

The claims that a provider defines for scope values, and the classes of authentication it
supports.  What is left out is empty.
-/

namespace OpenIdConnect

/-- The settings of a provider. -/
structure Settings where
  scopeClaims : Claims.ScopeClaims
  supportedClasses : List String
deriving DecidableEq

namespace Settings

/-- The settings that define nothing. -/
def empty : Settings := ⟨[], []⟩

/-- The claims of scope values that an object writes. -/
def readScopeClaims (value : Json) : Except Fault Claims.ScopeClaims := do
  (← value.readMap).members.mapM fun m => m.2.readStrings.map fun claims => (m.1, claims)

/-- What a value writes, or what stands for an absent one. -/
def readOr {α : Type} (absent : α) (read : Json → Except Fault α) :
    Option Json → Except Fault α
  | none => .ok absent
  | some value => read value

/-- The settings that two values write, each of which may be absent. -/
def readParts (scopeClaims supportedClasses : Option Json) : Except Fault Settings := do
  let scopeClaims ← readOr [] readScopeClaims scopeClaims
  let supportedClasses ← readOr [] Json.readStrings supportedClasses
  return ⟨scopeClaims, supportedClasses⟩

/-- The settings that an object or a list writes. -/
def read : Json → Except Fault Settings
  | .object members =>
    let o := Object.ofList members
    readParts (o.get? "custom_claims") (o.get? "supported_acr_values")
  | .array items => do
    let settings ← readParts items[0]? items[1]?
    if 2 < items.length then throw (.tooManyItems items.length)
    return settings
  | value => .error (.mistyped value .configuration)

end Settings

end OpenIdConnect
