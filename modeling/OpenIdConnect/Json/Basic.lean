import OpenIdConnect.Decimal.Binary64

/-!
# JSON values

Numbers are integers of 64 bits, signed or unsigned, or finite floating-point numbers;
the members of an object are a list of names and values.  Two values are the same
document when they agree up to the sign of zero: an integer never equals a
floating-point number, and the two zeros are equal.
-/

namespace OpenIdConnect

/-- A JSON number. -/
inductive Number where
  | integer (value : Int) (inRange : -9223372036854775808 ≤ value ∧ value < 18446744073709551616)
  | float (value : Decimal.Binary64)
deriving DecidableEq

namespace Number

/-- The integer as a number, when it fits. -/
def ofInt? (n : Int) : Option Number :=
  if h : -9223372036854775808 ≤ n ∧ n < 18446744073709551616 then some (.integer n h) else none

/-- Equality of value. -/
def same : Number → Number → Bool
  | .integer a _, .integer b _ => a == b
  | .float a, .float b => a.sameValue b
  | _, _ => false

instance : BEq Number := ⟨same⟩

end Number

/-- A JSON value. -/
inductive Json where
  | null
  | bool (b : Bool)
  | number (n : Number)
  | string (s : String)
  | array (items : List Json)
  | object (members : List (String × Json))

namespace Json

instance : Inhabited Json := ⟨.null⟩

mutual

/-- Are two values the same document? -/
def same : Json → Json → Bool
  | .null, .null => true
  | .bool a, .bool b => a == b
  | .number a, .number b => a == b
  | .string a, .string b => a == b
  | .array a, .array b => sameItems a b
  | .object a, .object b => sameMembers a b
  | _, _ => false

/-- Are two lists of values the same, one by one? -/
def sameItems : List Json → List Json → Bool
  | [], [] => true
  | a :: as, b :: bs => same a b && sameItems as bs
  | _, _ => false

/-- Are two lists of members the same, one by one? -/
def sameMembers : List (String × Json) → List (String × Json) → Bool
  | [], [] => true
  | (k, a) :: as, (l, b) :: bs => k == l && same a b && sameMembers as bs
  | _, _ => false

end

instance : BEq Json := ⟨same⟩

/-- A value is nothing when it is null. -/
def isNull : Json → Bool
  | .null => true
  | _ => false

/-- A natural number of 64 bits. -/
def ofUInt64 (n : UInt64) : Json :=
  .number (.integer n.toNat (by have := n.toNat_lt; omega))

/-- An integer of 64 bits. -/
def ofInt64 (n : Int64) : Json :=
  .number (.integer n.toInt (by have := n.le_toInt; have := n.toInt_lt; omega))

end Json

end OpenIdConnect
