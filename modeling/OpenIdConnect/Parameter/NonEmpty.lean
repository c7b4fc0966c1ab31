import OpenIdConnect.Parameter.Basic

/-!
# Lists with at least one element
-/

namespace OpenIdConnect

/-- A list with at least one element. -/
structure NonEmpty (α : Type) where
  first : α
  rest : List α
deriving DecidableEq

namespace NonEmpty

variable {α : Type}

/-- The list of one element. -/
def single (a : α) : NonEmpty α := ⟨a, []⟩

/-- The elements. -/
def toList (l : NonEmpty α) : List α :=
  l.first :: l.rest

/-- The list, unless it is empty. -/
def ofList : List α → Except Fault (NonEmpty α)
  | [] => .error .emptyList
  | a :: rest => .ok ⟨a, rest⟩

/-- How many elements there are. -/
def size (l : NonEmpty α) : Nat :=
  l.toList.length

/-- The list with an element behind it. -/
def push (l : NonEmpty α) (a : α) : NonEmpty α :=
  ⟨l.first, l.rest ++ [a]⟩

/-- A list of strings with at least one of them. -/
def readStrings (value : Json) : Except Fault (NonEmpty String) := do
  ofList (← value.readStrings)

end NonEmpty

end OpenIdConnect
