import OpenIdConnect.Claims.Individual

/-!
# Selections of claims

The claims requested from one place.  A selection is a finite map from claim keys to
requests that remembers the order in which the keys came; the order shows in nothing but
the written form of two keys with one text, and equality ignores it.
-/

namespace OpenIdConnect

namespace Claims

/-- The requests for the claims of one place. -/
structure Selection where
  claims : List Individual

namespace Selection

/-- The selection without claims. -/
def empty : Selection := ⟨[]⟩

instance : Inhabited Selection := ⟨empty⟩

instance : EmptyCollection Selection := ⟨empty⟩

/-- The request for a claim. -/
def get? (s : Selection) (key : Key) : Option Individual :=
  s.claims.find? fun c => c.key == key

/-- Put a request in the place of the one with its key, or behind all others. -/
def put (c : Individual) : List Individual → List Individual
  | [] => [c]
  | d :: rest => if d.key == c.key then c :: rest else d :: put c rest

/-- The selection with a request added, or replaced when its key is there. -/
def insert (s : Selection) (c : Individual) : Selection :=
  ⟨put c s.claims⟩

/-- The selection without the request for exactly this claim. -/
def erase (s : Selection) (key : Key) : Selection :=
  ⟨s.claims.filter fun c => c.key != key⟩

/-- The selection of requests, of which the last for a claim counts. -/
def ofList (claims : List Individual) : Selection :=
  claims.foldl insert empty

/-- How many claims are requested. -/
def size (s : Selection) : Nat :=
  s.claims.length

/-- Is nothing requested? -/
def isEmpty (s : Selection) : Bool :=
  s.claims.isEmpty

/-- Do two selections hold the same requests for the same claims? -/
def same (a b : Selection) : Bool :=
  a.size == b.size &&
    a.claims.all fun c =>
      match b.get? c.key with
      | some d => d == c
      | none => false

instance : BEq Selection := ⟨same⟩

/--
The selection with voluntary requests for those of the names that are not requested
without a tag yet; `none` when a name is empty.
-/
def insertNames? : Selection → List String → Option Selection
  | s, [] => some s
  | s, name :: names =>
    if (s.get? ⟨name, none⟩).isSome then s.insertNames? names
    else (Individual.named? name).bind fun c => (s.insert c).insertNames? names

/-- A selection combined with a request, merging it with the one for the same claim. -/
def mergeOne (s : Selection) (c : Individual) : Selection :=
  match s.get? c.key with
  | some d => s.insert (d.merge c)
  | none => s.insert c

/-- Both selections, their requests merged claim by claim. -/
def merge (s other : Selection) : Selection :=
  other.claims.foldl mergeOne s

/-- Texts in ascending order without repetition. -/
def sorted (texts : List String) : List String :=
  (Object.ofList (texts.map fun t => (t, Json.null))).names

/-- The names of the requested claims, without tags. -/
def names (s : Selection) : List String :=
  sorted (s.claims.map fun c => c.key.name)

/-- The texts of the keys of the requested claims. -/
def keyTexts (s : Selection) : List String :=
  sorted (s.claims.map fun c => c.key.text)

/-- The written form: one member for each claim. -/
def toObject (s : Selection) : Object :=
  .ofList (s.claims.map fun c => (c.key.text, c.spec))

/-- The member of a claims object that does not stand for a claim. -/
def verifiedMember : String := "verified_claims"

/-- The selection that the members of a claims object write, continuing a given one. -/
def parseMembers : Selection → List (String × Json) → Except Fault Selection
  | s, [] => .ok s
  | s, (key, spec) :: rest =>
    if key = verifiedMember then parseMembers s rest
    else do
      let c ← Individual.parse key spec
      parseMembers (s.insert c) rest

/-- The selection that a claims object writes. -/
def parse (o : Object) : Except Fault Selection :=
  parseMembers empty o.members

end Selection

end Claims

end OpenIdConnect
