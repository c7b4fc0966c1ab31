import OpenIdConnect.Json.Basic

/-!
# Objects

The members of a JSON object in strictly ascending order of their names.  Names are
compared by code points, which is also the order of their UTF-8 bytes.
-/

namespace OpenIdConnect

/-- Do the names ascend strictly? -/
def Ascending (members : List (String × Json)) : Prop :=
  members.Pairwise fun a b => a.1 < b.1

namespace Ascending

instance (members : List (String × Json)) : Decidable (Ascending members) :=
  inferInstanceAs (Decidable (List.Pairwise _ _))

/-- The members with one added, or replaced when its name is there. -/
def insert (name : String) (value : Json) : List (String × Json) → List (String × Json)
  | [] => [(name, value)]
  | (k, v) :: rest =>
    if name < k then (name, value) :: (k, v) :: rest
    else if name = k then (name, value) :: rest
    else (k, v) :: insert name value rest

theorem mem_insert {name : String} {value : Json} {a : String × Json}
    {members : List (String × Json)} (h : a ∈ insert name value members) :
    a = (name, value) ∨ a ∈ members := by
  induction members with
  | nil => simpa [insert] using h
  | cons head rest ih =>
    obtain ⟨k, v⟩ := head
    rw [insert] at h
    split at h
    · simpa using h
    · split at h
      · rcases List.mem_cons.1 h with h | h
        · exact .inl h
        · exact .inr (List.mem_cons_of_mem _ h)
      · rcases List.mem_cons.1 h with h | h
        · exact .inr (h ▸ List.mem_cons_self)
        · exact (ih h).imp_right (List.mem_cons_of_mem _)

theorem lt_of_not_lt_of_ne {a b : String} (h : ¬ a < b) (hne : a ≠ b) : b < a := by
  refine Decidable.byContradiction fun hba => hne ?_
  exact String.le_antisymm (String.not_lt.1 hba) (String.not_lt.1 h)

theorem of_insert {name : String} {value : Json} {members : List (String × Json)}
    (h : Ascending members) : Ascending (insert name value members) := by
  induction members with
  | nil => simp [Ascending, insert]
  | cons head rest ih =>
    obtain ⟨k, v⟩ := head
    have hhead := (List.pairwise_cons.1 h).1
    have hrest := (List.pairwise_cons.1 h).2
    rw [insert]
    split
    · next hlt =>
      refine List.pairwise_cons.2 ⟨?_, h⟩
      intro a ha
      rcases List.mem_cons.1 ha with rfl | ha
      · exact hlt
      · exact String.lt_trans hlt (hhead a ha)
    · next hlt =>
      split
      · next heq =>
        subst heq
        exact List.pairwise_cons.2 ⟨hhead, hrest⟩
      · next hne =>
        refine List.pairwise_cons.2 ⟨?_, ih hrest⟩
        intro a ha
        rcases mem_insert ha with rfl | ha
        · exact lt_of_not_lt_of_ne hlt hne
        · exact hhead a ha

end Ascending

/-- A JSON object: a finite map from names to values. -/
structure Object where
  members : List (String × Json)
  ascending : Ascending members

namespace Object

/-- The object without members. -/
def empty : Object := ⟨[], .nil⟩

instance : Inhabited Object := ⟨empty⟩

instance : EmptyCollection Object := ⟨empty⟩

/-- Two objects are the same when their members are. -/
def same (a b : Object) : Bool :=
  Json.sameMembers a.members b.members

instance : BEq Object := ⟨same⟩

/-- The value of a name. -/
def get? (o : Object) (name : String) : Option Json :=
  o.members.lookup name

/-- Is there a member of this name? -/
def contains (o : Object) (name : String) : Bool :=
  (o.get? name).isSome

/-- The object with one member added or replaced. -/
def insert (o : Object) (name : String) (value : Json) : Object :=
  ⟨Ascending.insert name value o.members, o.ascending.of_insert⟩

/-- The object without the members that the test refuses. -/
def filter (o : Object) (keep : String → Json → Bool) : Object :=
  ⟨o.members.filter fun m => keep m.1 m.2, o.ascending.filter _⟩

/-- The object without one member. -/
def erase (o : Object) (name : String) : Object :=
  o.filter fun k _ => k != name

/-- The object without several members. -/
def eraseAll (o : Object) (names : List String) : Object :=
  o.filter fun k _ => !names.contains k

/-- The members of a list, of which the last of a name counts. -/
def ofList (members : List (String × Json)) : Object :=
  members.foldl (fun o m => o.insert m.1 m.2) empty

/-- The members of the second object over those of the first. -/
def union (a b : Object) : Object :=
  b.members.foldl (fun o m => o.insert m.1 m.2) a

/-- The object with a member, or unchanged without a value. -/
def insert? (o : Object) (name : String) : Option Json → Object
  | some value => o.insert name value
  | none => o

/-- The names in ascending order. -/
def names (o : Object) : List String :=
  o.members.map Prod.fst

/-- How many members there are. -/
def size (o : Object) : Nat :=
  o.members.length

/-- Are there no members? -/
def isEmpty (o : Object) : Bool :=
  o.members.isEmpty

/-- The object as a value. -/
def toJson (o : Object) : Json :=
  .object o.members

end Object

/-- The object that a value is. -/
def Json.object? : Json → Option Object
  | .object members => some (Object.ofList members)
  | _ => none

end OpenIdConnect
