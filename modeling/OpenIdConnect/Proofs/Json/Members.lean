import OpenIdConnect.Json.Lookup

/-!
# Members of objects

The members of an object are its lookups, and an object made of members with different names
holds just these.
-/

namespace OpenIdConnect

namespace Json

theorem isNull_iff {v : Json} : v.isNull = true ↔ v = .null := by
  cases v <;> simp [isNull]

theorem object?_eq_some_iff {v : Json} {o : Object} :
    v.object? = some o ↔ ∃ members, v = .object members ∧ Object.ofList members = o := by
  cases v <;> simp [object?]

end Json

namespace Ascending

theorem nodup_names {members : List (String × Json)} (ascending : Ascending members) :
    (members.map Prod.fst).Nodup := by
  rw [List.Nodup, List.pairwise_map]
  refine ascending.imp ?_
  intro a b less same
  exact String.lt_irrefl b.1 (same ▸ less)

theorem mem_iff_lookup {members : List (String × Json)} (ascending : Ascending members)
    {k : String} {v : Json} : (k, v) ∈ members ↔ members.lookup k = some v := by
  induction members with
  | nil => simp
  | cons head rest ih =>
      obtain ⟨name, value⟩ := head
      obtain ⟨less, ordered⟩ := List.pairwise_cons.mp ascending
      rw [lookup_cons, List.mem_cons, Prod.mk.injEq]
      by_cases same : k = name
      · subst same
        have absent : (k, v) ∉ rest := fun member => String.lt_irrefl k (less _ member)
        simp [absent, eq_comm]
      · simp [same, ih ordered]

theorem insert_perm {name : String} {value : Json} {members : List (String × Json)}
    (new : name ∉ members.map Prod.fst) :
    (insert name value members).Perm ((name, value) :: members) := by
  induction members with
  | nil => exact List.Perm.refl _
  | cons head rest ih =>
      obtain ⟨k, v⟩ := head
      rw [List.map_cons, List.mem_cons, not_or] at new
      rw [insert]
      split
      · exact List.Perm.refl _
      · rw [if_neg new.1]
        exact ((ih new.2).cons _).trans (List.Perm.swap _ _ _)

end Ascending

namespace Object

theorem mem_members_iff {o : Object} {k : String} {v : Json} :
    (k, v) ∈ o.members ↔ o.get? k = some v :=
  o.ascending.mem_iff_lookup

theorem isEmpty_iff {o : Object} : o.isEmpty = true ↔ ∀ k, o.get? k = none := by
  obtain ⟨members, ascending⟩ := o
  cases members with
  | nil => simp [isEmpty, get?]
  | cons head rest =>
      obtain ⟨name, value⟩ := head
      constructor
      · intro impossible
        cases impossible
      · intro absent
        have here := absent name
        rw [get?, Ascending.lookup_cons, if_pos rfl] at here
        cases here

theorem isEmpty_insert (o : Object) (name : String) (value : Json) :
    (o.insert name value).isEmpty = false := by
  rw [← Bool.not_eq_true, isEmpty_iff]
  intro absent
  have here := absent name
  rw [get?_insert, if_pos rfl] at here
  cases here

/-- Members make an object that is not empty, also where some of them have one name. -/
theorem isEmpty_ofList {members : List (String × Json)} (some : members ≠ []) :
    (ofList members).isEmpty = false := by
  have more (members : List (String × Json)) {o : Object} (nonempty : o.isEmpty = false) :
      (members.foldl (fun o m => o.insert m.1 m.2) o).isEmpty = false := by
    induction members generalizing o with
    | nil => exact nonempty
    | cons m rest ih => exact ih (isEmpty_insert o m.1 m.2)
  cases members with
  | nil => exact absurd rfl some
  | cons m rest => exact more rest (isEmpty_insert empty m.1 m.2)

theorem get?_insert? (o : Object) (name : String) (value : Option Json) (k : String) :
    (o.insert? name value).get? k = if k = name then value.or (o.get? k) else o.get? k := by
  cases value with
  | none => simp [insert?]
  | some v => simp [insert?, get?_insert]

theorem get?_foldl_insert?_of_new {entries : List (String × Option Json)} {k : String}
    (new : k ∉ entries.map Prod.fst) (o : Object) :
    (entries.foldl (fun o e => o.insert? e.1 e.2) o).get? k = o.get? k := by
  induction entries generalizing o with
  | nil => rfl
  | cons entry rest ih =>
      rw [List.map_cons, List.mem_cons, not_or] at new
      rw [List.foldl_cons, ih new.2, get?_insert?, if_neg new.1]

/-- Values written under different names are all found where nothing stood before. -/
theorem get?_foldl_insert?_of_mem {entries : List (String × Option Json)} {o : Object}
    {name : String} {value : Option Json} (different : (entries.map Prod.fst).Nodup)
    (absent : o.get? name = none) (member : (name, value) ∈ entries) :
    (entries.foldl (fun o e => o.insert? e.1 e.2) o).get? name = value := by
  induction entries generalizing o with
  | nil => cases member
  | cons entry rest ih =>
      rw [List.map_cons, List.nodup_cons] at different
      rw [List.foldl_cons]
      rcases List.mem_cons.mp member with same | later
      · subst same
        rw [get?_foldl_insert?_of_new different.1, get?_insert?, if_pos rfl, absent,
          Option.or_none]
      · have other : name ≠ entry.1 := by
          intro same
          exact different.1 (same ▸ List.mem_map_of_mem later)
        refine ih different.2 ?_ later
        rw [get?_insert?, if_neg other, absent]

theorem erase_insert (o : Object) (name : String) (value : Json) :
    (o.insert name value).erase name = o.erase name := by
  refine ext_get? fun k => ?_
  rw [get?_erase, get?_erase, get?_insert]
  split <;> rfl

theorem erase_insert? (o : Object) (name : String) (value : Option Json) :
    (o.insert? name value).erase name = o.erase name := by
  cases value with
  | none => rfl
  | some v => exact erase_insert o name v

theorem erase_of_absent {o : Object} {name : String} (absent : o.get? name = none) :
    o.erase name = o := by
  refine ext_get? fun k => ?_
  rw [get?_erase]
  split
  · next same => rw [same, absent]
  · rfl

theorem union_assoc (a b c : Object) : (a.union b).union c = a.union (b.union c) := by
  refine ext_get? fun k => ?_
  iterate 4 rw [get?_union]
  exact Option.or_assoc.symm

theorem union_self (o : Object) : o.union o = o := by
  refine ext_get? fun k => ?_
  rw [get?_union, Option.or_self]

theorem foldl_insert_perm {members : List (String × Json)} {o : Object}
    (new : ((o.members ++ members).map Prod.fst).Nodup) :
    (members.foldl (fun o m => o.insert m.1 m.2) o).members.Perm (o.members ++ members) := by
  induction members generalizing o with
  | nil => simp
  | cons head rest ih =>
      obtain ⟨name, value⟩ := head
      have absent : name ∉ o.members.map Prod.fst := by
        intro member
        rw [List.map_append, List.nodup_append] at new
        exact new.2.2 name member name (by simp) rfl
      have here : (Ascending.insert name value o.members).Perm ((name, value) :: o.members) :=
        Ascending.insert_perm absent
      have shape : ((o.insert name value).members ++ rest).Perm
          (o.members ++ (name, value) :: rest) :=
        (here.append_right rest).trans List.perm_middle.symm
      refine (ih ?_).trans shape
      exact (shape.map Prod.fst).nodup_iff.mpr new

/-- An object made of members with different names holds these members. -/
theorem ofList_perm {members : List (String × Json)} (different : (members.map Prod.fst).Nodup) :
    (ofList members).members.Perm members :=
  foldl_insert_perm different

end Object

end OpenIdConnect
