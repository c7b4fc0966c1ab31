import OpenIdConnect.Json.Object

/-!
# Lookups in objects

What each operation on objects does to the lookups, and that the lookups determine the
object.
-/

namespace OpenIdConnect

namespace Ascending

theorem lookup_cons (k name : String) (value : Json) (members : List (String × Json)) :
    ((name, value) :: members).lookup k =
      if k = name then some value else members.lookup k := by
  rw [List.lookup_cons]
  by_cases h : k = name
  · simp [h]
  · have hne : (k == name) = false := by simpa using h
    simp [hne, h]

theorem lookup_eq_none {k : String} {members : List (String × Json)}
    (h : ∀ m ∈ members, k ≠ m.1) : members.lookup k = none := by
  induction members with
  | nil => rfl
  | cons head rest ih =>
    obtain ⟨name, value⟩ := head
    rw [lookup_cons, if_neg (h _ List.mem_cons_self)]
    exact ih fun m hm => h m (List.mem_cons_of_mem _ hm)

theorem lookup_of_lt {k : String} {members : List (String × Json)}
    (h : ∀ m ∈ members, k < m.1) : members.lookup k = none :=
  lookup_eq_none fun m hm hk => String.lt_irrefl k (hk ▸ h m hm)

theorem lookup_insert (k name : String) (value : Json) (members : List (String × Json)) :
    (insert name value members).lookup k =
      if k = name then some value else members.lookup k := by
  induction members with
  | nil => rw [insert, lookup_cons]
  | cons head rest ih =>
    obtain ⟨l, v⟩ := head
    rw [insert]
    split
    · rw [lookup_cons]
    · split
      · next h =>
        subst h
        rw [lookup_cons, lookup_cons]
        by_cases hk : k = name
        · simp [hk]
        · simp [hk]
      · next hne =>
        rw [lookup_cons, lookup_cons, ih]
        by_cases hk : k = l
        · have : k ≠ name := fun h => hne (h ▸ hk)
          simp [hk, hk ▸ this]
        · simp [hk]

theorem lookup_filter (keep : String → Json → Bool) {members : List (String × Json)}
    (h : Ascending members) (k : String) :
    (members.filter fun m => keep m.1 m.2).lookup k =
      (members.lookup k).filter (keep k) := by
  induction members with
  | nil => rfl
  | cons head rest ih =>
    obtain ⟨l, v⟩ := head
    have hhead := (List.pairwise_cons.1 h).1
    have hrest := ih (List.pairwise_cons.1 h).2
    rw [List.filter_cons, lookup_cons]
    by_cases hk : k = l
    · subst hk
      have habsent : (rest.filter fun m => keep m.1 m.2).lookup k = none :=
        lookup_of_lt fun m hm => hhead m (List.mem_filter.1 hm).1
      by_cases hkeep : keep k v = true
      · simp [hkeep, Option.filter]
      · simp [hkeep, habsent, Option.filter]
    · by_cases hkeep : keep l v = true
      · simp [hkeep, lookup_cons, hk, hrest]
      · simp [hkeep, hk, hrest]

theorem eq_of_lookup {a b : List (String × Json)} (ha : Ascending a) (hb : Ascending b)
    (h : ∀ k, a.lookup k = b.lookup k) : a = b := by
  induction a generalizing b with
  | nil =>
    cases b with
    | nil => rfl
    | cons head rest =>
      obtain ⟨k, v⟩ := head
      simpa [lookup_cons] using h k
  | cons head rest ih =>
    obtain ⟨k, v⟩ := head
    cases b with
    | nil => simpa [lookup_cons] using h k
    | cons head' rest' =>
      obtain ⟨k', v'⟩ := head'
      have hhead := (List.pairwise_cons.1 ha).1
      have hhead' := (List.pairwise_cons.1 hb).1
      have hkk : k = k' := by
        refine Decidable.byContradiction fun hne => ?_
        rcases Decidable.em (k < k') with hlt | hnlt
        · have hnone : rest'.lookup k = none :=
            lookup_of_lt fun m hm => String.lt_trans hlt (hhead' m hm)
          simpa [lookup_cons, hne, hnone] using h k
        · have hgt : k' < k := lt_of_not_lt_of_ne hnlt hne
          have hnone : rest.lookup k' = none :=
            lookup_of_lt fun m hm => String.lt_trans hgt (hhead m hm)
          simpa [lookup_cons, Ne.symm hne, hnone] using h k'
      subst hkk
      have hv : v = v' := by simpa [lookup_cons] using h k
      subst hv
      refine congrArg _ (ih (List.pairwise_cons.1 ha).2 (List.pairwise_cons.1 hb).2 fun l => ?_)
      by_cases hl : l = k
      · subst hl
        rw [lookup_of_lt hhead, lookup_of_lt hhead']
      · simpa [lookup_cons, hl] using h l

end Ascending

namespace Object

theorem ext_get? {a b : Object} (h : ∀ k, a.get? k = b.get? k) : a = b := by
  obtain ⟨members, ascending⟩ := a
  obtain ⟨members', ascending'⟩ := b
  have := Ascending.eq_of_lookup ascending ascending' h
  subst this
  rfl

@[simp]
theorem get?_empty (k : String) : empty.get? k = none :=
  rfl

theorem get?_insert (o : Object) (name : String) (value : Json) (k : String) :
    (o.insert name value).get? k = if k = name then some value else o.get? k :=
  Ascending.lookup_insert k name value o.members

theorem get?_filter (o : Object) (keep : String → Json → Bool) (k : String) :
    (o.filter keep).get? k = (o.get? k).filter (keep k) :=
  Ascending.lookup_filter keep o.ascending k

theorem get?_erase (o : Object) (name : String) (k : String) :
    (o.erase name).get? k = if k = name then none else o.get? k := by
  rw [erase, get?_filter]
  by_cases h : k = name
  · cases hget : o.get? k <;> simp [h, Option.filter]
  · cases hget : o.get? k <;> simp [h, Option.filter]

theorem get?_eraseAll (o : Object) (names : List String) (k : String) :
    (o.eraseAll names).get? k = if k ∈ names then none else o.get? k := by
  rw [eraseAll, get?_filter]
  by_cases h : k ∈ names
  · cases hget : o.get? k <;> simp [h, Option.filter]
  · cases hget : o.get? k <;> simp [h, Option.filter]

theorem get?_foldl_insert {members : List (String × Json)} (h : Ascending members)
    (o : Object) (k : String) :
    (members.foldl (fun o m => o.insert m.1 m.2) o).get? k =
      (members.lookup k).or (o.get? k) := by
  induction members generalizing o with
  | nil => rfl
  | cons head rest ih =>
    obtain ⟨name, value⟩ := head
    have hhead := (List.pairwise_cons.1 h).1
    rw [List.foldl_cons, ih (List.pairwise_cons.1 h).2, get?_insert, Ascending.lookup_cons]
    by_cases hk : k = name
    · subst hk
      simp [Ascending.lookup_of_lt hhead]
    · simp [hk]

theorem get?_union (a b : Object) (k : String) :
    (a.union b).get? k = (b.get? k).or (a.get? k) :=
  get?_foldl_insert b.ascending a k

theorem ofList_members (o : Object) : ofList o.members = o :=
  ext_get? fun k => (get?_foldl_insert o.ascending empty k).trans (by simp; rfl)

theorem object?_toJson (o : Object) : o.toJson.object? = some o :=
  congrArg some o.ofList_members

end Object

end OpenIdConnect
