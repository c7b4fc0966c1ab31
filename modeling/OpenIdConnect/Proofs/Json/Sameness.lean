import OpenIdConnect.Json.Object

/-!
# Sameness of documents

Equality of documents compares numbers by value, so it is wider than identity.  It is reflexive,
symmetric and transitive all the same, and objects that are the same stay so when the same members
are put over theirs.
-/

namespace OpenIdConnect

theorem Decimal.Binary64.sameValue_self (x : Decimal.Binary64) : x.sameValue x = true := by
  simp [sameValue]

instance : ReflBEq Number where
  rfl {n} := by
    cases n with
    | integer value inRange =>
        change (value == value) = true
        exact beq_self_eq_true value
    | float x => exact x.sameValue_self

theorem Decimal.Binary64.sameValue_comm (x y : Binary64) : x.sameValue y = y.sameValue x := by
  unfold sameValue
  rw [Bool.beq_comm (a := x.rank), Bool.beq_comm (a := x.negative)]
  cases same : y.rank == x.rank with
  | false => rfl
  | true => rw [eq_of_beq same]

theorem Decimal.Binary64.sameValue_trans {x y z : Binary64} (first : x.sameValue y = true)
    (second : y.sameValue z = true) : x.sameValue z = true := by
  simp only [sameValue, Bool.and_eq_true, Bool.or_eq_true, beq_iff_eq] at first second ⊢
  grind

instance : PartialEquivBEq Number where
  symm {m n} same := by
    cases m with
    | integer a inRange =>
        cases n with
        | integer b inRange' =>
            change (b == a) = true
            exact BEq.symm (α := Int) same
        | float y => cases same
    | float x =>
        cases n with
        | integer b inRange' => cases same
        | float y => exact (y.sameValue_comm x).trans same
  trans {l m n} first second := by
    cases l with
    | integer a inRange =>
        cases m with
        | float y => cases first
        | integer b inRange' =>
            cases n with
            | float z => cases second
            | integer c inRange'' =>
                exact BEq.trans (α := Int) first second
    | float x =>
        cases m with
        | integer b inRange' => cases first
        | float y =>
            cases n with
            | integer c inRange'' => cases second
            | float z => exact Decimal.Binary64.sameValue_trans first second

namespace Json

mutual

theorem same_self : (v : Json) → same v v = true
  | .null => rfl
  | .bool b => by simp [same]
  | .number n => by simp [same]
  | .string s => by simp [same]
  | .array items => by
      rw [same]
      exact sameItems_self items
  | .object members => by
      rw [same]
      exact sameMembers_self members

theorem sameItems_self : (items : List Json) → sameItems items items = true
  | [] => rfl
  | v :: items => by
      rw [sameItems, same_self v, sameItems_self items]
      rfl

theorem sameMembers_self : (members : List (String × Json)) → sameMembers members members = true
  | [] => rfl
  | (name, v) :: members => by
      rw [sameMembers, same_self v, sameMembers_self members]
      simp

end

instance : ReflBEq Json where
  rfl {v} := same_self v

mutual

theorem same_comm : (v w : Json) → same v w = same w v
  | .null, w => by cases w <;> rfl
  | .bool b, w => by
      cases w with
      | bool c => exact Bool.beq_comm
      | _ => rfl
  | .number m, w => by
      cases w with
      | number n =>
          change (m == n) = (n == m)
          exact Bool.eq_iff_iff.mpr ⟨BEq.symm, BEq.symm⟩
      | _ => rfl
  | .string s, w => by
      cases w with
      | string t => exact Bool.beq_comm
      | _ => rfl
  | .array items, w => by
      cases w with
      | array others =>
          rw [same, same]
          exact sameItems_comm items others
      | _ => rfl
  | .object members, w => by
      cases w with
      | object others =>
          rw [same, same]
          exact sameMembers_comm members others
      | _ => rfl

theorem sameItems_comm : (items others : List Json) → sameItems items others = sameItems others items
  | [], others => by cases others <;> rfl
  | v :: items, others => by
      cases others with
      | nil => rfl
      | cons w others => rw [sameItems, sameItems, same_comm v w, sameItems_comm items others]

theorem sameMembers_comm : (members others : List (String × Json)) →
    sameMembers members others = sameMembers others members
  | [], others => by cases others <;> rfl
  | (name, v) :: members, others => by
      cases others with
      | nil => rfl
      | cons head others =>
          obtain ⟨name', w⟩ := head
          rw [sameMembers, sameMembers, same_comm v w, sameMembers_comm members others,
            Bool.beq_comm (a := name)]

end

mutual

theorem same_trans : (u v w : Json) → same u v = true → same v w = true → same u w = true
  | .null, v, w, first, second => by
      cases v with
      | null => exact second
      | _ => cases first
  | .bool b, v, w, first, second => by
      cases v with
      | bool c =>
          rw [eq_of_beq (show (b == c) = true from first)]
          exact second
      | _ => cases first
  | .number l, v, w, first, second => by
      cases v with
      | number m =>
          cases w with
          | number n => exact BEq.trans (α := Number) first second
          | _ => cases second
      | _ => cases first
  | .string s, v, w, first, second => by
      cases v with
      | string t =>
          rw [eq_of_beq (show (s == t) = true from first)]
          exact second
      | _ => cases first
  | .array items, v, w, first, second => by
      cases v with
      | array middle =>
          cases w with
          | array others =>
              rw [same] at first second ⊢
              exact sameItems_trans items middle others first second
          | _ => cases second
      | _ => cases first
  | .object members, v, w, first, second => by
      cases v with
      | object middle =>
          cases w with
          | object others =>
              rw [same] at first second ⊢
              exact sameMembers_trans members middle others first second
          | _ => cases second
      | _ => cases first

theorem sameItems_trans : (items middle others : List Json) → sameItems items middle = true →
    sameItems middle others = true → sameItems items others = true
  | [], middle, others, first, second => by
      cases middle with
      | nil => exact second
      | cons v middle => cases first
  | u :: items, middle, others, first, second => by
      cases middle with
      | nil => cases first
      | cons v middle =>
          cases others with
          | nil => cases second
          | cons w others =>
              rw [sameItems, Bool.and_eq_true] at first second ⊢
              exact ⟨same_trans u v w first.1 second.1,
                sameItems_trans items middle others first.2 second.2⟩

theorem sameMembers_trans : (members middle others : List (String × Json)) →
    sameMembers members middle = true → sameMembers middle others = true →
      sameMembers members others = true
  | [], middle, others, first, second => by
      cases middle with
      | nil => exact second
      | cons head middle => cases first
  | (name, u) :: members, middle, others, first, second => by
      cases middle with
      | nil => cases first
      | cons head middle =>
          obtain ⟨name', v⟩ := head
          cases others with
          | nil => cases second
          | cons head others =>
              obtain ⟨name'', w⟩ := head
              rw [sameMembers, Bool.and_eq_true, Bool.and_eq_true] at first second ⊢
              exact ⟨⟨BEq.trans first.1.1 second.1.1, same_trans u v w first.1.2 second.1.2⟩,
                sameMembers_trans members middle others first.2 second.2⟩

end

instance : PartialEquivBEq Json where
  symm {v w} same := (same_comm w v).trans same
  trans {u v w} first second := same_trans u v w first second

end Json

instance : ReflBEq Object where
  rfl {o} := Json.sameMembers_self o.members

instance : PartialEquivBEq Object where
  symm {a b} same := (Json.sameMembers_comm b.members a.members).trans same
  trans {a b c} first second := Json.sameMembers_trans a.members b.members c.members first second

/-! ## Operations on objects -/

theorem Ascending.same_insert {members others : List (String × Json)} {v w : Json}
    (same : Json.sameMembers members others = true) (value : (v == w) = true) (name : String) :
    Json.sameMembers (insert name v members) (insert name w others) = true := by
  have head : (name == name && Json.same v w) = true := by
    rw [beq_self_eq_true]
    exact value
  induction members generalizing others with
  | nil =>
      cases others with
      | nil => exact Bool.and_eq_true_iff.mpr ⟨head, rfl⟩
      | cons other others => cases same
  | cons member members ih =>
      cases others with
      | nil => cases same
      | cons other others =>
          obtain ⟨k, x⟩ := member
          obtain ⟨l, y⟩ := other
          obtain ⟨here, rest⟩ := Bool.and_eq_true_iff.mp same
          cases eq_of_beq (Bool.and_eq_true_iff.mp here).1
          rw [insert, insert]
          split
          · exact Bool.and_eq_true_iff.mpr ⟨head, same⟩
          · split
            · exact Bool.and_eq_true_iff.mpr ⟨head, rest⟩
            · exact Bool.and_eq_true_iff.mpr ⟨here, ih rest⟩

theorem Object.same_foldl_insert {members others : List (String × Json)}
    (same : Json.sameMembers members others = true) {o p : Object} (start : (o == p) = true) :
    (members.foldl (fun o m => o.insert m.1 m.2) o ==
      others.foldl (fun o m => o.insert m.1 m.2) p) = true := by
  induction members generalizing others o p with
  | nil =>
      cases others with
      | nil => exact start
      | cons other others => cases same
  | cons member members ih =>
      cases others with
      | nil => cases same
      | cons other others =>
          obtain ⟨k, x⟩ := member
          obtain ⟨l, y⟩ := other
          obtain ⟨here, rest⟩ := Bool.and_eq_true_iff.mp same
          obtain ⟨names, value⟩ := Bool.and_eq_true_iff.mp here
          cases eq_of_beq names
          exact ih rest (Ascending.same_insert start value k)

/-- The same members over the same members make the same object. -/
theorem Object.same_union {a b a' b' : Object} (first : (a == a') = true)
    (second : (b == b') = true) : (a.union b == a'.union b') = true :=
  same_foldl_insert second first

/-! ## Optional values -/

theorem rel_of_same {α : Type} [BEq α] {a b : Option α} (same : (a == b) = true) :
    Option.Rel (fun x y => (x == y) = true) a b := by
  cases a with
  | none =>
      cases b with
      | none => exact .none
      | some y => cases same
  | some x =>
      cases b with
      | none => cases same
      | some y => exact .some same

/-- Optional values are the same when both are absent, or their values are the same. -/
instance partialEquivBEqOption {α : Type} [BEq α] [PartialEquivBEq α] :
    PartialEquivBEq (Option α) where
  symm {a b} same := by
    cases rel_of_same same with
    | none => rfl
    | some same => exact BEq.symm (α := α) same
  trans {a b c} first second := by
    cases rel_of_same first with
    | none => exact second
    | some first =>
        cases rel_of_same second with
        | some second => exact BEq.trans (α := α) first second

end OpenIdConnect
