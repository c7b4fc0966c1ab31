import OpenIdConnect.Json.Lookup
import OpenIdConnect.Proofs.Json.Sameness

/-!
# Documents without the signs of zeros

The sign of a zero is all that sameness of documents passes over: two documents are the same exactly
when they are equal once each negative zero is replaced by the positive one.  So sameness of objects
can be shown lookup by lookup.
-/

namespace OpenIdConnect

/-- A floating-point number, of the two zeros the positive one. -/
def Decimal.Binary64.unsigned (x : Binary64) : Binary64 :=
  if x.rank = 0 then zero false else x

theorem Decimal.Binary64.sameValue_iff {x y : Binary64} :
    x.sameValue y = true ↔ x.unsigned = y.unsigned := by
  obtain ⟨negative, rank, finite⟩ := x
  obtain ⟨negative', rank', finite'⟩ := y
  simp only [sameValue, unsigned, zero, Bool.and_eq_true, Bool.or_eq_true, beq_iff_eq]
  split <;> split <;> grind

/-- A number, of the two zeros among the floating-point numbers the positive one. -/
def Number.unsigned : Number → Number
  | .integer value inRange => .integer value inRange
  | .float x => .float x.unsigned

theorem Number.same_iff {m n : Number} : (m == n) = true ↔ m.unsigned = n.unsigned := by
  cases m with
  | integer a inRange =>
      cases n with
      | integer b inRange' =>
          change (a == b) = true ↔ _
          simp [unsigned]
      | float y => exact iff_of_false Bool.false_ne_true (by simp [unsigned])
  | float x =>
      cases n with
      | integer b inRange' => exact iff_of_false Bool.false_ne_true (by simp [unsigned])
      | float y => exact Decimal.Binary64.sameValue_iff.trans (by simp [unsigned])

namespace Json

mutual

/-- A document with the positive zero in the place of each negative one. -/
def unsigned : Json → Json
  | .number n => .number n.unsigned
  | .array items => .array (unsignedItems items)
  | .object members => .object (unsignedMembers members)
  | .null => .null
  | .bool b => .bool b
  | .string s => .string s

/-- Each item with the positive zero in the place of each negative one. -/
def unsignedItems : List Json → List Json
  | [] => []
  | v :: items => v.unsigned :: unsignedItems items

/-- Each member with the positive zero in the place of each negative one. -/
def unsignedMembers : List (String × Json) → List (String × Json)
  | [] => []
  | (name, v) :: members => (name, v.unsigned) :: unsignedMembers members

end

mutual

theorem same_iff_unsigned : (v w : Json) → (same v w = true ↔ v.unsigned = w.unsigned)
  | .null, w => by cases w <;> simp [same, unsigned]
  | .bool b, w => by cases w <;> simp [same, unsigned]
  | .number m, w => by cases w <;> simp [same, unsigned, Number.same_iff]
  | .string s, w => by cases w <;> simp [same, unsigned]
  | .array items, w => by
      cases w with
      | array others =>
          rw [same, sameItems_iff_unsigned items others, unsigned, unsigned, Json.array.injEq]
      | _ => simp [same, unsigned]
  | .object members, w => by
      cases w with
      | object others =>
          rw [same, sameMembers_iff_unsigned members others, unsigned, unsigned,
            Json.object.injEq]
      | _ => simp [same, unsigned]

theorem sameItems_iff_unsigned : (items others : List Json) →
    (sameItems items others = true ↔ unsignedItems items = unsignedItems others)
  | [], others => by cases others <;> simp [sameItems, unsignedItems]
  | v :: items, others => by
      cases others with
      | nil => simp [sameItems, unsignedItems]
      | cons w others =>
          rw [sameItems, Bool.and_eq_true, same_iff_unsigned v w,
            sameItems_iff_unsigned items others, unsignedItems, unsignedItems, List.cons.injEq]

theorem sameMembers_iff_unsigned : (members others : List (String × Json)) →
    (sameMembers members others = true ↔ unsignedMembers members = unsignedMembers others)
  | [], others => by cases others <;> simp [sameMembers, unsignedMembers]
  | (name, v) :: members, others => by
      cases others with
      | nil => simp [sameMembers, unsignedMembers]
      | cons head others =>
          obtain ⟨name', w⟩ := head
          rw [sameMembers, Bool.and_eq_true, Bool.and_eq_true, beq_iff_eq, same_iff_unsigned v w,
            sameMembers_iff_unsigned members others, unsignedMembers, unsignedMembers,
            List.cons.injEq, Prod.mk.injEq]

end

theorem unsignedMembers_eq_map (members : List (String × Json)) :
    unsignedMembers members = members.map fun m => (m.1, m.2.unsigned) := by
  induction members with
  | nil => rfl
  | cons m members ih =>
      obtain ⟨name, v⟩ := m
      rw [unsignedMembers, ih, List.map_cons]

end Json

namespace Object

/-- An object with the positive zero in the place of each negative one. -/
def unsigned (o : Object) : Object where
  members := Json.unsignedMembers o.members
  ascending := by
    rw [Json.unsignedMembers_eq_map]
    exact List.pairwise_map.mpr o.ascending

theorem same_iff_unsigned {a b : Object} : (a == b) = true ↔ a.unsigned = b.unsigned := by
  rw [Object.mk.injEq]
  exact Json.sameMembers_iff_unsigned a.members b.members

theorem get?_unsigned (o : Object) (k : String) :
    o.unsigned.get? k = (o.get? k).map Json.unsigned := by
  change (Json.unsignedMembers o.members).lookup k = _
  rw [Json.unsignedMembers_eq_map]
  change _ = (o.members.lookup k).map Json.unsigned
  induction o.members with
  | nil => rfl
  | cons m members ih =>
      obtain ⟨name, v⟩ := m
      rw [List.map_cons, Ascending.lookup_cons, Ascending.lookup_cons, ih]
      split <;> rfl

/-- Objects are the same exactly when every lookup answers the same. -/
theorem same_iff_get? {a b : Object} : (a == b) = true ↔ ∀ k, (a.get? k == b.get? k) = true := by
  have lookups (k : String) : (a.get? k == b.get? k) = true ↔
      a.unsigned.get? k = b.unsigned.get? k := by
    rw [get?_unsigned, get?_unsigned]
    cases a.get? k with
    | none => cases b.get? k <;> simp
    | some v =>
        cases b.get? k with
        | none => simp
        | some w => exact (Json.same_iff_unsigned v w).trans (by simp)
  rw [same_iff_unsigned]
  constructor
  · intro equal k
    rw [lookups, equal]
  · intro each
    exact ext_get? fun k => (lookups k).mp (each k)

end Object

end OpenIdConnect
