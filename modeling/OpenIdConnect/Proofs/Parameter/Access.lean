import OpenIdConnect.Parameter.Basic
import OpenIdConnect.Proofs.Json.Members
import OpenIdConnect.Proofs.Outcome

/-!
# Members through parameters

What is required of an object, or may be absent from it, is read through a parameter; what is
written through one changes no other member.
-/

namespace OpenIdConnect

namespace Outcome

theorem inContext_eq_ok {α : Type} {context : Context} {result : Except Fault α} {a : α} :
    inContext context result = .ok a ↔ result = .ok a :=
  mapError_eq_ok

end Outcome

namespace Object

variable {α β : Type} {o : Object} {p : Parameter α}

theorem require_eq_ok_iff {a : α} : o.require p = .ok a ↔ o.read? p = some (.ok a) := by
  unfold require read?
  cases o.get? p.name with
  | none => simp
  | some value => simp [Outcome.inContext_eq_ok]

theorem optional_eq_ok_iff {value : Option α} :
    o.optional p = .ok value ↔ o.read? p = value.map .ok := by
  unfold optional read?
  cases o.get? p.name with
  | none => cases value <;> simp
  | some json =>
      rw [Outcome.map_eq_ok]
      cases value <;> simp [Outcome.inContext_eq_ok]

/-- A member that has to be there can be read when its value is one of those that are read. -/
theorem exists_read?_iff {P : Json → Prop} (reads : ∀ v, (∃ a, p.read v = .ok a) ↔ P v) :
    (∃ a, o.read? p = some (.ok a)) ↔ ∃ v, o.get? p.name = some v ∧ P v := by
  unfold read?
  cases o.get? p.name <;> simp [reads]

/-- A member that may be absent can be read when its value can, if it is there. -/
theorem exists_read?_option_iff {P : Json → Prop} (reads : ∀ v, (∃ a, p.read v = .ok a) ↔ P v) :
    (∃ value : Option α, o.read? p = value.map .ok) ↔ ∀ v, o.get? p.name = some v → P v := by
  unfold read?
  cases found : o.get? p.name with
  | none =>
      constructor
      · rintro _ value ⟨⟩
      · intro _
        exact ⟨none, rfl⟩
  | some json =>
      constructor
      · rintro ⟨value, read⟩ _ ⟨⟩
        cases value with
        | none => cases read
        | some a => exact (reads json).mp ⟨a, Option.some.inj read⟩
      · intro readable
        obtain ⟨a, read⟩ := (reads json).mpr (readable json rfl)
        exact ⟨some a, congrArg some read⟩

/-- A member is read as what its value is read as. -/
theorem read?_of_get? {a : α} {v : Json} (present : o.get? p.name = some v)
    (read : p.read v = .ok a) : o.read? p = some (.ok a) := by
  unfold read?
  rw [present]
  exact congrArg some read

/-- A member whose value is read from one value only has this value. -/
theorem get?_of_read? {a : α} {v : Json} (read : o.read? p = some (.ok a))
    (only : ∀ w, p.read w = .ok a → w = v) : o.get? p.name = some v := by
  obtain ⟨w, present, result⟩ := Option.map_eq_some_iff.mp read
  rw [present, only w result]

/-- Where each value is read from one JSON value only, reading a member is finding it. -/
theorem read?_eq_iff_get?_eq {written : α → Json}
    (only : ∀ v a, p.read v = .ok a ↔ v = written a) {value : Option α} :
    o.read? p = value.map .ok ↔ o.get? p.name = value.map written := by
  rw [read?]
  cases o.get? p.name with
  | none => cases value <;> simp
  | some v => cases value <;> simp [only]

theorem isSome_read? (o : Object) (p : Parameter α) :
    (o.read? p).isSome = (o.get? p.name).isSome :=
  Option.isSome_map

theorem get?_write (o : Object) (p : Parameter α) (a : α) (k : String) :
    (o.write p a).get? k = if k = p.name then some (p.write a) else o.get? k :=
  get?_insert o p.name (p.write a) k

theorem read?_write_self (o : Object) (p : Parameter α) (a : α) :
    (o.write p a).read? p = some (p.read (p.write a)) := by
  unfold read?
  rw [get?_write, if_pos rfl]
  rfl

theorem read?_write_of_ne {q : Parameter β} (other : q.name ≠ p.name) (o : Object) (a : α) :
    (o.write p a).read? q = o.read? q := by
  unfold read?
  rw [get?_write, if_neg other]

theorem write?_eq (o : Object) (p : Parameter α) (value : Option α) :
    o.write? p value = o.insert? p.name (value.map p.write) := by
  cases value <;> rfl

theorem get?_write? (o : Object) (p : Parameter α) (value : Option α) (k : String) :
    (o.write? p value).get? k =
      if k = p.name then (value.map p.write).or (o.get? k) else o.get? k := by
  rw [write?_eq, get?_insert?]

end Object

end OpenIdConnect
