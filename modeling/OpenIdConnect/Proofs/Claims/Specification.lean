import OpenIdConnect.Proofs.Claims.Individual
import OpenIdConnect.Proofs.Outcome

/-!
# What a member specifies

A request for one claim is written as null or as an object, four of whose members have a meaning
of their own.  What is read is exactly what stands there, and it is read from everything in which
these members have their proper form.
-/

namespace OpenIdConnect

namespace Claims

namespace Individual

/-- The members that specify a request: null has none. -/
def specified? : Json → Option Object
  | .null => some .empty
  | v => v.object?

/-- The members with a meaning of their own have their form, and at most one asks for values. -/
structure Specifies (o : Object) : Prop where
  boolean : ∀ v, o.get? "essential" = some v → ∃ b, v = .bool b
  values : ∀ v, o.get? "values" = some v → ∃ items, v = .array items
  purpose : ∀ v, o.get? "purpose" = some v → ∃ s, v = .string s
  single : ∀ v w, o.get? "values" = some v → o.get? "value" = some w → w = .null

/-- A request says exactly what members specify; a null value asks for nothing. -/
structure Carries (c : Individual) (o : Object) : Prop where
  essential : o.get? "essential" = some (.bool true) ↔ c.isEssential = true
  boolean : ∀ v, o.get? "essential" = some v → ∃ b, v = .bool b
  value : (o.get? "value").filter (fun v => !v.isNull) = c.value?
  values : o.get? "values" = c.values?.map .array
  purpose : o.get? "purpose" = c.purpose.map .string
  details : ∀ name,
    (c.details.getD .empty).get? name = if name ∈ reserved then none else o.get? name
  nonempty : ∀ details, c.details = some details → details.isEmpty = false

/-! ## Single members -/

theorem readNecessity_eq_ok_iff {claim : String} {v : Option Json} {n : Necessity} :
    readNecessity claim v = .ok n ↔
      (v = some (.bool true) ↔ n = .essential) ∧ ∀ w, v = some w → ∃ b, w = .bool b := by
  rcases v with _ | _ | (_ | _) | _ | _ | _ | _ <;> cases n <;> simp [readNecessity]

theorem readPurpose_eq_ok_iff {claim : String} {v : Option Json} {purpose : Option String} :
    readPurpose claim v = .ok purpose ↔ v = purpose.map .string := by
  rcases v with _ | _ | _ | _ | _ | _ | _ <;> cases purpose <;> simp [readPurpose]

theorem readValues_eq_ok_iff {claim : String} {v : Option Json} {values : Option (List Json)} :
    readValues claim v = .ok values ↔ v = values.map .array := by
  rcases v with _ | _ | _ | _ | _ | _ | _ <;> cases values <;> simp [readValues]

theorem readConstraint_eq_ok_iff {claim : String} {v : Option Json} {vs : Option (List Json)}
    {c : Individual} :
    readConstraint claim v vs = .ok c.constraint ↔
      v.filter (fun v => !v.isNull) = c.value? ∧ vs = c.values? := by
  unfold readConstraint values? value?
  cases c.constraint <;> cases v.filter fun v => !v.isNull <;> cases vs <;> simp

theorem detailsOf_eq_iff {o : Object} {details : Option Object} :
    detailsOf o = details ↔
      (∀ name, (details.getD .empty).get? name = o.get? name) ∧
        ∀ d, details = some d → d.isEmpty = false := by
  unfold detailsOf
  constructor
  · rintro rfl
    split
    · next nothing =>
        refine ⟨fun name => ?_, fun d impossible => by cases impossible⟩
        rw [Object.isEmpty_iff.mp nothing name]
        rfl
    · next something =>
        refine ⟨fun name => rfl, fun d kept => ?_⟩
        cases kept
        simpa using something
  · rintro ⟨agree, nonempty⟩
    have whole : details.getD .empty = o := Object.ext_get? agree
    cases details with
    | none =>
        rw [← whole]
        rfl
    | some d =>
        change d = o at whole
        rw [← whole, nonempty d rfl]
        rfl

/-! ## Whole specifications -/

/-- The request for a claim that members specify. -/
def readSpecified (key : String) (o : Object) : Except Fault Individual := do
  let necessity ← readNecessity key (o.get? "essential")
  let purpose ← readPurpose key (o.get? "purpose")
  let values ← readValues key (o.get? "values")
  let constraint ← readConstraint key (o.get? "value") values
  return ⟨.ofText key, necessity, constraint, purpose, detailsOf (o.eraseAll reserved)⟩

/-- Null is read like the object without members. -/
theorem parse_eq_ok_iff_readSpecified {key : String} {spec : Json} {c : Individual} :
    parse key spec = .ok c ↔
      key ≠ "" ∧ ∃ o, specified? spec = some o ∧ readSpecified key o = .ok c := by
  unfold parse
  rw [Outcome.refused_eq_ok, String.isEmpty_iff]
  refine and_congr_right fun _ => ?_
  cases spec with
  | null =>
      constructor
      · intro read
        exact ⟨.empty, rfl, read⟩
      · rintro ⟨o, same, read⟩
        cases same
        exact read
  | object members =>
      constructor
      · intro read
        exact ⟨.ofList members, rfl, read⟩
      · rintro ⟨o, same, read⟩
        cases same
        exact read
  | _ => simp [specified?, Json.object?]

/-- The four members are read one after the other. -/
theorem readSpecified_eq_ok {key : String} {o : Object} {c : Individual} :
    readSpecified key o = .ok c ↔
      ∃ necessity purpose values constraint,
        readNecessity key (o.get? "essential") = .ok necessity ∧
        readPurpose key (o.get? "purpose") = .ok purpose ∧
        readValues key (o.get? "values") = .ok values ∧
        readConstraint key (o.get? "value") values = .ok constraint ∧
        c = ⟨.ofText key, necessity, constraint, purpose, detailsOf (o.eraseAll reserved)⟩ := by
  constructor
  · intro read
    obtain ⟨necessity, necessityRead, read⟩ := Outcome.bind_eq_ok.mp read
    obtain ⟨purpose, purposeRead, read⟩ := Outcome.bind_eq_ok.mp read
    obtain ⟨values, valuesRead, read⟩ := Outcome.bind_eq_ok.mp read
    obtain ⟨constraint, constraintRead, made⟩ := Outcome.bind_eq_ok.mp read
    cases made
    exact ⟨_, _, _, _, necessityRead, purposeRead, valuesRead, constraintRead, rfl⟩
  · rintro ⟨necessity, purpose, values, constraint, necessityRead, purposeRead, valuesRead,
      constraintRead, rfl⟩
    unfold readSpecified
    rw [necessityRead, purposeRead, valuesRead]
    change (readConstraint key (o.get? "value") values >>= _) = _
    rw [constraintRead]
    rfl

theorem readSpecified_eq_ok_iff {key : String} {o : Object} {c : Individual} :
    readSpecified key o = .ok c ↔ c.key = .ofText key ∧ c.Carries o := by
  have others : ∀ name, (o.eraseAll reserved).get? name =
      if name ∈ reserved then none else o.get? name := Object.get?_eraseAll o reserved
  rw [readSpecified_eq_ok]
  constructor
  · rintro ⟨necessity, purpose, values, constraint, necessityRead, purposeRead, valuesRead,
      constraintRead, made⟩
    have details : detailsOf (o.eraseAll reserved) = c.details := by rw [made]
    rw [show constraint = c.constraint by rw [made], readConstraint_eq_ok_iff] at constraintRead
    rw [constraintRead.2, readValues_eq_ok_iff] at valuesRead
    rw [show purpose = c.purpose by rw [made], readPurpose_eq_ok_iff] at purposeRead
    rw [show necessity = c.necessity by rw [made], readNecessity_eq_ok_iff] at necessityRead
    rw [detailsOf_eq_iff] at details
    refine ⟨by rw [made], ?_⟩
    exact {
      essential := necessityRead.1.trans beq_iff_eq.symm
      boolean := necessityRead.2
      value := constraintRead.1
      values := valuesRead
      purpose := purposeRead
      details := fun name => (details.1 name).trans (others name)
      nonempty := details.2 }
  · rintro ⟨named, carries⟩
    have details : detailsOf (o.eraseAll reserved) = c.details :=
      detailsOf_eq_iff.mpr
        ⟨fun name => (carries.details name).trans (others name).symm, carries.nonempty⟩
    refine ⟨c.necessity, c.purpose, c.values?, c.constraint, ?_, ?_, ?_, ?_, ?_⟩
    · exact readNecessity_eq_ok_iff.mpr ⟨carries.essential.trans beq_iff_eq, carries.boolean⟩
    · exact readPurpose_eq_ok_iff.mpr carries.purpose
    · exact readValues_eq_ok_iff.mpr carries.values
    · exact readConstraint_eq_ok_iff.mpr ⟨carries.value, rfl⟩
    · rw [details, ← named]

/-- A request is read exactly when it says what the member specifies of the claim it names. -/
theorem parse_eq_ok_iff {key : String} {spec : Json} {c : Individual} :
    parse key spec = .ok c ↔
      key ≠ "" ∧ ∃ o, specified? spec = some o ∧ c.key = .ofText key ∧ c.Carries o := by
  rw [parse_eq_ok_iff_readSpecified]
  refine and_congr_right fun _ => exists_congr fun o => and_congr_right fun _ => ?_
  exact readSpecified_eq_ok_iff

/-! ## What is accepted -/

theorem exists_readNecessity (claim : String) {v : Option Json}
    (boolean : ∀ w, v = some w → ∃ b, w = .bool b) : ∃ n, readNecessity claim v = .ok n := by
  cases v with
  | none => exact ⟨.voluntary, rfl⟩
  | some w =>
      obtain ⟨_ | _, rfl⟩ := boolean w rfl
      · exact ⟨.voluntary, rfl⟩
      · exact ⟨.essential, rfl⟩

theorem exists_readPurpose (claim : String) {v : Option Json}
    (text : ∀ w, v = some w → ∃ s, w = .string s) : ∃ p, readPurpose claim v = .ok p := by
  cases v with
  | none => exact ⟨none, rfl⟩
  | some w =>
      obtain ⟨s, rfl⟩ := text w rfl
      exact ⟨some s, rfl⟩

theorem exists_readValues (claim : String) {v : Option Json}
    (listed : ∀ w, v = some w → ∃ items, w = .array items) :
    ∃ vs, readValues claim v = .ok vs := by
  cases v with
  | none => exact ⟨none, rfl⟩
  | some w =>
      obtain ⟨items, rfl⟩ := listed w rfl
      exact ⟨some items, rfl⟩

theorem exists_readConstraint (claim : String) {v : Option Json} {vs : Option (List Json)}
    (single : ∀ w items, vs = some items → v = some w → w = .null) :
    ∃ c, readConstraint claim v vs = .ok c := by
  unfold readConstraint
  cases vs with
  | none =>
      cases v.filter fun v => !v.isNull with
      | none => exact ⟨.any, rfl⟩
      | some w => exact ⟨.value w, rfl⟩
  | some items =>
      have nothing : v.filter (fun v => !v.isNull) = none := by
        rw [Option.filter_eq_none_iff]
        intro w present
        rw [single w items rfl present]
        decide
      rw [nothing]
      exact ⟨.values items, rfl⟩

/-- A request is read from members exactly when these have their form. -/
theorem exists_readSpecified_iff {key : String} {o : Object} :
    (∃ c, readSpecified key o = .ok c) ↔ Specifies o := by
  constructor
  · rintro ⟨c, read⟩
    obtain ⟨_, carries⟩ := readSpecified_eq_ok_iff.mp read
    refine ⟨carries.boolean, ?_, ?_, ?_⟩
    · intro v present
      rw [carries.values] at present
      obtain ⟨items, _, same⟩ := Option.map_eq_some_iff.mp present
      exact ⟨items, same.symm⟩
    · intro v present
      rw [carries.purpose] at present
      obtain ⟨s, _, same⟩ := Option.map_eq_some_iff.mp present
      exact ⟨s, same.symm⟩
    · intro v w listed present
      rw [carries.values] at listed
      obtain ⟨items, found, _⟩ := Option.map_eq_some_iff.mp listed
      have single : c.value? = none := by
        unfold values? at found
        unfold value?
        split at found
        · next asked => rw [asked]
        · cases found
      have asked := carries.value
      rw [single, present, Option.filter_eq_none_iff] at asked
      simpa [Json.isNull_iff] using asked w rfl
  · intro specifies
    obtain ⟨necessity, necessityRead⟩ := exists_readNecessity key specifies.boolean
    obtain ⟨purpose, purposeRead⟩ := exists_readPurpose key specifies.purpose
    obtain ⟨values, valuesRead⟩ := exists_readValues key specifies.values
    have single : ∀ w items, values = some items → o.get? "value" = some w → w = .null := by
      rintro w items rfl present
      exact specifies.single _ w (readValues_eq_ok_iff.mp valuesRead) present
    obtain ⟨constraint, constraintRead⟩ := exists_readConstraint key single
    exact ⟨_, readSpecified_eq_ok.mpr ⟨necessity, purpose, values, constraint, necessityRead,
      purposeRead, valuesRead, constraintRead, rfl⟩⟩

/-- A member is read exactly when it has a name and specifies a request. -/
theorem exists_parse_iff {key : String} {spec : Json} :
    (∃ c, parse key spec = .ok c) ↔
      key ≠ "" ∧ ∃ o, specified? spec = some o ∧ Specifies o := by
  constructor
  · rintro ⟨c, read⟩
    obtain ⟨named, o, specified, said⟩ := parse_eq_ok_iff_readSpecified.mp read
    exact ⟨named, o, specified, exists_readSpecified_iff.mp ⟨c, said⟩⟩
  · rintro ⟨named, o, specified, specifies⟩
    obtain ⟨c, said⟩ := exists_readSpecified_iff.mpr specifies
    exact ⟨c, parse_eq_ok_iff_readSpecified.mpr ⟨named, o, specified, said⟩⟩

end Individual

end Claims

end OpenIdConnect
