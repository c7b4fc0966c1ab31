import OpenIdConnect.Proofs.Claims.Key
import OpenIdConnect.Proofs.Json.Members
import OpenIdConnect.Proofs.Json.Sameness

/-!
# Requests for single claims, written and read

A request is valid when it is named, asks for no null value, and carries details only of its
own.  Every way to make a request yields a valid one, and the written form of a valid request is
read as all that it says.
-/

namespace OpenIdConnect

namespace Claims

/-- Details that say something, and nothing that has a place elsewhere. -/
structure ProperDetails (details : Object) : Prop where
  nonempty : details.isEmpty = false
  unreserved : ∀ name ∈ Individual.reserved, details.get? name = none

namespace Individual

/-- A request as clients and readers make it. -/
structure Valid (c : Individual) : Prop where
  key : c.key.Valid
  value : ∀ v, c.constraint = .value v → v.isNull = false
  details : ∀ details, c.details = some details → ProperDetails details

/-! ## Making requests -/

theorem valid_ofKey {key : Key} (valid : key.Valid) : (ofKey key).Valid := by
  refine ⟨valid, ?_, ?_⟩
  · intro v impossible
    cases impossible
  · intro details impossible
    cases impossible

theorem named?_eq_some_iff {name : String} {c : Individual} :
    named? name = some c ↔ name ≠ "" ∧ c = ofKey ⟨name, none⟩ := by
  unfold named?
  split
  · next empty =>
      have nameless : name = "" := by simpa using empty
      simp [nameless]
  · next nonempty =>
      have named : name ≠ "" := by simpa using nonempty
      simp [named, eq_comm]

theorem valid_named? {name : String} {c : Individual} (made : named? name = some c) :
    c.Valid := by
  obtain ⟨named, rfl⟩ := named?_eq_some_iff.mp made
  refine valid_ofKey ⟨named, ?_⟩
  intro tag impossible
  cases impossible

namespace Valid

theorem setTag {c : Individual} (valid : c.Valid) {tag : Option LanguageTag}
    (canonical : ∀ t, tag = some t → t.Canonical) : (c.setTag tag).Valid :=
  ⟨⟨valid.key.named, canonical⟩, valid.value, valid.details⟩

theorem setNecessity {c : Individual} (valid : c.Valid) (necessity : Necessity) :
    (c.setNecessity necessity).Valid :=
  ⟨valid.key, valid.value, valid.details⟩

theorem setValue {c : Individual} (valid : c.Valid) (v : Json) : (c.setValue v).Valid := by
  refine ⟨valid.key, ?_, valid.details⟩
  intro w asked
  change (if v.isNull then Constraint.any else .value v) = .value w at asked
  split at asked
  · cases asked
  · next present =>
      cases asked
      simpa using present

theorem setValues {c : Individual} (valid : c.Valid) (vs : List Json) :
    (c.setValues vs).Valid := by
  refine ⟨valid.key, ?_, valid.details⟩
  intro w impossible
  cases impossible

theorem setPurpose {c d : Individual} (valid : c.Valid) {purpose : String}
    (made : c.setPurpose purpose = .ok d) : d.Valid := by
  unfold Individual.setPurpose at made
  split at made
  · cases made
    exact ⟨valid.key, valid.value, valid.details⟩
  · cases made

end Valid

theorem properDetails_of_detailsOf {o details : Object} (kept : detailsOf o = some details)
    (unreserved : ∀ name ∈ reserved, o.get? name = none) : ProperDetails details := by
  unfold detailsOf at kept
  split at kept
  · cases kept
  · next nonempty =>
      cases kept
      exact ⟨by simpa using nonempty, unreserved⟩

namespace Valid

theorem setDetails {c d : Individual} (valid : c.Valid) {o : Object}
    (made : c.setDetails o = .ok d) : d.Valid := by
  unfold Individual.setDetails at made
  split at made
  · cases made
  · next unreserved =>
      cases made
      refine ⟨valid.key, valid.value, ?_⟩
      intro details kept
      refine properDetails_of_detailsOf kept ?_
      intro name isReserved
      cases found : o.get? name with
      | none => rfl
      | some v =>
          have member : name ∈ o.names :=
            List.mem_map.mpr ⟨(name, v), Object.mem_members_iff.mpr found, rfl⟩
          have refused := List.find?_eq_none.mp unreserved name member
          exact absurd (List.contains_iff_mem.mpr isReserved) refused

theorem mergeDetails {a b : Option Object} {details : Object}
    (first : ∀ d, a = some d → ProperDetails d) (second : ∀ d, b = some d → ProperDetails d)
    (merged : Individual.mergeDetails a b = some details) : ProperDetails details := by
  cases b with
  | none =>
      cases a with
      | none => cases merged
      | some d =>
          cases merged
          exact first _ rfl
  | some e =>
      cases a with
      | none =>
          cases merged
          exact second _ rfl
      | some d =>
          cases merged
          obtain ⟨nonempty, unreserved⟩ := second e rfl
          refine ⟨?_, ?_⟩
          · rw [← Bool.not_eq_true, Object.isEmpty_iff] at nonempty ⊢
            intro absent
            apply nonempty
            intro k
            have both := absent k
            rw [Object.get?_union] at both
            exact (Option.or_eq_none_iff.mp both).1
          · intro name isReserved
            rw [Object.get?_union, unreserved name isReserved,
              (first d rfl).unreserved name isReserved]
            rfl

theorem merge {c other : Individual} (valid : c.Valid) (otherValid : other.Valid) :
    (c.merge other).Valid := by
  refine ⟨valid.key, ?_, ?_⟩
  · intro v asked
    change c.constraint.orElse other.constraint = .value v at asked
    cases constraint : other.constraint with
    | any =>
        rw [constraint] at asked
        cases own : c.constraint <;> rw [own] at asked <;> cases asked
        exact valid.value _ own
    | value w =>
        rw [constraint] at asked
        cases own : c.constraint <;> rw [own] at asked <;> cases asked <;>
          exact otherValid.value _ constraint
    | values ws =>
        rw [constraint] at asked
        cases own : c.constraint <;> rw [own] at asked <;> cases asked
  · intro details merged
    exact mergeDetails valid.details otherValid.details merged

end Valid

/-! ## Reading requests -/

theorem unreserved_eraseAll (o : Object) :
    ∀ name ∈ reserved, (o.eraseAll reserved).get? name = none := by
  intro name isReserved
  rw [Object.get?_eraseAll, if_pos isReserved]

theorem value_of_readConstraint {claim : String} {v : Option Json} {vs : Option (List Json)}
    {constraint : Constraint} (read : readConstraint claim v vs = .ok constraint) :
    ∀ w, constraint = .value w → w.isNull = false := by
  intro w asked
  subst asked
  unfold readConstraint at read
  cases present : v.filter fun v => !v.isNull with
  | none => rw [present] at read; cases vs <;> cases read
  | some found =>
      rw [present] at read
      cases vs with
      | some listed => cases read
      | none =>
          cases read
          simpa using (Option.filter_eq_some_iff.mp present).2

/-- What is read is a valid request for the claim that the name of the member writes. -/
theorem valid_of_parse {key : String} {spec : Json} {c : Individual}
    (read : parse key spec = .ok c) : c.Valid ∧ key ≠ "" ∧ c.key = .ofText key := by
  unfold parse at read
  obtain ⟨named, read⟩ := Outcome.refused_eq_ok.mp read
  have nonempty : key ≠ "" := by simpa using named
  have keyValid := Key.valid_ofText nonempty
  cases spec with
  | null =>
      cases read
      exact ⟨valid_ofKey keyValid, nonempty, rfl⟩
  | object members =>
      obtain ⟨necessity, _, read⟩ := Outcome.bind_eq_ok.mp read
      obtain ⟨purpose, _, read⟩ := Outcome.bind_eq_ok.mp read
      obtain ⟨values, _, read⟩ := Outcome.bind_eq_ok.mp read
      obtain ⟨constraint, constraintRead, done⟩ := Outcome.bind_eq_ok.mp read
      cases done
      refine ⟨⟨keyValid, value_of_readConstraint constraintRead, ?_⟩, nonempty, rfl⟩
      intro details kept
      exact properDetails_of_detailsOf kept (unreserved_eraseAll _)
  | bool b => cases read
  | number n => cases read
  | string s => cases read
  | array items => cases read

/-! ## Reading what is written -/

theorem get?_details {c : Individual} (valid : c.Valid) {name : String}
    (isReserved : name ∈ reserved) : (c.details.getD .empty).get? name = none := by
  cases details : c.details with
  | none => rfl
  | some d => exact (valid.details d details).unreserved name isReserved

theorem detailsOf_details {c : Individual} (valid : c.Valid) :
    detailsOf (c.details.getD .empty) = c.details := by
  cases details : c.details with
  | none => rfl
  | some d =>
      have nonempty := (valid.details d details).nonempty
      simp [detailsOf, nonempty]

/-- What a request says in the members with a meaning of their own. -/
def said (c : Individual) (name : String) : Option Json :=
  if name = "essential" then if c.isEssential then some (.bool true) else none
  else if name = "value" then c.value?
  else if name = "values" then c.values?.map .array
  else if name = "purpose" then c.purpose.map .string
  else none

theorem get?_members (c : Individual) (k : String) :
    c.members.get? k = ((c.details.getD .empty).get? k).or (c.said k) := by
  have start : ((if c.isEssential then Object.empty.insert "essential" (.bool true) else .empty)
      : Object).get? k = if k = "essential" ∧ c.isEssential then some (.bool true) else none := by
    cases c.isEssential with
    | false => simp
    | true => simp [Object.get?_insert]
  unfold members
  rw [Object.get?_union, Object.get?_insert?, Object.get?_insert?, Object.get?_insert?, start]
  congr 1
  unfold said
  by_cases essential : k = "essential"
  · simp [essential]
  · by_cases value : k = "value"
    · simp [value]
    · by_cases values : k = "values"
      · simp [values]
      · simp [essential, value, values]

theorem get?_members_reserved {c : Individual} (valid : c.Valid) {name : String}
    (isReserved : name ∈ reserved) : c.members.get? name = c.said name := by
  rw [get?_members, get?_details valid isReserved]
  rfl

/-- Beside the members with a meaning of their own, the details are written. -/
theorem eraseAll_members {c : Individual} (valid : c.Valid) :
    c.members.eraseAll reserved = c.details.getD .empty := by
  refine Object.ext_get? fun k => ?_
  rw [Object.get?_eraseAll]
  split
  · next isReserved => exact (get?_details valid isReserved).symm
  · next other =>
      have silent : c.said k = none := by
        simp only [reserved, List.mem_cons, List.not_mem_nil, or_false, not_or] at other
        simp [said, other]
      rw [get?_members, silent, Option.or_none]

theorem readNecessity_said (c : Individual) (claim : String) :
    readNecessity claim (c.said "essential") = .ok c.necessity := by
  cases necessity : c.necessity with
  | voluntary => simp [said, isEssential, necessity, readNecessity]
  | essential => simp [said, isEssential, necessity, readNecessity]

theorem readPurpose_said (c : Individual) (claim : String) :
    readPurpose claim (c.said "purpose") = .ok c.purpose := by
  cases purpose : c.purpose <;> simp [said, purpose, readPurpose]

theorem readValues_said (c : Individual) (claim : String) :
    readValues claim (c.said "values") = .ok c.values? := by
  cases values : c.values? <;> simp [said, values, readValues]

theorem readConstraint_said {c : Individual} (valid : c.Valid) (claim : String) :
    readConstraint claim (c.said "value") c.values? = .ok c.constraint := by
  cases constraint : c.constraint with
  | any => simp [said, value?, values?, constraint, readConstraint]
  | value v =>
      have present : v.isNull = false := valid.value v constraint
      simp [said, value?, values?, constraint, readConstraint, Option.filter, present]
  | values vs => simp [said, value?, values?, constraint, readConstraint]

theorem eq_ofKey_of_isPlain {c : Individual} (plain : c.isPlain = true) : c = ofKey c.key := by
  obtain ⟨key, necessity, constraint, purpose, details⟩ := c
  unfold isPlain at plain
  cases necessity <;> cases constraint <;> cases purpose <;> cases details <;>
    first | rfl | cases plain

/-- The written form of a request is read as the request, under the key that is given. -/
theorem parse_spec {c : Individual} (valid : c.Valid) {key : String} (named : key ≠ "") :
    parse key c.spec = .ok { c with key := .ofText key } := by
  have nonempty : key.isEmpty = false := by simpa using named
  unfold parse
  rw [nonempty]
  simp only [Bool.false_eq_true, if_false]
  unfold spec
  cases plain : c.isPlain with
  | true =>
      rw [eq_ofKey_of_isPlain plain]
      rfl
  | false =>
      simp only [Bool.false_eq_true, if_false, Object.toJson, Object.ofList_members]
      rw [get?_members_reserved valid (by decide), get?_members_reserved valid (by decide),
        get?_members_reserved valid (by decide), get?_members_reserved valid (by decide),
        readNecessity_said, readPurpose_said, readValues_said]
      change (readConstraint key (c.said "value") c.values? >>= _) = _
      rw [readConstraint_said valid, eraseAll_members valid]
      change Except.ok _ = Except.ok _
      rw [detailsOf_details valid]
      rfl

end Individual

end Claims

end OpenIdConnect
