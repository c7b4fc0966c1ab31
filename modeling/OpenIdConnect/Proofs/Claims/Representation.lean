import OpenIdConnect.Proofs.Claims.Reachable

/-!
# What claims requests hold

However a claims request was made, none of its selections is empty, no claim is asked for twice
in one place, and every request for a claim keeps its parts apart.  So the written form of
verified claims never lacks the claims.
-/

namespace OpenIdConnect

namespace Claims

/-! ## Parts of selections -/

namespace Selection.Reachable

variable {s t : Selection}

theorem claims_insertNames? {names : List String} (each : ∀ c ∈ s.claims, c.Reachable)
    (made : s.insertNames? names = some t) : ∀ c ∈ t.claims, c.Reachable := by
  induction names generalizing s with
  | nil =>
      cases made
      exact each
  | cons name names ih =>
      rw [insertNames?] at made
      split at made
      · exact ih each made
      · obtain ⟨c, named, made⟩ := Option.bind_eq_some_iff.mp made
        exact ih (forall_claims_insert each (.named named)) made

theorem claims_mergeOne {c : Individual} (each : ∀ d ∈ s.claims, d.Reachable)
    (here : c.Reachable) : ∀ d ∈ (s.mergeOne c).claims, d.Reachable := by
  rw [mergeOne]
  cases found : s.get? c.key with
  | none => exact forall_claims_insert each here
  | some d => exact forall_claims_insert each (.merge (each d (mem_of_get? found)) here)

theorem claims_foldl_mergeOne {claims : List Individual} (each : ∀ c ∈ s.claims, c.Reachable)
    (others : ∀ c ∈ claims, c.Reachable) :
    ∀ c ∈ (claims.foldl mergeOne s).claims, c.Reachable := by
  induction claims generalizing s with
  | nil => exact each
  | cons c claims ih =>
      obtain ⟨here, rest⟩ := List.forall_mem_cons.mp others
      exact ih (claims_mergeOne each here) rest

theorem claims_parseMembers {members : List (String × Json)}
    (each : ∀ c ∈ s.claims, c.Reachable) (read : parseMembers s members = .ok t) :
    ∀ c ∈ t.claims, c.Reachable := by
  induction members generalizing s with
  | nil =>
      cases read
      exact each
  | cons m members ih =>
      rw [parseMembers] at read
      split at read
      · exact ih each read
      · obtain ⟨c, parsed, read⟩ := Outcome.bind_eq_ok.mp read
        exact ih (forall_claims_insert each (.parse parsed)) read

/-- What a selection asks for can be made by itself, and used to make others. -/
theorem claims (reachable : s.Reachable) : ∀ c ∈ s.claims, c.Reachable := by
  have nothing : ∀ c ∈ Selection.empty.claims, c.Reachable := by
    intro c impossible
    cases impossible
  induction reachable with
  | empty => exact nothing
  | insert _ claim each => exact forall_claims_insert each claim
  | erase key _ each => exact fun c member => each c (List.mem_of_mem_filter member)
  | insertNames _ made each => exact claims_insertNames? each made
  | merge _ _ first second => exact claims_foldl_mergeOne first second
  | ofScope made => exact claims_insertNames? nothing made
  | parse made => exact claims_parseMembers nothing made

end Selection.Reachable

/-! ## Requests for verified claims -/

namespace Verified

/-- The requests for verified claims that can be made. -/
inductive Reachable : Verified → Prop
  | new (verification : Object) {claims : Selection} (selection : claims.Reachable) :
      Reachable ⟨verification, claims⟩
  | setVerification {v : Verified} (verification : Object) (before : Reachable v) :
      Reachable (v.setVerification verification)
  | setClaims {v : Verified} {claims : Selection} (before : Reachable v)
      (selection : claims.Reachable) : Reachable (v.setClaims claims)
  | insert {v : Verified} {c : Individual} (before : Reachable v) (claim : c.Reachable) :
      Reachable (v.insert c)
  | erase {v : Verified} (key : Key) (before : Reachable v) : Reachable (v.erase key)
  | parse {o : Object} {v : Verified} (made : Verified.parse o = .ok v) : Reachable v
  | parseList {value : Json} {vs : List Verified} {v : Verified}
      (made : Verified.parseList value = .ok vs) (member : v ∈ vs) : Reachable v

theorem reachable_of_parse {o : Object} {v : Verified} (read : Verified.parse o = .ok v) :
    v.claims.Reachable := by
  obtain ⟨⟨p, selected⟩, _⟩ := exists_selection_of_parse read
  exact .parse selected

/-- Whatever was done to a request for verified claims, its claims are a selection as made. -/
theorem Reachable.selection {v : Verified} (reachable : v.Reachable) : v.claims.Reachable := by
  induction reachable with
  | new _ selection => exact selection
  | setVerification _ _ before => exact before
  | setClaims _ selection _ => exact selection
  | insert _ claim before => exact .insert before claim
  | erase key _ before => exact .erase key before
  | parse made => exact reachable_of_parse made
  | parseList made member =>
      obtain ⟨o, parsed⟩ := exists_parse_of_parseList made _ member
      exact reachable_of_parse parsed

end Verified

/-! ## Well-formed requests for claims -/

namespace Individual

/--
A merged request asks for the value, or for the values, that the second request asks for, and for
those of the first one only where the second has neither.
-/
theorem asked_merge (c d : Individual) :
    ((c.merge d).value?, (c.merge d).values?) =
      if d.value?.isSome || d.values?.isSome then (d.value?, d.values?)
      else (c.value?, c.values?) := by
  obtain ⟨_, _, own, _, _⟩ := c
  obtain ⟨_, _, other, _, _⟩ := d
  cases other <;> cases own <;> rfl

/-- A request for a claim whose parts do not contradict each other. -/
structure WellFormed (c : Individual) : Prop where
  named : c.key.name ≠ ""
  exclusive : c.value? = none ∨ c.values? = none
  value : c.value? ≠ some .null
  details : ∀ details, c.details = some details → details.isEmpty = false ∧
    ∀ name ∈ ["essential", "value", "values", "purpose"], details.get? name = none

theorem Valid.wellFormed {c : Individual} (valid : c.Valid) : c.WellFormed where
  named := valid.key.named
  exclusive := by
    rw [value?, values?]
    cases c.constraint with
    | any => exact .inl rfl
    | value v => exact .inr rfl
    | values vs => exact .inl rfl
  value := by
    intro asked
    rw [value?] at asked
    cases constraint : c.constraint with
    | any =>
        rw [constraint] at asked
        cases asked
    | value v =>
        rw [constraint] at asked
        cases asked
        cases valid.value _ constraint
    | values vs =>
        rw [constraint] at asked
        cases asked
  details := by
    intro details kept
    obtain ⟨nonempty, unreserved⟩ := valid.details details kept
    exact ⟨nonempty, unreserved⟩

end Individual

namespace Selection

/-- A selection that asks for something, and once for each claim. -/
structure WellFormed (s : Selection) : Prop where
  asks : s.isEmpty = false
  distinct : s.keys.Nodup
  claims : ∀ c ∈ s.claims, c.WellFormed

theorem Valid.wellFormed {s : Selection} (valid : s.Valid) (asks : s.isEmpty = false) :
    s.WellFormed :=
  ⟨asks, valid.distinct, fun c member => (valid.claims c member).wellFormed⟩

theorem isEmpty_toObject {s : Selection} (asks : s.isEmpty = false) :
    s.toObject.isEmpty = false := by
  obtain ⟨claims⟩ := s
  cases claims with
  | nil => cases asks
  | cons c rest => exact Object.isEmpty_ofList (List.cons_ne_nil _ _)

end Selection

namespace Verified

/-- A request for verified claims that asks for something, also when it is written. -/
structure WellFormed (v : Verified) : Prop where
  claims : v.claims.WellFormed
  written : v.members.get? "claims" = some v.claims.toObject.toJson ∧
    v.claims.toObject.isEmpty = false
  toObject : v.toObject = .ok v.members

theorem Valid.wellFormed {v : Verified} (valid : v.Valid) : v.WellFormed := by
  refine ⟨valid.claims.wellFormed valid.asks, ⟨?_, Selection.isEmpty_toObject valid.asks⟩, ?_⟩
  · exact get?_members_claims v
  · rw [Verified.toObject, valid.asks]
    rfl

end Verified

namespace Side

/-- A side whose selections are well-formed, the plain one where it is there. -/
structure WellFormed (s : Side) : Prop where
  plain : ∀ claims, s.plain = some claims → claims.WellFormed
  verified : ∀ v ∈ s.verified, v.WellFormed

theorem Valid.wellFormed {s : Side} (valid : s.Valid) : s.WellFormed := by
  constructor
  · intro claims present
    obtain ⟨claimsValid, asks⟩ := valid.plain claims present
    exact claimsValid.wellFormed asks
  · intro v member
    exact (valid.verified v member).wellFormed

end Side

/-! ## Well-formed claims requests -/

namespace Request

/-- However a claims request was made, both of its sides are well-formed. -/
theorem wellFormed_of_reachable {r : Request} (reachable : r.Reachable) :
    r.idToken.WellFormed ∧ r.userinfo.WellFormed :=
  ⟨reachable.valid.idToken.wellFormed, reachable.valid.userinfo.wellFormed⟩

/-- The request for a verified name, started from one for nothing. -/
def verifiedName : Verified :=
  (Verified.mk Verified.anyVerification .empty).insert (.ofKey ⟨"name", none⟩)

/-- The request for an e-mail address in the ID token and for a verified name beside it. -/
def emailAndVerifiedName : Request :=
  ⟨⟨some (Selection.empty.insert (.ofKey ⟨"email", none⟩)), [verifiedName]⟩, .empty⟩

theorem reachable_emailAndVerifiedName : emailAndVerifiedName.Reachable := by
  have email : Individual.named? "email" = some (.ofKey ⟨"email", none⟩) := rfl
  have name : Individual.named? "name" = some (.ofKey ⟨"name", none⟩) := rfl
  have plain := Reachable.setIdToken .empty (.insert .empty (.named email))
  have verified : verifiedName.Reachable := .insert (.new _ .empty) (.named name)
  exact .addIdTokenVerified plain verified.selection rfl

theorem verifiedName_written :
    verifiedName.toObject = .ok verifiedName.members ∧
      verifiedName.claims.toObject.isEmpty = false := by
  obtain ⟨idToken, _⟩ := wellFormed_of_reachable reachable_emailAndVerifiedName
  have wellFormed := idToken.verified verifiedName (List.mem_singleton_self _)
  exact ⟨wellFormed.toObject, wellFormed.written.2⟩

end Request

end Claims

end OpenIdConnect
