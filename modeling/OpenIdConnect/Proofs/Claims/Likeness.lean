import Mathlib.Data.Option.Defs
import OpenIdConnect.Proofs.Claims.Grammar

/-!
# Members without a meaning

The grammar of claims requests looks only at some members.  Two values that agree on these, level
by level, are both read or both refused, whatever else stands in them.
-/

namespace OpenIdConnect

namespace Claims

/-! ## Alike up to members without a meaning -/

/-- One value, or two objects that are alike. -/
def Within (alike : Object → Object → Prop) (v w : Json) : Prop :=
  v = w ∨ ∃ o p, v.object? = some o ∧ w.object? = some p ∧ alike o p

/-- Specifications that agree on the members with a meaning of their own. -/
def SpecifiedAlike : Json → Json → Prop :=
  Within fun o p => ∀ name ∈ Individual.reserved, o.get? name = p.get? name

/-- The same claims, specified alike. -/
def ClaimsAlike (o p : Object) : Prop :=
  ∀ name, name ≠ Selection.verifiedMember → Option.Rel SpecifiedAlike (o.get? name) (p.get? name)

/-- Some verification in both or in neither, and claims alike. -/
structure VerifiedAlike (o p : Object) : Prop where
  verification :
    Option.Rel (Within fun _ _ => True) (o.get? "verification") (p.get? "verification")
  claims : Option.Rel (Within ClaimsAlike) (o.get? "claims") (p.get? "claims")

/-- Single requests for verified claims that are alike, or lists of such requests. -/
inductive AreVerifiedAlike : Json → Json → Prop where
  | one {v w : Json} (alike : Within VerifiedAlike v w) : AreVerifiedAlike v w
  | list {vs ws : List Json} (alike : List.Forall₂ (Within VerifiedAlike) vs ws) :
      AreVerifiedAlike (.array vs) (.array ws)

/-- Plain and verified claims alike. -/
structure SideAlike (o p : Object) : Prop where
  claims : ClaimsAlike o p
  verified : Option.Rel AreVerifiedAlike (o.get? Selection.verifiedMember)
    (p.get? Selection.verifiedMember)

/-- Claims requests that differ at most in members without a meaning. -/
structure RequestAlike (o p : Object) : Prop where
  idToken : Option.Rel (Within SideAlike) (o.get? "id_token") (p.get? "id_token")
  userinfo : Option.Rel (Within SideAlike) (o.get? "userinfo") (p.get? "userinfo")

/-! ## Alike values are both in the grammar or neither -/

theorem Within.object_iff {alike : Object → Object → Prop} {P : Object → Prop} {v w : Json}
    (within : Within alike v w) (congr : ∀ o p, alike o p → (P o ↔ P p)) :
    (∃ o, v.object? = some o ∧ P o) ↔ ∃ p, w.object? = some p ∧ P p := by
  rcases within with rfl | ⟨o, p, first, second, related⟩
  · exact Iff.rfl
  · rw [first, second]
    simpa using congr o p related

section Lookups

variable {r : Json → Json → Prop} {P : Json → Prop} {a b : Option Json}

theorem forall_found_iff (related : Option.Rel r a b) (congr : ∀ v w, r v w → (P v ↔ P w)) :
    (∀ v, a = some v → P v) ↔ ∀ w, b = some w → P w := by
  cases related with
  | none => exact Iff.rfl
  | some pair => simpa using congr _ _ pair

theorem exists_found_iff (related : Option.Rel r a b) (congr : ∀ v w, r v w → (P v ↔ P w)) :
    (∃ v, a = some v ∧ P v) ↔ ∃ w, b = some w ∧ P w := by
  cases related with
  | none => simp
  | some pair => simpa using congr _ _ pair

end Lookups

theorem forall_mem_iff {r : Json → Json → Prop} {P : Json → Prop} {vs ws : List Json}
    (related : List.Forall₂ r vs ws) (congr : ∀ v w, r v w → (P v ↔ P w)) :
    (∀ v ∈ vs, P v) ↔ ∀ w ∈ ws, P w := by
  induction related with
  | nil => simp
  | cons pair others ih => rw [List.forall_mem_cons, List.forall_mem_cons, congr _ _ pair, ih]

theorem specifies_of_agree {o p : Object} (specifies : Individual.Specifies o)
    (agree : ∀ name ∈ Individual.reserved, o.get? name = p.get? name) :
    Individual.Specifies p := by
  obtain ⟨boolean, listed, text, single⟩ := specifies
  rw [agree "essential" (by decide)] at boolean
  rw [agree "values" (by decide)] at listed single
  rw [agree "purpose" (by decide)] at text
  rw [agree "value" (by decide)] at single
  exact ⟨boolean, listed, text, single⟩

theorem specifies_congr {o p : Object}
    (agree : ∀ name ∈ Individual.reserved, o.get? name = p.get? name) :
    Individual.Specifies o ↔ Individual.Specifies p := by
  constructor
  · intro specifies
    exact specifies_of_agree specifies agree
  · intro specifies
    exact specifies_of_agree specifies fun name reserved => (agree name reserved).symm

theorem specified?_of_object? {v : Json} {o : Object} (object : v.object? = some o) :
    Individual.specified? v = some o := by
  obtain ⟨members, rfl, same⟩ := Json.object?_eq_some_iff.mp object
  exact congrArg some same

theorem specified_congr {v w : Json} (alike : SpecifiedAlike v w) :
    (∃ p, Individual.specified? v = some p ∧ Individual.Specifies p) ↔
      ∃ p, Individual.specified? w = some p ∧ Individual.Specifies p := by
  rcases alike with rfl | ⟨o, p, first, second, agree⟩
  · exact Iff.rfl
  · rw [specified?_of_object? first, specified?_of_object? second]
    simpa using specifies_congr agree

theorem isClaims_congr {o p : Object} (alike : ClaimsAlike o p) : IsClaims o ↔ IsClaims p := by
  have each : ∀ name, name ≠ Selection.verifiedMember →
      ((∀ spec, o.get? name = some spec →
          name ≠ "" ∧ ∃ p, Individual.specified? spec = some p ∧ Individual.Specifies p) ↔
        ∀ spec, p.get? name = some spec →
          name ≠ "" ∧ ∃ p, Individual.specified? spec = some p ∧ Individual.Specifies p) :=
    fun name other => forall_found_iff (alike name other) fun v w related =>
      and_congr_right fun _ => specified_congr related
  constructor
  · intro isClaims name spec present other
    exact (each name other).mp (fun v found => isClaims name v found other) spec present
  · intro isClaims name spec present other
    exact (each name other).mpr (fun v found => isClaims name v found other) spec present

theorem asksClaim_congr {o p : Object} (alike : ClaimsAlike o p) : AsksClaim o ↔ AsksClaim p := by
  have each : ∀ name, name ≠ Selection.verifiedMember →
      ((∃ spec, o.get? name = some spec ∧ True) ↔ ∃ spec, p.get? name = some spec ∧ True) :=
    fun name other => exists_found_iff (alike name other) fun _ _ _ => Iff.rfl
  constructor
  · rintro ⟨name, spec, present, other⟩
    obtain ⟨spec', present', _⟩ := (each name other).mp ⟨spec, present, trivial⟩
    exact ⟨name, spec', present', other⟩
  · rintro ⟨name, spec, present, other⟩
    obtain ⟨spec', present', _⟩ := (each name other).mpr ⟨spec, present, trivial⟩
    exact ⟨name, spec', present', other⟩

theorem isVerified_congr {o p : Object} (alike : VerifiedAlike o p) :
    IsVerified o ↔ IsVerified p := by
  have verification := exists_found_iff alike.verification fun v w related =>
    related.object_iff (P := fun _ => True) fun _ _ _ => Iff.rfl
  have claims := exists_found_iff alike.claims fun v w related =>
    related.object_iff (P := fun p => IsClaims p ∧ AsksClaim p) fun _ _ both =>
      and_congr (isClaims_congr both) (asksClaim_congr both)
  simp only [and_true] at verification
  constructor
  · rintro ⟨verificationIs, claimsAre⟩
    exact ⟨verification.mp verificationIs, claims.mp claimsAre⟩
  · rintro ⟨verificationIs, claimsAre⟩
    exact ⟨verification.mpr verificationIs, claims.mpr claimsAre⟩

theorem areVerified_iff_of_object? {v : Json} {o : Object} (object : v.object? = some o) :
    AreVerified v ↔ IsVerified o := by
  constructor
  · intro verified
    cases verified with
    | one again verified =>
        rw [object] at again
        cases again
        exact verified
    | list _ _ => cases object
  · exact .one object

theorem areVerified_array_iff {items : List Json} :
    AreVerified (.array items) ↔
      items ≠ [] ∧ ∀ v ∈ items, ∃ o, v.object? = some o ∧ IsVerified o := by
  constructor
  · intro verified
    cases verified with
    | one object _ => cases object
    | list nonempty each => exact ⟨nonempty, each⟩
  · rintro ⟨nonempty, each⟩
    exact .list nonempty each

theorem areVerified_congr {v w : Json} (alike : AreVerifiedAlike v w) :
    AreVerified v ↔ AreVerified w := by
  cases alike with
  | one related =>
      rcases related with rfl | ⟨o, p, first, second, both⟩
      · exact Iff.rfl
      · rw [areVerified_iff_of_object? first, areVerified_iff_of_object? second,
          isVerified_congr both]
  | list related =>
      rw [areVerified_array_iff, areVerified_array_iff]
      refine and_congr ?_ (forall_mem_iff related fun v w both =>
        both.object_iff fun _ _ => isVerified_congr)
      rw [Ne, Ne, ← List.length_eq_zero_iff, ← List.length_eq_zero_iff, related.length_eq]

theorem isSide_congr {o p : Object} (alike : SideAlike o p) : IsSide o ↔ IsSide p := by
  have claims := isClaims_congr alike.claims
  have verified := forall_found_iff alike.verified fun _ _ => areVerified_congr
  constructor
  · rintro ⟨isClaims, areVerified⟩
    exact ⟨claims.mp isClaims, verified.mp areVerified⟩
  · rintro ⟨isClaims, areVerified⟩
    exact ⟨claims.mpr isClaims, verified.mpr areVerified⟩

theorem isRequest_congr {o p : Object} (alike : RequestAlike o p) : IsRequest o ↔ IsRequest p := by
  have idToken := forall_found_iff alike.idToken fun _ _ related =>
    related.object_iff fun _ _ => isSide_congr
  have userinfo := forall_found_iff alike.userinfo fun _ _ related =>
    related.object_iff fun _ _ => isSide_congr
  constructor
  · rintro ⟨idTokenIs, userinfoIs⟩
    exact ⟨idToken.mp idTokenIs, userinfo.mp userinfoIs⟩
  · rintro ⟨idTokenIs, userinfoIs⟩
    exact ⟨idToken.mpr idTokenIs, userinfo.mpr userinfoIs⟩

/-! ## Acceptance -/

namespace Request

theorem denotes_unique {v w w' : Json} (first : Denotes v w) (second : Denotes v w') : w = w' := by
  have same := (unwrap_bound_eq_ok_iff.mpr first).symm.trans (unwrap_bound_eq_ok_iff.mpr second)
  exact Except.ok.inj same

/--
A value is read as a claims request exactly when it denotes an object of the grammar, and members
without a meaning never decide whether it is.
-/
theorem exists_parse_iff_grammar :
    (∀ v, (∃ r, parse v = .ok r) ↔
      ∃ w, Denotes v w ∧ ∃ p, w.object? = some p ∧ IsRequest p) ∧
    ∀ v w v' w', Denotes v v' → Denotes w w' → Within RequestAlike v' w' →
      ((∃ r, parse v = .ok r) ↔ ∃ r, parse w = .ok r) := by
  refine ⟨fun v => exists_parse_iff, ?_⟩
  intro v w v' w' first second alike
  have denoted : ∀ {v v' : Json}, Denotes v v' →
      ((∃ r, parse v = .ok r) ↔ ∃ p, v'.object? = some p ∧ IsRequest p) := by
    intro v v' denotes
    rw [exists_parse_iff]
    constructor
    · rintro ⟨u, again, isRequest⟩
      rw [denotes_unique denotes again]
      exact isRequest
    · intro isRequest
      exact ⟨v', denotes, isRequest⟩
  rw [denoted first, denoted second]
  exact alike.object_iff fun _ _ => isRequest_congr

/-- The specification of an essential claim, with or without a reason. -/
def essentialFor (reason : Option Json) : Object :=
  (Object.empty.insert "essential" (.bool true)).insert? "reason" reason

/-- An essential claim requested in the ID token, beside a version or not. -/
def emailRequested (version reason : Option Json) : Object :=
  (Object.empty.insert "id_token"
    (Object.empty.insert "email" (essentialFor reason).toJson).toJson).insert? "version" version

theorem essentialFor_alike (reason reason' : Option Json) :
    SpecifiedAlike (essentialFor reason).toJson (essentialFor reason').toJson := by
  refine .inr ⟨_, _, Object.object?_toJson _, Object.object?_toJson _, ?_⟩
  intro name isReserved
  have other : name ≠ "reason" := by
    rintro rfl
    revert isReserved
    decide
  unfold essentialFor
  rw [Object.get?_insert?, if_neg other, Object.get?_insert?, if_neg other]

theorem emailOnly_alike (reason reason' : Option Json) :
    SideAlike (Object.empty.insert "email" (essentialFor reason).toJson)
      (Object.empty.insert "email" (essentialFor reason').toJson) := by
  refine ⟨?_, ?_⟩
  · intro name _
    rw [Object.get?_insert, Object.get?_insert]
    split
    · exact .some (essentialFor_alike reason reason')
    · exact .none
  · rw [Object.get?_insert, if_neg (by decide), Object.get?_insert, if_neg (by decide)]
    exact .none

theorem get?_emailRequested (version reason : Option Json) {name : String}
    (other : name ≠ "version") :
    (emailRequested version reason).get? name =
      if name = "id_token" then
        some (Object.empty.insert "email" (essentialFor reason).toJson).toJson
      else none := by
  unfold emailRequested
  rw [Object.get?_insert?, if_neg other, Object.get?_insert]
  rfl

theorem emailRequested_alike (version reason version' reason' : Option Json) :
    RequestAlike (emailRequested version reason) (emailRequested version' reason') := by
  refine ⟨?_, ?_⟩
  · rw [get?_emailRequested _ _ (by decide), get?_emailRequested _ _ (by decide)]
    have side := emailOnly_alike reason reason'
    exact .some (.inr ⟨_, _, Object.object?_toJson _, Object.object?_toJson _, side⟩)
  · rw [get?_emailRequested _ _ (by decide), get?_emailRequested _ _ (by decide)]
    exact .none

theorem exists_parse_emailRequested :
    ∃ r, parse (emailRequested (some (.bool true)) (some .null)).toJson = .ok r := by
  have plain : ∀ version reason, Denotes (emailRequested version reason).toJson
      (emailRequested version reason).toJson := fun _ _ => .value fun s impossible => by
    cases impossible
  have alone : ∃ r, parse (emailRequested none none).toJson = .ok r := ⟨_, rfl⟩
  refine (exists_parse_iff_grammar.2 _ _ _ _ (plain _ _) (plain _ _) (.inr ?_)).mp alone
  exact ⟨_, _, Object.object?_toJson _, Object.object?_toJson _, emailRequested_alike _ _ _ _⟩

end Request

end Claims

end OpenIdConnect
