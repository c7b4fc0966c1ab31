import OpenIdConnect.Proofs.Claims.Reading
import OpenIdConnect.Proofs.Claims.Specification
import OpenIdConnect.Proofs.Claims.Unwrapping

/-!
# The grammar of claims requests

Which values are read as claims requests: a predicate for each level of their nesting, and that
each reader accepts exactly what its predicate describes.
-/

namespace OpenIdConnect

namespace Claims

/-! ## The grammar -/

/-- Every member but the one for verified claims requests a claim. -/
def IsClaims (o : Object) : Prop :=
  ∀ name spec, o.get? name = some spec → name ≠ Selection.verifiedMember →
    name ≠ "" ∧ ∃ p, Individual.specified? spec = some p ∧ Individual.Specifies p

/-- Some member requests a claim. -/
def AsksClaim (o : Object) : Prop :=
  ∃ name spec, o.get? name = some spec ∧ name ≠ Selection.verifiedMember

/-- A verification and claims, of which there is at least one. -/
structure IsVerified (o : Object) : Prop where
  verification : ∃ v, o.get? "verification" = some v ∧ ∃ p, v.object? = some p
  claims : ∃ v, o.get? "claims" = some v ∧ ∃ p, v.object? = some p ∧ IsClaims p ∧ AsksClaim p

/-- One request for verified claims, or a list of them that is not empty. -/
inductive AreVerified : Json → Prop where
  | one {v : Json} {o : Object} (object : v.object? = some o) (verified : IsVerified o) :
      AreVerified v
  | list {items : List Json} (nonempty : items ≠ [])
      (each : ∀ v ∈ items, ∃ o, v.object? = some o ∧ IsVerified o) : AreVerified (.array items)

/-- Plain claims, and verified claims if there are any. -/
structure IsSide (o : Object) : Prop where
  claims : IsClaims o
  verified : ∀ v, o.get? Selection.verifiedMember = some v → AreVerified v

/-- Each side that is there is one. -/
structure IsRequest (o : Object) : Prop where
  idToken : ∀ v, o.get? "id_token" = some v → ∃ p, v.object? = some p ∧ IsSide p
  userinfo : ∀ v, o.get? "userinfo" = some v → ∃ p, v.object? = some p ∧ IsSide p

/-! ## Acceptance -/

namespace Selection

theorem exists_parse_iff {o : Object} : (∃ s, parse o = .ok s) ↔ IsClaims o := by
  have each : (∃ s, parse o = .ok s) ↔
      ∀ m ∈ claimMembers o.members, ∃ c, Individual.parse m.1 m.2 = .ok c := by
    rw [← Outcome.exists_map_eq_ok_iff]
    constructor
    · rintro ⟨s, read⟩
      obtain ⟨claims, agree, _⟩ := parseMembers_eq_ok.mp read
      exact ⟨claims, agree⟩
    · rintro ⟨claims, agree⟩
      exact ⟨_, parseMembers_eq_ok.mpr ⟨claims, agree, rfl⟩⟩
  rw [each]
  constructor
  · intro read name spec present other
    apply Individual.exists_parse_iff.mp
    exact read (name, spec) (mem_claimMembers_iff.mpr ⟨present, other⟩)
  · rintro isClaims ⟨name, spec⟩ member
    obtain ⟨present, other⟩ := mem_claimMembers_iff.mp member
    exact Individual.exists_parse_iff.mpr (isClaims name spec present other)

theorem isEmpty_foldl_insert (claims : List Individual) (s : Selection) :
    (claims.foldl insert s).isEmpty = (s.isEmpty && claims.isEmpty) := by
  induction claims generalizing s with
  | nil => exact (Bool.and_true _).symm
  | cons c claims ih =>
      rw [List.foldl_cons, ih, isEmpty_insert, List.isEmpty_cons, Bool.and_false, Bool.false_and]

theorem isEmpty_of_parse {o : Object} {s : Selection} (read : parse o = .ok s) :
    s.isEmpty = false ↔ AsksClaim o := by
  obtain ⟨claims, agree, rfl⟩ := parseMembers_eq_ok.mp read
  have same : claims.isEmpty = (claimMembers o.members).isEmpty := by
    simpa using (congrArg List.isEmpty agree).symm
  rw [isEmpty_foldl_insert]
  change (true && claims.isEmpty) = false ↔ _
  rw [Bool.true_and, same, List.isEmpty_eq_false_iff_exists_mem]
  constructor
  · rintro ⟨⟨name, spec⟩, member⟩
    exact ⟨name, spec, mem_claimMembers_iff.mp member⟩
  · rintro ⟨name, spec, asks⟩
    exact ⟨(name, spec), mem_claimMembers_iff.mpr asks⟩

end Selection

namespace Verified

theorem readVerification_eq_ok_iff {v : Option Json} {p : Object} :
    readVerification v = .ok p ↔ ∃ w, v = some w ∧ w.object? = some p := by
  rcases v with _ | _ | _ | _ | _ | _ | _ <;> simp [readVerification, Json.object?]

/-- Claims are asked for only by an object with a member for one. -/
theorem readClaims_eq_ok_iff {v : Option Json} {s : Selection} (asks : s.isEmpty = false) :
    readClaims v = .ok s ↔
      ∃ w, v = some w ∧ ∃ p, w.object? = some p ∧ Selection.parse p = .ok s := by
  have other : s ≠ .empty := by
    rintro rfl
    cases asks
  rcases v with _ | _ | _ | _ | _ | _ | _ <;>
    simp [readClaims, Json.object?, Ne.symm other]

/-- An object is read as a request when it has a verification and claims that ask for something. -/
theorem parse_eq_ok_iff {o : Object} {v : Verified} :
    parse o = .ok v ↔
      readVerification (o.get? "verification") = .ok v.verification ∧
        readClaims (o.get? "claims") = .ok v.claims ∧ v.claims.isEmpty = false := by
  unfold parse
  rw [Outcome.refused_eq_ok]
  constructor
  · rintro ⟨_, read⟩
    obtain ⟨verification, verificationRead, read⟩ := Outcome.bind_eq_ok.mp read
    obtain ⟨claims, claimsRead, read⟩ := Outcome.bind_eq_ok.mp read
    obtain ⟨asked, made⟩ := Outcome.refused_eq_ok.mp read
    cases made
    exact ⟨verificationRead, claimsRead, by simpa using asked⟩
  · rintro ⟨verificationRead, claimsRead, asks⟩
    refine ⟨?_, Outcome.bind_eq_ok.mpr ⟨_, verificationRead, ?_⟩⟩
    · rw [Object.isEmpty_iff]
      intro absent
      rw [absent] at verificationRead
      cases verificationRead
    · refine Outcome.bind_eq_ok.mpr ⟨_, claimsRead, ?_⟩
      exact Outcome.refused_eq_ok.mpr ⟨by simp [asks], rfl⟩

theorem exists_parse_iff {o : Object} : (∃ v, parse o = .ok v) ↔ IsVerified o := by
  constructor
  · rintro ⟨v, read⟩
    obtain ⟨verificationRead, claimsRead, asks⟩ := parse_eq_ok_iff.mp read
    obtain ⟨w, there, object⟩ := readVerification_eq_ok_iff.mp verificationRead
    obtain ⟨u, thereToo, p, objectToo, selected⟩ := (readClaims_eq_ok_iff asks).mp claimsRead
    refine ⟨⟨w, there, _, object⟩, u, thereToo, p, objectToo, ?_, ?_⟩
    · exact Selection.exists_parse_iff.mp ⟨_, selected⟩
    · exact (Selection.isEmpty_of_parse selected).mp asks
  · rintro ⟨⟨w, there, verification, object⟩, u, thereToo, p, objectToo, isClaims, asksClaim⟩
    obtain ⟨claims, selected⟩ := Selection.exists_parse_iff.mpr isClaims
    have asks : claims.isEmpty = false := (Selection.isEmpty_of_parse selected).mpr asksClaim
    refine ⟨⟨verification, claims⟩, parse_eq_ok_iff.mpr ⟨?_, ?_, asks⟩⟩
    · exact readVerification_eq_ok_iff.mpr ⟨w, there, object⟩
    · exact (readClaims_eq_ok_iff asks).mpr ⟨u, thereToo, p, objectToo, selected⟩

theorem exists_parseElement_iff {v : Json} :
    (∃ w, parseElement v = .ok w) ↔ ∃ o, v.object? = some o ∧ IsVerified o := by
  cases v <;> simp [parseElement, Json.object?, exists_parse_iff]

theorem exists_parseList_iff {v : Json} : (∃ vs, parseList v = .ok vs) ↔ AreVerified v := by
  unfold parseList
  simp only [Outcome.mapError_eq_ok]
  constructor
  · rintro ⟨vs, read⟩
    unfold parseAll at read
    split at read
    · obtain ⟨w, elementRead, _⟩ := Outcome.map_eq_ok.mp read
      exact .one rfl (exists_parse_iff.mp ⟨w, elementRead⟩)
    · cases read
    · next items nonempty =>
        refine .list nonempty fun v member => ?_
        have each := Outcome.exists_map_eq_ok_iff.mp ⟨vs, Outcome.mapM_eq_ok.mp read⟩
        exact exists_parseElement_iff.mp (each v member)
    · cases read
  · intro verified
    cases verified with
    | one object verified =>
        obtain ⟨members, rfl, rfl⟩ := Json.object?_eq_some_iff.mp object
        obtain ⟨w, elementRead⟩ := exists_parse_iff.mpr verified
        exact ⟨[w], Outcome.map_eq_ok.mpr ⟨w, elementRead, rfl⟩⟩
    | @list items nonempty each =>
        obtain ⟨vs, agree⟩ := Outcome.exists_map_eq_ok_iff.mpr fun v member =>
          exists_parseElement_iff.mpr (each v member)
        refine ⟨vs, ?_⟩
        cases items with
        | nil => exact absurd rfl nonempty
        | cons v items => exact Outcome.mapM_eq_ok.mpr agree

end Verified

namespace Side

theorem exists_readVerified_iff {v : Option Json} :
    (∃ vs, readVerified v = .ok vs) ↔ ∀ w, v = some w → AreVerified w := by
  cases v with
  | none => simp [readVerified]
  | some w => simp [readVerified, Verified.exists_parseList_iff]

theorem exists_parse_iff {name : String} {v : Json} :
    (∃ s, parse name v = .ok s) ↔ ∃ p, v.object? = some p ∧ IsSide p := by
  cases v with
  | object members =>
      constructor
      · rintro ⟨s, read⟩
        obtain ⟨claims, claimsRead, read⟩ := Outcome.bind_eq_ok.mp read
        obtain ⟨verified, verifiedRead, _⟩ := Outcome.bind_eq_ok.mp read
        refine ⟨_, rfl, ?_, ?_⟩
        · exact Selection.exists_parse_iff.mp ⟨claims, claimsRead⟩
        · exact exists_readVerified_iff.mp ⟨verified, verifiedRead⟩
      · rintro ⟨p, object, isClaims, areVerified⟩
        cases object
        obtain ⟨claims, claimsRead⟩ := Selection.exists_parse_iff.mpr isClaims
        obtain ⟨verified, verifiedRead⟩ := exists_readVerified_iff.mpr areVerified
        refine ⟨{ empty.setPlain claims with verified := verified }, ?_⟩
        refine Outcome.bind_eq_ok.mpr ⟨claims, claimsRead, ?_⟩
        exact Outcome.bind_eq_ok.mpr ⟨verified, verifiedRead, rfl⟩
  | _ => simp [parse, Json.object?]

theorem exists_read_iff {name : String} {v : Option Json} :
    (∃ s, read name v = .ok s) ↔ ∀ w, v = some w → ∃ p, w.object? = some p ∧ IsSide p := by
  cases v with
  | none => simp [read]
  | some w => simp [read, exists_parse_iff]

end Side

namespace Request

theorem exists_parseObject_iff {v : Json} :
    (∃ r, parseObject v = .ok r) ↔ ∃ p, v.object? = some p ∧ IsRequest p := by
  cases v with
  | object members =>
      constructor
      · rintro ⟨r, read⟩
        obtain ⟨idToken, idTokenRead, read⟩ := Outcome.bind_eq_ok.mp read
        obtain ⟨userinfo, userinfoRead, _⟩ := Outcome.bind_eq_ok.mp read
        refine ⟨_, rfl, ?_, ?_⟩
        · exact Side.exists_read_iff.mp ⟨idToken, idTokenRead⟩
        · exact Side.exists_read_iff.mp ⟨userinfo, userinfoRead⟩
      · rintro ⟨p, object, idTokenIs, userinfoIs⟩
        cases object
        obtain ⟨idToken, idTokenRead⟩ := Side.exists_read_iff.mpr idTokenIs
        obtain ⟨userinfo, userinfoRead⟩ := Side.exists_read_iff.mpr userinfoIs
        refine ⟨⟨idToken, userinfo⟩, Outcome.bind_eq_ok.mpr ⟨idToken, idTokenRead, ?_⟩⟩
        exact Outcome.bind_eq_ok.mpr ⟨userinfo, userinfoRead, rfl⟩
  | _ => simp [parseObject, Json.object?]

theorem exists_parse_iff {v : Json} :
    (∃ r, parse v = .ok r) ↔ ∃ w, Denotes v w ∧ ∃ p, w.object? = some p ∧ IsRequest p := by
  unfold parse
  simp only [Outcome.mapError_eq_ok, Outcome.bind_eq_ok, unwrap_bound_eq_ok_iff]
  constructor
  · rintro ⟨r, w, denotes, read⟩
    exact ⟨w, denotes, exists_parseObject_iff.mp ⟨r, read⟩⟩
  · rintro ⟨w, denotes, isRequest⟩
    obtain ⟨r, read⟩ := exists_parseObject_iff.mpr isRequest
    exact ⟨r, w, denotes, read⟩

end Request

end Claims

end OpenIdConnect
