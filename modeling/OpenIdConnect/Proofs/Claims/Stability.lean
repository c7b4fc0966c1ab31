import OpenIdConnect.Proofs.Claims.Representation
import OpenIdConnect.Proofs.Claims.Sameness

/-!
# Resolving is stable

What is resolved depends on the explicit request and on which claims the scope stands for, and on
nothing else: neither the order of the scope values nor the order or the number of times in which
claims are listed for them shows.  A resolved request already asks for all claims of its scope, so
that resolving it again changes nothing.
-/

namespace OpenIdConnect

namespace Claims

/-- Each scope value stands for the same claims, in whatever order and however often listed. -/
def ScopeClaims.Alike (defined defined' : ScopeClaims) : Prop :=
  ∀ value name,
    (∃ names, defined.lookup value = some names ∧ name ∈ names) ↔
      ∃ names, defined'.lookup value = some names ∧ name ∈ names

/-- Two scopes have the same values, in whatever order, or neither is there. -/
def ScopesPermuted : Option Scope → Option Scope → Prop :=
  Option.Rel fun s s' => s.values.Perm s'.values

namespace ScopesPermuted

variable {scope scope' : Option Scope}

theorem values (permuted : ScopesPermuted scope scope') :
    (scope.getD .empty).values.Perm (scope'.getD .empty).values := by
  cases permuted with
  | none => exact List.Perm.refl _
  | some perm => exact perm

theorem openid_iff (permuted : ScopesPermuted scope scope') (responseType : ResponseType) :
    Request.Openid responseType scope ↔ Request.Openid responseType scope' := by
  refine and_congr_left' ?_
  cases permuted with
  | none => exact Iff.rfl
  | some perm => simp [perm.mem_iff]

theorem standsFor_iff (permuted : ScopesPermuted scope scope') {defined defined' : ScopeClaims}
    (alike : ScopeClaims.Alike defined defined') (name : String) :
    StandsFor (scope.getD .empty) defined name ↔ StandsFor (scope'.getD .empty) defined' name :=
  exists_congr fun value =>
    and_congr permuted.values.mem_iff (or_congr_right (alike value name))

end ScopesPermuted

namespace Request

/-! ## What is resolved -/

namespace Resolved

variable {responseType : ResponseType} {scope scope' : Scope} {defined defined' : ScopeClaims}
  {explicit r r' : Request}

/-- Resolving is determined by the explicit request and by what the scope stands for. -/
theorem claim?_eq (first : Resolved responseType scope defined explicit r)
    (second : Resolved responseType scope' defined' explicit r')
    (stands : ∀ name, StandsFor scope defined name ↔ StandsFor scope' defined' name)
    (place : Place) (k : Key) : (r.side place).claim? k = (r'.side place).claim? k := by
  cases asked : (explicit.side place).claim? k with
  | some c => rw [first.asked place k c asked, second.asked place k c asked]
  | none =>
      by_cases inScope :
        place = .ofScope responseType ∧ k.tag = none ∧ StandsFor scope defined k.name
      · obtain ⟨rfl, untagged, standing⟩ := inScope
        obtain ⟨name, tag⟩ := k
        cases untagged
        have standing' := (stands name).mp standing
        rw [first.implied name standing asked, second.implied name standing' asked]
      · have outside :
            ¬(place = .ofScope responseType ∧ k.tag = none ∧ StandsFor scope' defined' k.name) := by
          rwa [← stands]
        rw [first.absent place k asked inScope, second.absent place k asked outside]

theorem same (first : Resolved responseType scope defined explicit r)
    (second : Resolved responseType scope' defined' explicit r')
    (stands : ∀ name, StandsFor scope defined name ↔ StandsFor scope' defined' name)
    (valid : r.Valid) (valid' : r'.Valid) : (r == r') = true := by
  refine same_iff_side.mpr fun place => ?_
  refine Side.same_of_claim? (valid.side place) (valid'.side place) ?_ ?_
  · exact first.claim?_eq second stands place
  · rw [first.verified, second.verified]

/-- What was resolved has nothing left to be resolved: it is resolved from itself. -/
theorem again (resolved : Resolved responseType scope defined explicit r) :
    Resolved responseType scope defined r r where
  asked := fun place k c asked => asked
  implied := by
    intro name standing silent
    cases asked : (explicit.side (.ofScope responseType)).claim? ⟨name, none⟩ with
    | some c =>
        rw [resolved.asked _ _ c asked] at silent
        cases silent
    | none => exact resolved.implied name standing asked
  absent := fun place k silent _ => silent
  verified := fun place => rfl
  elsewhere := fun place _ => rfl

end Resolved

/-! ## Resolving -/

section

variable {responseType : ResponseType} {scope : Option Scope} {explicit : Option Request}
  {defined : ScopeClaims} {r : Request}

theorem resolved_of_resolve? (valid : ∀ e, explicit = some e → e.Valid)
    (made : resolve? responseType scope explicit defined = some r)
    (concerned : Openid responseType scope) :
    Resolved responseType (scope.getD .empty) defined (explicit.getD .empty) r := by
  rw [resolve?, if_pos (concernsOpenid_iff.mpr concerned)] at made
  obtain ⟨implied, ofScope, rfl⟩ := Option.map_eq_some_iff.mp made
  cases explicit with
  | none =>
      have resolved := resolved_add valid_empty ofScope
      rw [add_empty] at resolved
      exact resolved
  | some e => exact resolved_add (valid e rfl) ofScope

theorem eq_empty_of_resolve? (made : resolve? responseType scope explicit defined = some r)
    (outside : ¬Openid responseType scope) : r = .empty := by
  rw [resolve?, if_neg (mt concernsOpenid_iff.mp outside)] at made
  exact (Option.some.inj made).symm

theorem isSome_resolve? (named : ∀ entry ∈ defined, ∀ claim ∈ entry.2, claim ≠ "")
    (responseType : ResponseType) (scope : Option Scope) (explicit : Option Request) :
    (resolve? responseType scope explicit defined).isSome = true := by
  obtain ⟨claims, selected⟩ : ∃ claims, Selection.ofScope? (scope.getD .empty) defined
      = some claims := by
    refine Selection.exists_insertNames? _ fun name member => ?_
    exact (mem_claimsOf_iff.mp member).named named
  rw [resolve?]
  split
  · rw [ofScope?, selected]
    rfl
  · rfl

end

/-- What is resolved shows neither the order of the scope nor how its claims are listed. -/
theorem same_of_resolve? {scope scope' : Option Scope} {defined defined' : ScopeClaims}
    {explicit : Option Request} {r r' : Request} {responseType : ResponseType}
    (explicitValid : ∀ e, explicit = some e → e.Valid)
    (permuted : ScopesPermuted scope scope') (alike : ScopeClaims.Alike defined defined')
    (made : resolve? responseType scope explicit defined = some r)
    (made' : resolve? responseType scope' explicit defined' = some r') : (r == r') = true := by
  have valid := Valid.resolve? explicitValid made
  have valid' := Valid.resolve? explicitValid made'
  by_cases concerned : Openid responseType scope
  · have concerned' := (permuted.openid_iff responseType).mp concerned
    exact (resolved_of_resolve? explicitValid made concerned).same
      (resolved_of_resolve? explicitValid made' concerned')
      (permuted.standsFor_iff alike) valid valid'
  · have outside' := mt (permuted.openid_iff responseType).mpr concerned
    rw [eq_empty_of_resolve? made concerned, eq_empty_of_resolve? made' outside']
    exact valid_empty.same_self

/-- A request that was resolved, resolved once more, asks for the same at each place. -/
theorem again_of_resolve? {scope : Option Scope} {defined : ScopeClaims}
    {explicit : Option Request} {r again : Request} {responseType : ResponseType}
    (explicitValid : ∀ e, explicit = some e → e.Valid)
    (made : resolve? responseType scope explicit defined = some r)
    (remade : resolve? responseType scope (some r) defined = some again) (place : Place) :
    (again.side place).verified = (r.side place).verified ∧
      ∀ k, (again.side place).claim? k = (r.side place).claim? k := by
  by_cases concerned : Openid responseType scope
  · have valid : ∀ e, some r = some e → e.Valid := by
      rintro e ⟨⟩
      exact Valid.resolve? explicitValid made
    have once := (resolved_of_resolve? explicitValid made concerned).again
    have twice := resolved_of_resolve? valid remade concerned
    exact ⟨twice.verified place, twice.claim?_eq once (fun _ => Iff.rfl) place⟩
  · rw [eq_empty_of_resolve? made concerned, eq_empty_of_resolve? remade concerned]
    exact ⟨rfl, fun k => rfl⟩

/--
Resolving gives the same for scopes with the same values and for definitions that list the same
claims for each scope value.  Resolving the result once more gives the result: every claim is
requested as before, and the verified claims are not repeated.
-/
theorem exists_resolve?_stable {explicit : Option Request} {scope scope' : Option Scope}
    {defined defined' : ScopeClaims} (reachable : ∀ e, explicit = some e → e.Reachable)
    (permuted : ScopesPermuted scope scope') (alike : ScopeClaims.Alike defined defined')
    (named : ∀ entry ∈ defined, ∀ claim ∈ entry.2, claim ≠ "")
    (named' : ∀ entry ∈ defined', ∀ claim ∈ entry.2, claim ≠ "") (responseType : ResponseType) :
    ∃ r r' again, resolve? responseType scope explicit defined = some r ∧
      resolve? responseType scope' explicit defined' = some r' ∧ (r == r') = true ∧
      resolve? responseType scope (some r) defined = some again ∧ (again == r) = true ∧
      ∀ place, (again.side place).verified = (r.side place).verified ∧
        ∀ k, (again.side place).claim? k = (r.side place).claim? k := by
  obtain ⟨r, made⟩ :=
    Option.isSome_iff_exists.mp (isSome_resolve? named responseType scope explicit)
  obtain ⟨r', made'⟩ :=
    Option.isSome_iff_exists.mp (isSome_resolve? named' responseType scope' explicit)
  obtain ⟨again, remade⟩ :=
    Option.isSome_iff_exists.mp (isSome_resolve? named responseType scope (some r))
  have explicitValid : ∀ e, explicit = some e → e.Valid := fun e given => (reachable e given).valid
  have resultReachable : r.Reachable := .resolve reachable made
  have againReachable : again.Reachable := by
    refine .resolve ?_ remade
    rintro e ⟨⟩
    exact resultReachable
  have unchanged := again_of_resolve? explicitValid made remade
  refine ⟨r, r', again, made, made', ?_, remade, same_iff_side.mpr fun place => ?_, unchanged⟩
  · exact same_of_resolve? explicitValid permuted alike made made'
  · obtain ⟨verified, claims⟩ := unchanged place
    exact Side.same_of_claim? (againReachable.valid.side place) (resultReachable.valid.side place)
      claims verified

/-- Two lists of the claims of the staff, in another order and with one claim listed twice. -/
def staffTwice : ScopeClaims × ScopeClaims :=
  ([("staff", ["badge", "desk"])], [("staff", ["desk", "badge", "desk"])])

theorem alike_staffTwice : ScopeClaims.Alike staffTwice.1 staffTwice.2 := by
  intro value name
  by_cases staff : value = "staff"
  · subst staff
    have same : name ∈ ["badge", "desk"] ↔ name ∈ ["desk", "badge", "desk"] := by grind
    simpa only [staffTwice, List.lookup, BEq.rfl, Option.some.injEq, exists_eq_left'] using same
  · have absent (names : List String) : List.lookup value [("staff", names)] = none := by
      simp [List.lookup, beq_false_of_ne staff]
    simp only [staffTwice, absent]

/-- A scope of the staff. -/
def staffLast : Scope :=
  ⟨["openid", "email", "staff"], by decide⟩

/-- The same scope in another order. -/
def staffFirst : Scope :=
  ⟨["staff", "email", "openid"], by decide⟩

theorem staffTwice_resolved :
    ∃ r r' again,
      resolve? .idTokenOnly (some staffLast) (some emailAndVerifiedName) staffTwice.1 = some r ∧
      resolve? .idTokenOnly (some staffFirst) (some emailAndVerifiedName) staffTwice.2 = some r' ∧
      (r == r') = true ∧
      resolve? .idTokenOnly (some staffLast) (some r) staffTwice.1 = some again ∧
      (again == r) = true ∧ again.idToken.verified = r.idToken.verified := by
  have reachable : ∀ e, some emailAndVerifiedName = some e → e.Reachable := by
    rintro e ⟨⟩
    exact reachable_emailAndVerifiedName
  have permuted : ScopesPermuted (some staffLast) (some staffFirst) := .some (by decide)
  obtain ⟨r, r', again, made, made', same, remade, unchanged, frame⟩ :=
    exists_resolve?_stable reachable permuted alike_staffTwice (by decide) (by decide) .idTokenOnly
  exact ⟨r, r', again, made, made', same, remade, unchanged, (frame .idToken).1⟩

end Request

end Claims

end OpenIdConnect
