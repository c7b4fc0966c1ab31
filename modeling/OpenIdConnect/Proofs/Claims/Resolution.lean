import OpenIdConnect.Proofs.Claims.Reachable

/-!
# What a resolved claims request holds

The claims of a scope are added at one place, and a claim that is requested explicitly stays as
it is requested: the request that a scope stands for says nothing that could be merged into it.
-/

namespace OpenIdConnect

namespace Claims

/-- A place that claims are requested from. -/
inductive Place where
  | idToken
  | userinfo
deriving DecidableEq

/-- The place where the claims of a scope are delivered. -/
def Place.ofScope (responseType : ResponseType) : Place :=
  if .idToken ∈ responseType.values ∧ .code ∉ responseType.values ∧ .token ∉ responseType.values
  then .idToken else .userinfo

namespace Individual

/-- A request that says nothing changes nothing about the one it is merged with. -/
theorem merge_ofKey (key : Key) (c : Individual) : (ofKey key).merge c = { c with key := key } := by
  obtain ⟨_, necessity, constraint, purpose, details⟩ := c
  cases constraint <;> cases purpose <;> cases details <;> rfl

end Individual

namespace Side

/-- The request for a claim among the plain ones. -/
def claim? (s : Side) (k : Key) : Option Individual :=
  s.plain.bind fun claims => claims.get? k

theorem claim?_setPlain (s : Side) (claims : Selection) (k : Key) :
    (s.setPlain claims).claim? k = claims.get? k := by
  unfold claim?
  change ((if claims.isEmpty then none else some claims).bind fun claims => claims.get? k) = _
  cases nothing : claims.isEmpty with
  | false => rfl
  | true =>
      obtain ⟨list⟩ := claims
      cases list with
      | nil => rfl
      | cons c rest => cases nothing

/-- Where both sides hold a request for a claim, these are merged; else the one there is stays. -/
theorem claim?_add_eq_merge {s other : Side} (valid : other.Valid) (k : Key) :
    (s.add other).claim? k = Option.merge Individual.merge (s.claim? k) (other.claim? k) := by
  unfold claim?
  change ((mergePlain s.plain other.plain).bind fun claims => claims.get? k) = _
  cases first : s.plain with
  | none =>
      cases second : other.plain with
      | none => rfl
      | some more => exact Option.merge_none_left.symm
  | some base =>
      cases second : other.plain with
      | none => exact Option.merge_none_right.symm
      | some more => exact Selection.get?_merge_eq_merge base (valid.plain more second).1.distinct k

/-- Claims that only a name is given for give way to the other side's requests. -/
theorem claim?_add {s other : Side} (valid : other.Valid)
    (plain : ∀ k c, s.claim? k = some c → c = .ofKey k) (k : Key) :
    (s.add other).claim? k = (other.claim? k).or (s.claim? k) := by
  rw [claim?_add_eq_merge valid]
  cases implied : s.claim? k with
  | none => cases other.claim? k <;> rfl
  | some c =>
      cases explicit : other.claim? k with
      | none => rfl
      | some d =>
          obtain ⟨claims, _, found⟩ := Option.bind_eq_some_iff.mp explicit
          have key : d.key = k := Selection.key_of_get? found
          rw [plain k c implied]
          change some ((Individual.ofKey k).merge d) = some d
          rw [Individual.merge_ofKey, ← key]

theorem empty_add (s : Side) : empty.add s = s := by
  obtain ⟨plain, verified⟩ := s
  cases plain <;> rfl

theorem add_empty (s : Side) : s.add empty = s := by
  obtain ⟨plain, verified⟩ := s
  unfold add empty
  rw [List.append_nil]
  cases plain <;> rfl

end Side

namespace Request

/-- The side of a request at a place. -/
def side (r : Request) : Place → Side
  | .idToken => r.idToken
  | .userinfo => r.userinfo

theorem add_empty (r : Request) : r.add empty = r := by
  unfold add empty
  rw [Side.add_empty, Side.add_empty]

theorem empty_add (r : Request) : empty.add r = r := by
  unfold add empty
  rw [Side.empty_add, Side.empty_add]

theorem side_add (r other : Request) (place : Place) :
    (r.add other).side place = (r.side place).add (other.side place) := by
  cases place <;> rfl

theorem Valid.side {r : Request} (valid : r.Valid) (place : Place) : (r.side place).Valid := by
  cases place with
  | idToken => exact valid.idToken
  | userinfo => exact valid.userinfo

theorem side_ofScope (responseType : ResponseType) (claims : Selection) (place : Place) :
    (if responseType.deliversInIdToken then empty.setIdToken claims
      else empty.setUserinfo claims : Request).side place =
      if place = .ofScope responseType then Side.empty.setPlain claims else .empty := by
  have target : (.ofScope responseType : Place) =
      if responseType.deliversInIdToken then .idToken else .userinfo := by
    simp [Place.ofScope, ResponseType.deliversInIdToken, ResponseType.contains, and_assoc]
  rw [target]
  cases responseType.deliversInIdToken <;> cases place <;> rfl

end Request

/-! ## Names of a scope -/

/-- Does a scope stand for a claim, by the standard or by what is defined? -/
def StandsFor (scope : Scope) (defined : ScopeClaims) (name : String) : Prop :=
  ∃ value ∈ scope.values,
    (∃ names, standardClaims? value = some names ∧ name ∈ names) ∨
      ∃ names, defined.lookup value = some names ∧ name ∈ names

theorem mem_getD {names : Option (List String)} {name : String} :
    name ∈ names.getD [] ↔ ∃ listed, names = some listed ∧ name ∈ listed := by
  cases names <;> simp

theorem mem_claimsOf_iff {scope : Scope} {defined : ScopeClaims} {name : String} :
    name ∈ scope.values.flatMap (claimsOf defined) ↔ StandsFor scope defined name := by
  rw [List.mem_flatMap]
  refine exists_congr fun value => and_congr_right fun _ => ?_
  rw [claimsOf, List.mem_append, mem_getD, mem_getD]

theorem mem_of_lookup {defined : ScopeClaims} {value : String} {names : List String}
    (found : defined.lookup value = some names) : (value, names) ∈ defined := by
  obtain ⟨before, after, shape, _⟩ := List.lookup_eq_some_iff.mp found
  rw [shape]
  exact List.mem_append_right _ List.mem_cons_self

theorem StandsFor.named {scope : Scope} {defined : ScopeClaims} {name : String}
    (stands : StandsFor scope defined name)
    (named : ∀ entry ∈ defined, ∀ claim ∈ entry.2, claim ≠ "") : name ≠ "" := by
  have standard : ∀ entry ∈ standardScopes, ∀ claim ∈ entry.2, claim ≠ "" := by decide
  obtain ⟨value, _, ⟨names, found, member⟩ | ⟨names, found, member⟩⟩ := stands
  · exact standard _ (mem_of_lookup found) name member
  · exact named _ (mem_of_lookup found) name member

namespace Request

/-! ## Resolving -/

/-- Is the scope one of OpenID Connect, and is an ID token asked for, at once or for a code? -/
def Openid (responseType : ResponseType) (scope : Option Scope) : Prop :=
  (∃ s, scope = some s ∧ "openid" ∈ s.values) ∧
    (.code ∈ responseType.values ∨ .idToken ∈ responseType.values)

theorem concernsOpenid_iff {responseType : ResponseType} {scope : Option Scope} :
    concernsOpenid responseType scope = true ↔ Openid responseType scope := by
  unfold concernsOpenid Openid
  cases scope with
  | none => simp
  | some s =>
      simp [Scope.hasOpenid, Scope.contains, ResponseType.isOpenid, ResponseType.contains]

/-- What is resolved from a scope and an explicit request. -/
structure Resolved (responseType : ResponseType) (scope : Scope) (defined : ScopeClaims)
    (explicit r : Request) : Prop where
  asked : ∀ place k c, (explicit.side place).claim? k = some c →
    (r.side place).claim? k = some c
  implied : ∀ name, StandsFor scope defined name →
    (explicit.side (.ofScope responseType)).claim? ⟨name, none⟩ = none →
      (r.side (.ofScope responseType)).claim? ⟨name, none⟩ = some (.ofKey ⟨name, none⟩)
  absent : ∀ place k, (explicit.side place).claim? k = none →
    ¬(place = .ofScope responseType ∧ k.tag = none ∧ StandsFor scope defined k.name) →
      (r.side place).claim? k = none
  verified : ∀ place, (r.side place).verified = (explicit.side place).verified
  elsewhere : ∀ place, place ≠ .ofScope responseType → r.side place = explicit.side place

theorem resolved_add {responseType : ResponseType} {scope : Scope} {defined : ScopeClaims}
    {explicit implied : Request} (valid : explicit.Valid)
    (made : ofScope? responseType scope defined = some implied) :
    Resolved responseType scope defined explicit (implied.add explicit) := by
  obtain ⟨claims, selected, rfl⟩ := Option.map_eq_some_iff.mp made
  have sides := side_ofScope responseType claims
  generalize (if responseType.deliversInIdToken then empty.setIdToken claims
    else empty.setUserinfo claims : Request) = implied at sides ⊢
  have lookup : ∀ k, claims.get? k =
      Selection.implied (scope.values.flatMap (claimsOf defined)) k :=
    Selection.get?_insertNames? selected
  have entry : ∀ place k, ((implied.add explicit).side place).claim? k =
      ((explicit.side place).claim? k).or
        (if place = .ofScope responseType then claims.get? k else none) := by
    intro place k
    rw [side_add, sides]
    split
    · rw [Side.claim?_add (valid.side place), Side.claim?_setPlain]
      intro k c present
      rw [Side.claim?_setPlain, lookup] at present
      unfold Selection.implied at present
      split at present
      · exact (Option.some.inj present).symm
      · cases present
    · rw [Side.empty_add, Option.or_none]
  exact {
    asked := by
      intro place k c present
      rw [entry, present]
      rfl
    implied := by
      intro name stands silent
      rw [entry, silent, if_pos rfl, lookup]
      exact if_pos ⟨rfl, mem_claimsOf_iff.mpr stands⟩
    absent := by
      intro place k silent outside
      rw [entry, silent, Option.none_or, lookup]
      split
      · next target =>
          refine if_neg ?_
          rintro ⟨untagged, member⟩
          exact outside ⟨target, untagged, mem_claimsOf_iff.mp member⟩
      · rfl
    verified := by
      intro place
      rw [side_add, sides]
      split <;> rfl
    elsewhere := by
      intro place other
      rw [side_add, sides, if_neg other, Side.empty_add] }

/--
Resolving always yields a request.  Outside OpenID Connect it is empty; else the explicit request
stands unchanged, and the claims of the scope that it is silent about are added at one place.
-/
theorem exists_resolve? {explicit : Option Request} {defined : ScopeClaims}
    (reachable : ∀ e, explicit = some e → e.Reachable)
    (named : ∀ entry ∈ defined, ∀ claim ∈ entry.2, claim ≠ "")
    (responseType : ResponseType) (scope : Option Scope) :
    ∃ r, resolve? responseType scope explicit defined = some r ∧
      (¬Openid responseType scope → r = .empty) ∧
      (Openid responseType scope →
        Resolved responseType (scope.getD .empty) defined (explicit.getD .empty) r) := by
  by_cases concerned : Openid responseType scope
  · have valid : (explicit.getD .empty).Valid := by
      cases explicit with
      | none => exact valid_empty
      | some e => exact (reachable e rfl).valid
    obtain ⟨claims, selected⟩ : ∃ claims, Selection.ofScope? (scope.getD .empty) defined
        = some claims := by
      refine Selection.exists_insertNames? _ ?_
      intro name member
      exact (mem_claimsOf_iff.mp member).named named
    have made : ofScope? responseType (scope.getD .empty) defined = some
        (if responseType.deliversInIdToken then empty.setIdToken claims
          else empty.setUserinfo claims) := by
      unfold ofScope?
      rw [selected]
      rfl
    have resolved := resolved_add valid made
    refine ⟨_, ?_, fun outside => absurd concerned outside, fun _ => resolved⟩
    unfold resolve?
    rw [if_pos (concernsOpenid_iff.mpr concerned), made, Option.map_some]
    cases explicit with
    | none => exact congrArg some (add_empty _).symm
    | some e => rfl
  · refine ⟨.empty, ?_, fun _ => rfl, fun inside => absurd inside concerned⟩
    unfold resolve?
    rw [if_neg (mt concernsOpenid_iff.mp concerned)]

/-- The essential request for the address of the user, in the ID token. -/
def essentialEmail : Request :=
  empty.setIdToken (Selection.empty.insert
    ((Individual.ofKey ⟨"email", none⟩).setNecessity .essential))

theorem reachable_essentialEmail : essentialEmail.Reachable :=
  .setIdToken .empty (.insert .empty (.setNecessity _ (.ofName (by decide))))

theorem exists_resolve?_essentialEmail :
    ∃ r, resolve? ⟨[.idToken], by decide, by decide, by decide⟩
        (some ⟨["openid", "email", "staff"], by decide⟩) (some essentialEmail)
        [("staff", ["badge"])] = some r ∧
      (r.side .idToken).claim? ⟨"email", none⟩ =
        some ((Individual.ofKey ⟨"email", none⟩).setNecessity .essential) ∧
      (r.side .idToken).claim? ⟨"badge", none⟩ = some (.ofKey ⟨"badge", none⟩) ∧
      r.side .userinfo = .empty := by
  have reachable : ∀ e, some essentialEmail = some e → e.Reachable := by
    rintro e ⟨⟩
    exact reachable_essentialEmail
  have named : ∀ entry ∈ [("staff", ["badge"])], ∀ claim ∈ entry.2, claim ≠ "" := by decide
  obtain ⟨r, resolved, _, inside⟩ := exists_resolve? reachable named
    ⟨[.idToken], by decide, by decide, by decide⟩
    (some ⟨["openid", "email", "staff"], by decide⟩)
  have content := inside ⟨⟨_, rfl, by decide⟩, by decide⟩
  refine ⟨r, resolved, content.asked .idToken _ _ rfl, ?_, content.elsewhere .userinfo (by decide)⟩
  refine content.implied "badge" ?_ rfl
  exact ⟨"staff", by decide, .inr ⟨["badge"], rfl, by decide⟩⟩

end Request

end Claims

end OpenIdConnect
