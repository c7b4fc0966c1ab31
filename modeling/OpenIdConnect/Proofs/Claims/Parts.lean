import OpenIdConnect.Proofs.Claims.Representation
import OpenIdConnect.Proofs.Claims.Resolution

/-!
# The parts of claims requests

A claims request can be made exactly when it is valid and its selections can be made: what is done
to whole requests makes no others, and all of them are put together part by part.
-/

namespace OpenIdConnect

namespace Claims

namespace Side

variable {s other : Side}

/-- A side of which every selection can be made. -/
structure Composed (s : Side) : Prop where
  plain : ∀ claims, s.plain = some claims → claims.Reachable
  verified : ∀ v ∈ s.verified, v.claims.Reachable

theorem composed_empty : empty.Composed := by
  constructor
  · intro claims impossible
    cases impossible
  · intro v impossible
    cases impossible

namespace Composed

theorem setPlain (composed : s.Composed) {claims : Selection} (selection : claims.Reachable) :
    (s.setPlain claims).Composed := by
  refine ⟨?_, composed.verified⟩
  intro kept present
  obtain ⟨rfl, _⟩ := plain_setPlain present
  exact selection

theorem addVerified (composed : s.Composed) {v : Verified} (selection : v.claims.Reachable)
    (made : s.addVerified v = .ok other) : other.Composed := by
  rw [Side.addVerified] at made
  split at made
  · cases made
  · cases made
    refine ⟨composed.plain, ?_⟩
    intro w member
    rcases List.mem_append.mp member with old | new
    · exact composed.verified w old
    · rw [List.mem_singleton.mp new]
      exact selection

theorem add (composed : s.Composed) (otherComposed : other.Composed) :
    (s.add other).Composed := by
  constructor
  · intro claims present
    change mergePlain s.plain other.plain = some claims at present
    cases first : s.plain with
    | none =>
        cases second : other.plain with
        | none =>
            rw [first, second] at present
            cases present
        | some more =>
            rw [first, second] at present
            cases present
            exact otherComposed.plain _ second
    | some base =>
        cases second : other.plain with
        | none =>
            rw [first, second] at present
            cases present
            exact composed.plain _ first
        | some more =>
            rw [first, second] at present
            cases present
            exact .merge (composed.plain base first) (otherComposed.plain more second)
  · intro v member
    rcases List.mem_append.mp member with old | new
    · exact composed.verified v old
    · exact otherComposed.verified v new

end Composed

theorem composed_of_read {name : String} {value : Option Json} (read : Side.read name value = .ok s) :
    s.Composed := by
  cases value with
  | none =>
      cases read
      exact composed_empty
  | some value =>
      cases value with
      | object members =>
          obtain ⟨claims, claimsRead, read⟩ := Outcome.bind_eq_ok.mp read
          obtain ⟨verified, verifiedRead, done⟩ := Outcome.bind_eq_ok.mp read
          cases done
          have plain := composed_empty.setPlain (.parse claimsRead)
          refine ⟨plain.plain, ?_⟩
          intro v among
          cases member : (Object.ofList members).get? Selection.verifiedMember with
          | none =>
              rw [member] at verifiedRead
              cases verifiedRead
              cases among
          | some value =>
              rw [member] at verifiedRead
              obtain ⟨o, parsed⟩ := Verified.exists_parse_of_parseList verifiedRead v among
              exact Verified.reachable_of_parse parsed
      | _ => cases read

end Side

namespace Request

variable {r : Request}

/-! ## Taking requests apart -/

theorem composed_of_parse {v : Json} (read : parse v = .ok r) (place : Place) :
    (r.side place).Composed := by
  obtain ⟨value, _, read⟩ := Outcome.bind_eq_ok.mp (Outcome.mapError_eq_ok.mp read)
  cases value with
  | object members =>
      obtain ⟨idToken, idTokenRead, read⟩ := Outcome.bind_eq_ok.mp read
      obtain ⟨userinfo, userinfoRead, done⟩ := Outcome.bind_eq_ok.mp read
      cases done
      cases place with
      | idToken => exact Side.composed_of_read idTokenRead
      | userinfo => exact Side.composed_of_read userinfoRead
  | _ => cases read

theorem composed_of_resolve? {responseType : ResponseType} {scope : Option Scope}
    {explicit : Option Request} {defined : ScopeClaims} {place : Place}
    (explicitComposed : ∀ e, explicit = some e → (e.side place).Composed)
    (made : resolve? responseType scope explicit defined = some r) :
    (r.side place).Composed := by
  have composed_empty : ((empty : Request).side place).Composed := by
    cases place <;> exact Side.composed_empty
  rw [resolve?] at made
  split at made
  · obtain ⟨implied, ofScope, rfl⟩ := Option.map_eq_some_iff.mp made
    obtain ⟨claims, selected, rfl⟩ := Option.map_eq_some_iff.mp ofScope
    have impliedComposed := Side.composed_empty.setPlain (.ofScope selected)
    have sides := side_ofScope responseType claims place
    generalize (if responseType.deliversInIdToken then empty.setIdToken claims
      else empty.setUserinfo claims : Request) = implied at sides ⊢
    have here : (implied.side place).Composed := by
      rw [sides]
      split
      · exact impliedComposed
      · exact Side.composed_empty
    cases explicit with
    | none => exact here
    | some e =>
        rw [side_add]
        exact here.add (explicitComposed e rfl)
  · cases made
    exact composed_empty

/-- However a request was made, its selections can be made by themselves. -/
theorem Reachable.composed (reachable : r.Reachable) (place : Place) :
    (r.side place).Composed := by
  induction reachable with
  | empty => cases place <;> exact Side.composed_empty
  | setIdToken _ selection composed =>
      cases place with
      | idToken => exact Side.Composed.setPlain composed selection
      | userinfo => exact composed
  | setUserinfo _ selection composed =>
      cases place with
      | idToken => exact composed
      | userinfo => exact Side.Composed.setPlain composed selection
  | addIdTokenVerified _ selection made composed =>
      obtain ⟨side, added, rfl⟩ := Outcome.map_eq_ok.mp made
      cases place with
      | idToken => exact Side.Composed.addVerified composed selection added
      | userinfo => exact composed
  | addUserinfoVerified _ selection made composed =>
      obtain ⟨side, added, rfl⟩ := Outcome.map_eq_ok.mp made
      cases place with
      | idToken => exact composed
      | userinfo => exact Side.Composed.addVerified composed selection added
  | add _ _ first second =>
      rw [side_add]
      exact first.add second
  | parse made => exact composed_of_parse made place
  | resolve _ made composed => exact composed_of_resolve? composed made

/-! ## Putting requests together -/

/-- The request with another side at a place. -/
def withSide (r : Request) : Place → Side → Request
  | .idToken, s => { r with idToken := s }
  | .userinfo, s => { r with userinfo := s }

theorem side_withSide (r : Request) (place other : Place) (s : Side) :
    (r.withSide place s).side other = if other = place then s else r.side other := by
  cases place <;> cases other <;> rfl

theorem withSide_add (place : Place) (s t : Side) :
    (empty.withSide place s).add (empty.withSide place t) = empty.withSide place (s.add t) := by
  cases place <;> rfl

theorem eq_add_withSide (r : Request) :
    r = (empty.withSide .idToken r.idToken).add (empty.withSide .userinfo r.userinfo) := by
  change r = ⟨r.idToken.add .empty, Side.empty.add r.userinfo⟩
  rw [Side.add_empty, Side.empty_add]

theorem reachable_plain {claims : Selection} (selection : claims.Reachable) (place : Place) :
    (empty.withSide place (Side.empty.setPlain claims)).Reachable := by
  cases place with
  | idToken => exact .setIdToken .empty selection
  | userinfo => exact .setUserinfo .empty selection

theorem reachable_verified {v : Verified} (selection : v.claims.Reachable)
    (asks : v.claims.isEmpty = false) (place : Place) :
    (empty.withSide place ⟨none, [v]⟩).Reachable := by
  have added : Side.empty.addVerified v = .ok ⟨none, [v]⟩ := by
    rw [Side.addVerified, asks]
    rfl
  cases place with
  | idToken => exact .addIdTokenVerified .empty selection (Outcome.map_eq_ok.mpr ⟨_, added, rfl⟩)
  | userinfo =>
      exact .addUserinfoVerified .empty selection (Outcome.map_eq_ok.mpr ⟨_, added, rfl⟩)

/-- A side can be made by itself, the plain selection first and then the verified ones in turn. -/
theorem reachable_withSide {s : Side} (valid : s.Valid) (composed : s.Composed) (place : Place) :
    (empty.withSide place s).Reachable := by
  obtain ⟨plain, verified⟩ := s
  induction verified using List.reverseRecOn with
  | nil =>
      cases plain with
      | none =>
          have nothing : empty.withSide place ⟨none, []⟩ = empty := by cases place <;> rfl
          rw [nothing]
          exact .empty
      | some claims =>
          have made := reachable_plain (composed.plain claims rfl) place
          rw [Side.setPlain, (valid.plain claims rfl).2] at made
          exact made
  | append_singleton vs v ih =>
      have last : v ∈ vs ++ [v] := List.mem_append_right _ (List.mem_singleton_self v)
      have front := ih
        ⟨valid.plain, fun w member => valid.verified w (List.mem_append_left _ member)⟩
        ⟨composed.plain, fun w member => composed.verified w (List.mem_append_left _ member)⟩
      have both := front.add
        (reachable_verified (composed.verified v last) (valid.verified v last).asks place)
      rw [withSide_add] at both
      have whole : Side.add ⟨plain, vs⟩ ⟨none, [v]⟩ = ⟨plain, vs ++ [v]⟩ := by cases plain <;> rfl
      rwa [whole] at both

theorem reachable_iff : r.Reachable ↔ r.Valid ∧ ∀ place, (r.side place).Composed := by
  constructor
  · intro reachable
    exact ⟨reachable.valid, reachable.composed⟩
  · rintro ⟨valid, composed⟩
    rw [eq_add_withSide r]
    exact .add (reachable_withSide valid.idToken (composed .idToken) .idToken)
      (reachable_withSide valid.userinfo (composed .userinfo) .userinfo)

end Request

end Claims

end OpenIdConnect
