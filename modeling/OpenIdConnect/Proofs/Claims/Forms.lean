import OpenIdConnect.Proofs.Claims.Sameness
import OpenIdConnect.Proofs.Json.Unsigned

/-!
# Written forms, compared

The written form of a claims request is the same as that of another one exactly when it is so part
by part: verification and claims of each request for verified claims, and the forms of both sides.
The member that a selection writes for a text is that of the last request with a key of this text.
-/

namespace OpenIdConnect

/-- Of members with one name, the last one counts. -/
theorem Object.get?_ofList (members : List (String × Json)) (k : String) :
    (Object.ofList members).get? k = members.reverse.lookup k := by
  have onto (o : Object) : (members.foldl (fun o m => o.insert m.1 m.2) o).get? k =
      (members.reverse.lookup k).or (o.get? k) := by
    induction members generalizing o with
    | nil => rfl
    | cons m members ih =>
        rw [List.foldl_cons, ih, get?_insert, List.reverse_cons, List.lookup_append,
          Ascending.lookup_cons, Option.or_assoc]
        split <;> rfl
  rw [ofList, onto, get?_empty, Option.or_none]

theorem same_or {α : Type} [BEq α] {a a' b b' : Option α} (first : (a == a') = true)
    (second : (b == b') = true) : (a.or b == a'.or b') = true := by
  cases rel_of_same first with
  | none => exact second
  | some same => exact same

namespace Claims

/-! ## Single claims -/

namespace Individual

variable {c d : Individual}

/-- The same constraints are written with the same value or the same values. -/
theorem same_value_values (same : (c.constraint == d.constraint) = true) :
    (c.value? == d.value?) = true ∧
      (c.values?.map Json.array == d.values?.map Json.array) = true := by
  unfold value? values?
  cases first : c.constraint with
  | any =>
      rw [first] at same
      cases second : d.constraint with
      | any => exact ⟨rfl, rfl⟩
      | _ => rw [second] at same; cases same
  | value v =>
      rw [first] at same
      cases second : d.constraint with
      | value w => rw [second] at same; exact ⟨same, rfl⟩
      | _ => rw [second] at same; cases same
  | values vs =>
      rw [first] at same
      cases second : d.constraint with
      | values ws => rw [second] at same; exact ⟨rfl, same⟩
      | _ => rw [second] at same; cases same

/-- Requests for the same say the same in every member with a meaning of its own. -/
theorem same_said (same : (c == d) = true) (name : String) :
    (c.said name == d.said name) = true := by
  obtain ⟨_, necessity, constraint, purpose, _⟩ := same_iff.mp same
  obtain ⟨value, values⟩ := same_value_values constraint
  unfold said isEssential
  rw [necessity, purpose]
  split
  · exact beq_self_eq_true _
  · split
    · exact value
    · split
      · exact values
      · exact beq_self_eq_true _

theorem same_members (same : (c == d) = true) : (c.members == d.members) = true := by
  refine Object.same_iff_get?.mpr fun k => ?_
  rw [get?_members, get?_members]
  refine same_or ?_ (same_said same k)
  have details := (same_iff.mp same).2.2.2.2
  generalize c.details = own at details ⊢
  generalize d.details = other at details ⊢
  cases rel_of_same details with
  | none => exact beq_self_eq_true _
  | some same => exact Object.same_iff_get?.mp same k

theorem isPlain_of_same (same : (c == d) = true) : c.isPlain = d.isPlain := by
  obtain ⟨_, necessity, constraint, purpose, details⟩ := same_iff.mp same
  have any : c.constraint.isAny = d.constraint.isAny := by
    cases first : c.constraint <;> cases second : d.constraint <;> first
      | rfl
      | (rw [first, second] at constraint; cases constraint)
  have bare : c.details.isNone = d.details.isNone := by
    generalize c.details = own at details ⊢
    generalize d.details = other at details ⊢
    cases rel_of_same details <;> rfl
  rw [isPlain, isPlain, isEssential, isEssential, necessity, any, purpose, bare]

/-- Requests for the same are written alike. -/
theorem same_spec (same : (c == d) = true) : (c.spec == d.spec) = true := by
  rw [spec, spec, isPlain_of_same same]
  split
  · rfl
  · exact same_members same

end Individual

/-! ## Selections -/

namespace Selection

variable {s t : Selection} {k : String}

theorem get?_toObject (s : Selection) (k : String) :
    s.toObject.get? k = (s.claims.map fun c => (c.key.text, c.spec)).reverse.lookup k :=
  Object.get?_ofList _ k

theorem exists_spec_of_get? {v : Json} (found : s.toObject.get? k = some v) :
    ∃ c ∈ s.claims, c.key.text = k ∧ c.spec = v := by
  rw [get?_toObject] at found
  obtain ⟨before, after, split, _⟩ := List.lookup_eq_some_iff.mp found
  have member : (k, v) ∈ (s.claims.map fun c => (c.key.text, c.spec)).reverse := by
    rw [split]
    exact List.mem_append_right _ List.mem_cons_self
  obtain ⟨c, asked, written⟩ := List.mem_map.mp (List.mem_reverse.mp member)
  exact ⟨c, asked, congrArg Prod.fst written, congrArg Prod.snd written⟩

theorem exists_get?_toObject {c : Individual} (member : c ∈ s.claims) :
    ∃ v, s.toObject.get? c.key.text = some v := by
  rw [← Option.ne_none_iff_exists', get?_toObject, ne_eq, List.lookup_eq_none_iff]
  intro absent
  have written : (c.key.text, c.spec) ∈ (s.claims.map fun c => (c.key.text, c.spec)).reverse :=
    List.mem_reverse.mpr (List.mem_map_of_mem member)
  exact absurd (absent _ written) (by simp)

end Selection

/-! ## Verified claims -/

namespace Verified

theorem get?_members (v : Verified) (k : String) : v.members.get? k =
    if k = "claims" then some v.claims.toObject.toJson
    else if k = "verification" then some v.verification.toJson else none := by
  rw [members, Object.get?_insert, Object.get?_insert, Object.get?_empty]

theorem same_members_iff {v w : Verified} : (v.members == w.members) = true ↔
    (v.verification == w.verification) = true ∧
      (v.claims.toObject == w.claims.toObject) = true := by
  rw [Object.same_iff_get?]
  constructor
  · intro same
    have claims := same "claims"
    have verification := same "verification"
    rw [get?_members, get?_members] at claims verification
    exact ⟨verification, claims⟩
  · rintro ⟨verification, claims⟩ k
    rw [get?_members, get?_members]
    split
    · exact claims
    · split
      · exact verification
      · rfl

theorem same_iff_forall₂ {vs ws : List Verified} :
    (vs == ws) = true ↔ List.Forall₂ (fun v w => (v == w) = true) vs ws := by
  induction vs generalizing ws with
  | nil => cases ws <;> simp
  | cons v vs ih =>
      cases ws with
      | nil => simp
      | cons w ws =>
          rw [List.forall₂_cons, ← ih]
          exact Bool.and_eq_true_iff

/-- Lists of requests for verified claims are written alike when each two requests are. -/
theorem same_written_iff {vs ws : List Verified} (length : vs.length = ws.length) :
    (written vs == written ws) = true ↔
      List.Forall₂ (fun v w => (v.members == w.members) = true) vs ws := by
  have items {vs ws : List Verified} :
      Json.sameItems (vs.map fun v => v.members.toJson) (ws.map fun w => w.members.toJson) = true ↔
        List.Forall₂ (fun v w => (v.members == w.members) = true) vs ws := by
    induction vs generalizing ws with
    | nil => cases ws <;> simp [Json.sameItems]
    | cons v vs ih =>
        cases ws with
        | nil => simp [Json.sameItems]
        | cons w ws =>
            rw [List.forall₂_cons, ← ih]
            exact Bool.and_eq_true_iff
  match vs, ws with
  | [], [] => simp [written]
  | [v], [w] =>
      rw [List.forall₂_cons]
      exact (and_iff_left .nil).symm
  | v :: v' :: vs, w :: w' :: ws => exact items
  | [], w :: ws => cases length
  | v :: vs, [] => cases length
  | [v], w :: w' :: ws => cases length
  | v :: v' :: vs, [w] => cases length

end Verified

/-! ## Sides and requests -/

theorem Side.same_written_iff {s t : Side} (same : (s == t) = true) :
    (s.written == t.written) = true ↔ (s.toObject == t.toObject) = true := by
  have empty := Side.isEmpty_of_same same
  rw [written, written, empty]
  cases nothing : t.isEmpty with
  | false => exact Iff.rfl
  | true =>
      rw [eq_empty_of_isEmpty nothing, eq_empty_of_isEmpty (empty.trans nothing)]
      exact iff_of_true rfl (beq_self_eq_true _)

theorem Request.same_toObject_iff {r r' : Request} : (r.toObject == r'.toObject) = true ↔
    ∀ place, ((r.side place).written == (r'.side place).written) = true := by
  rw [Object.same_iff_get?]
  constructor
  · intro same place
    cases place with
    | idToken =>
        have here := same "id_token"
        rw [get?_toObject, get?_toObject] at here
        exact here
    | userinfo =>
        have here := same "userinfo"
        rw [get?_toObject, get?_toObject] at here
        exact here
  · intro sides k
    rw [get?_toObject, get?_toObject]
    split
    · exact sides .userinfo
    · split
      · exact sides .idToken
      · rfl

end Claims

end OpenIdConnect
