import OpenIdConnect.Proofs.Claims.Representation
import OpenIdConnect.Proofs.Claims.Resolution

/-!
# What combined claims requests hold

Two claims requests are combined side by side and claim by claim.  Nothing that one of them asks
for is lost or made voluntary; where both ask for a claim, the second one speaks for whatever it
says, and the first one for the rest.
-/

namespace OpenIdConnect

namespace Claims

namespace Individual

/-- A detail of a request. -/
def detail? (c : Individual) (name : String) : Option Json :=
  c.details.bind fun details => details.get? name

/--
A request for a claim says what two others say together.  What is acceptable as a value comes from
one of them as a whole.
-/
structure Combines (c d whole : Individual) : Prop where
  key : whole.key = c.key
  essential : whole.isEssential = true ↔ c.isEssential = true ∨ d.isEssential = true
  asked : (whole.value?, whole.values?) =
    if d.value?.isSome || d.values?.isSome then (d.value?, d.values?) else (c.value?, c.values?)
  purpose : whole.purpose = if d.purpose.isSome then d.purpose else c.purpose
  detailed : whole.details.isSome = true ↔ c.details.isSome = true ∨ d.details.isSome = true
  details : ∀ name, whole.detail? name = (d.detail? name).or (c.detail? name)

theorem isEssential_merge (c d : Individual) :
    (c.merge d).isEssential = true ↔ c.isEssential = true ∨ d.isEssential = true := by
  unfold isEssential
  change (c.necessity.max d.necessity == .essential) = true ↔ _
  cases c.necessity <;> cases d.necessity <;> decide

theorem isSome_mergeDetails (own other : Option Object) :
    (mergeDetails own other).isSome = true ↔ own.isSome = true ∨ other.isSome = true := by
  cases own <;> cases other <;> simp [mergeDetails]

theorem detail?_merge (c d : Individual) (name : String) :
    (c.merge d).detail? name = (d.detail? name).or (c.detail? name) := by
  unfold detail?
  change (mergeDetails c.details d.details).bind _ = _
  cases c.details with
  | none => cases d.details <;> simp [mergeDetails]
  | some own =>
      cases d.details with
      | none => rfl
      | some other => exact Object.get?_union own other name

theorem combines_merge (c d : Individual) : Combines c d (c.merge d) where
  key := rfl
  essential := isEssential_merge c d
  asked := asked_merge c d
  purpose := by
    change d.purpose.or c.purpose = _
    cases d.purpose <;> rfl
  detailed := isSome_mergeDetails c.details d.details
  details := detail?_merge c d

end Individual

namespace Side

/-- The side asks for a claim as an essential one. -/
def Demands (s : Side) (k : Key) : Prop :=
  ∃ c, s.claim? k = some c ∧ c.isEssential = true

/--
A side asks for what two others ask for together: for each claim once, and unchanged where only one
of them asks for it.
-/
structure Combines (s other whole : Side) : Prop where
  once : ∀ claims, whole.plain = some claims → claims.keys.Nodup
  requested : ∀ k, (whole.claim? k).isSome = true ↔
    (s.claim? k).isSome = true ∨ (other.claim? k).isSome = true
  demanded : ∀ k, whole.Demands k ↔ s.Demands k ∨ other.Demands k
  first : ∀ k, other.claim? k = none → whole.claim? k = s.claim? k
  second : ∀ k, s.claim? k = none → whole.claim? k = other.claim? k
  both : ∀ k c d, s.claim? k = some c → other.claim? k = some d →
    ∃ e, whole.claim? k = some e ∧ c.Combines d e
  verified : whole.verified = s.verified ++ other.verified

theorem combines_add {s other : Side} (valid : s.Valid) (otherValid : other.Valid) :
    s.Combines other (s.add other) := by
  have entry := claim?_add_eq_merge (s := s) otherValid
  exact {
    once := by
      intro claims present
      exact ((valid.add otherValid).plain claims present).1.distinct
    requested := by
      intro k
      rw [entry]
      cases s.claim? k <;> cases other.claim? k <;> simp [Option.merge]
    demanded := by
      intro k
      unfold Demands
      rw [entry]
      cases s.claim? k with
      | none => cases other.claim? k <;> simp [Option.merge]
      | some c =>
          cases other.claim? k with
          | none => simp [Option.merge]
          | some d => simpa [Option.merge] using c.isEssential_merge d
    first := by
      intro k silent
      rw [entry, silent, Option.merge_none_right]
    second := by
      intro k silent
      rw [entry, silent, Option.merge_none_left]
    both := by
      intro k c d asked other
      refine ⟨c.merge d, ?_, c.combines_merge d⟩
      rw [entry, asked, other]
      rfl
    verified := rfl }

end Side

namespace Request

/-- Requests that can be made are combined at both places. -/
theorem combines_of_reachable {r other : Request} (first : r.Reachable)
    (second : other.Reachable) (place : Place) :
    (r.side place).Combines (other.side place) ((r.add other).side place) := by
  rw [side_add]
  exact Side.combines_add (first.valid.side place) (second.valid.side place)

/-- The request for one address of the user, in the ID token. -/
def knownEmail : Request :=
  empty.setIdToken (Selection.empty.insert
    ((Individual.ofKey ⟨"email", none⟩).setValue (.string "a@c.example")))

theorem reachable_knownEmail : knownEmail.Reachable :=
  .setIdToken .empty (.insert .empty (.setValue _ (.ofName (by decide))))

theorem combines_essential_known :
    ∃ e, ((essentialEmail.add knownEmail).side .idToken).claim? ⟨"email", none⟩ = some e ∧
      e.isEssential = true ∧ e.value? = some (.string "a@c.example") ∧ e.values? = none := by
  have combines := combines_of_reachable reachable_essentialEmail reachable_knownEmail .idToken
  obtain ⟨e, found, together⟩ := combines.both ⟨"email", none⟩ _ _ rfl rfl
  have essential := together.essential.mpr (.inl rfl)
  have asked : (e.value?, e.values?) = (some (.string "a@c.example"), none) := together.asked
  exact ⟨e, found, essential, congrArg Prod.fst asked, congrArg Prod.snd asked⟩

end Request

end Claims

end OpenIdConnect
