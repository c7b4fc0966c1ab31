import Mathlib.Data.List.Perm.Subperm
import OpenIdConnect.Proofs.Distinct
import OpenIdConnect.Provider.Metadata

/-!
# Response types as sets

Two response types are equal when they have the same values, in whatever order these were given.
Equality is an equivalence, and every question that is asked about a response type has the same
answer for equal ones: which flow it belongs to, how its answer travels, where the claims are
delivered, and whether a provider supports it.
-/

namespace OpenIdConnect

namespace ResponseType

theorem ofValues_eq_ok_iff {values : List ResponseValue} {t : ResponseType} :
    ofValues values = .ok t ↔ t.values = Distinct.ofList values := by
  unfold ofValues
  dsimp only
  constructor
  · intro made
    split at made
    · cases made
    · split at made
      · cases made
      · cases made
        rfl
  · intro kept
    have filled : Distinct.ofList values ≠ [] := kept ▸ t.nonempty
    have alone : ¬(1 < (Distinct.ofList values).length ∧ .nothing ∈ Distinct.ofList values) := by
      rw [← kept]
      rintro ⟨several, among⟩
      exact absurd (t.noneAlone among) (Nat.not_le.mpr several)
    rw [dif_neg filled, dif_neg alone]
    obtain ⟨own, _, _, _⟩ := t
    cases kept
    rfl

/-- Every response type is built from its values. -/
theorem ofValues_values (t : ResponseType) : ofValues t.values = .ok t :=
  ofValues_eq_ok_iff.mpr (Distinct.ofList_of_nodup t.distinct).symm

/-- A response type that was built has the values it was built from. -/
theorem mem_values_of_ofValues {values : List ResponseValue} {t : ResponseType}
    (made : ofValues values = .ok t) (v : ResponseValue) : v ∈ t.values ↔ v ∈ values := by
  rw [ofValues_eq_ok_iff.mp made, Distinct.mem_ofList]

/-! ## Equality -/

/-- Response types are the same when they have the same values, in any order. -/
theorem same_iff {a b : ResponseType} :
    (a == b) = true ↔ ∀ v, v ∈ a.values ↔ v ∈ b.values := by
  have equal : (a == b) = true ↔ a.values.length = b.values.length ∧ a.values ⊆ b.values := by
    change (_ && _) = true ↔ _
    rw [Bool.and_eq_true, beq_iff_eq, List.all_eq_true]
    refine and_congr_right fun _ => forall₂_congr fun v _ => ?_
    exact List.contains_iff_mem
  rw [equal]
  constructor
  · rintro ⟨length, included⟩ v
    have perm : a.values.Perm b.values :=
      (List.subperm_of_subset a.distinct included).perm_of_length_le (Nat.le_of_eq length.symm)
    exact perm.mem_iff
  · intro members
    have perm : a.values.Perm b.values :=
      (List.perm_ext_iff_of_nodup a.distinct b.distinct).mpr members
    exact ⟨perm.length_eq, perm.subset⟩

instance : EquivBEq ResponseType where
  rfl {_} := same_iff.mpr fun _ => Iff.rfl
  symm same := same_iff.mpr fun v => (same_iff.mp same v).symm
  trans same same' := same_iff.mpr fun v => (same_iff.mp same v).trans (same_iff.mp same' v)

theorem contains_iff {t : ResponseType} {v : ResponseValue} :
    t.contains v = true ↔ v ∈ t.values :=
  List.contains_iff_mem

theorem contains_eq_of_same {a b : ResponseType} (same : (a == b) = true) (v : ResponseValue) :
    a.contains v = b.contains v := by
  rw [Bool.eq_iff_iff, contains_iff, contains_iff]
  exact same_iff.mp same v

/-! ## Questions about response types -/

/-- The code flow is that of the one response type with a code alone. -/
theorem isCodeFlow_eq (t : ResponseType) : t.isCodeFlow = (t == codeOnly) := by
  rw [Bool.eq_iff_iff, same_iff, isCodeFlow, beq_iff_eq]
  constructor
  · intro single
    rw [single]
    exact fun _ => Iff.rfl
  · intro members
    exact List.perm_singleton.mp ((List.perm_ext_iff_of_nodup t.distinct (by decide)).mpr members)

/-- Two response types have the same answer to every question. -/
structure Alike (a b : ResponseType) : Prop where
  codeFlow : a.isCodeFlow = b.isCodeFlow
  implicitFlow : a.isImplicitFlow = b.isImplicitFlow
  hybridFlow : a.isHybridFlow = b.isHybridFlow
  openid : a.isOpenid = b.isOpenid
  mode : a.impliedMode = b.impliedMode
  delivery : a.deliversInIdToken = b.deliversInIdToken
  support : ∀ m : ProviderMetadata, m.supportsResponseType a = m.supportsResponseType b

theorem alike_of_same {a b : ResponseType} (same : (a == b) = true) : Alike a b := by
  have value := contains_eq_of_same same
  have tokens : a.returnsToken = b.returnsToken := by
    rw [returnsToken, value, value]
    rfl
  exact {
    codeFlow := by rw [isCodeFlow_eq, isCodeFlow_eq, BEq.congr_left same]
    implicitFlow := by
      rw [isImplicitFlow, value, tokens]
      rfl
    hybridFlow := by
      rw [isHybridFlow, value, tokens]
      rfl
    openid := by
      rw [isOpenid, value, value]
      rfl
    mode := by
      rw [impliedMode, tokens]
      rfl
    delivery := by
      rw [deliversInIdToken, value, value, value]
      rfl
    support := by
      intro m
      unfold ProviderMetadata.supportsResponseType
      congr 1
      funext listed
      exact BEq.congr_right same }

/-- No token is returned for a code alone. -/
theorem returnsToken_of_isCodeFlow {t : ResponseType} (codeFlow : t.isCodeFlow = true) :
    t.returnsToken = false := by
  rw [isCodeFlow, beq_iff_eq] at codeFlow
  rw [returnsToken, contains, contains, codeFlow]
  rfl

/-- The implicit and the hybrid flow are those with a token, and differ in the code. -/
theorem count_flows_le_one (t : ResponseType) :
    [t.isCodeFlow, t.isImplicitFlow, t.isHybridFlow].count true ≤ 1 := by
  cases codeFlow : t.isCodeFlow with
  | true =>
      rw [isImplicitFlow, isHybridFlow, returnsToken_of_isCodeFlow codeFlow, Bool.and_false,
        Bool.and_false]
      decide
  | false =>
      rw [isImplicitFlow, isHybridFlow]
      cases t.contains .code <;> cases t.returnsToken <;> decide

theorem impliedMode_eq_fragment_iff (t : ResponseType) :
    t.impliedMode = .fragment ↔ t.isImplicitFlow = true ∨ t.isHybridFlow = true := by
  rw [impliedMode, isImplicitFlow, isHybridFlow]
  cases t.contains .code <;> cases t.returnsToken <;> decide

/--
Response types are built from lists of values and equal as sets of these.  Equality is an
equivalence, and equal ones have the same answer to every question.  There is at most one flow, and
the fragment is implied in the implicit and the hybrid one.
-/
theorem equality_of_sets (a b c : ResponseType) :
    ofValues a.values = .ok a ∧
    (∀ values, ofValues values = .ok a → ∀ v, v ∈ a.values ↔ v ∈ values) ∧
    (a == a) = true ∧ ((a == b) = true → (b == a) = true) ∧
    ((a == b) = true → (b == c) = true → (a == c) = true) ∧
    ((a == b) = true ↔ ∀ v, v ∈ a.values ↔ v ∈ b.values) ∧
    ((a == b) = true → Alike a b) ∧
    [a.isCodeFlow, a.isImplicitFlow, a.isHybridFlow].count true ≤ 1 ∧
    (a.impliedMode = .fragment ↔ a.isImplicitFlow = true ∨ a.isHybridFlow = true) :=
  ⟨a.ofValues_values, fun _ => mem_values_of_ofValues, BEq.rfl, BEq.symm, BEq.trans, same_iff,
    alike_of_same, a.count_flows_le_one, a.impliedMode_eq_fragment_iff⟩

/-- A code, an access token and an ID token, in this order. -/
def allThree : ResponseType :=
  ⟨[.code, .token, .idToken], by decide, by decide, by decide⟩

/-- The same values in the other order. -/
def allThreeBack : ResponseType :=
  ⟨[.idToken, .token, .code], by decide, by decide, by decide⟩

theorem allThree_alike :
    ofValues [.idToken, .idToken, .token, .code, .token] = .ok allThreeBack ∧
    (allThree == allThreeBack) = true ∧ (allThreeBack == allThree) = true ∧
    Alike allThree allThreeBack ∧ allThree.impliedMode = .fragment := by
  obtain ⟨_, _, _, symm, _, equal_iff, alike, _, fragment_iff⟩ :=
    equality_of_sets allThree allThreeBack allThree
  have same : (allThree == allThreeBack) = true :=
    equal_iff.mpr fun v => (List.reverse_perm allThree.values).mem_iff.symm
  exact ⟨by rfl, same, symm same, alike same, fragment_iff.mpr (.inr (by decide))⟩

end ResponseType

end OpenIdConnect
