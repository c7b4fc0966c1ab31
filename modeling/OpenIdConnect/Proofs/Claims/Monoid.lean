import OpenIdConnect.Proofs.Claims.Combination
import OpenIdConnect.Proofs.Claims.Sameness

/-!
# Claims requests form a monoid

Claims requests are combined in any grouping with the same result, the empty request changes nothing
on either side, and the same requests are combined to the same.  All of this is so claim by claim:
of two requests for one claim the greater necessity counts, and whatever the later one says.  A
selection merged with itself is the same selection, and which of two selections comes first does not
show in what is essential.
-/

namespace OpenIdConnect

namespace Claims

/-! ## Two and three requests for one claim -/

namespace Necessity

theorem max_assoc (a b c : Necessity) : (a.max b).max c = a.max (b.max c) := by
  cases a <;> rfl

theorem max_comm (a b : Necessity) : a.max b = b.max a := by
  cases a <;> cases b <;> rfl

theorem max_self (a : Necessity) : a.max a = a := by
  cases a <;> rfl

end Necessity

namespace Constraint

theorem orElse_assoc (a b c : Constraint) : (a.orElse b).orElse c = a.orElse (b.orElse c) := by
  cases b <;> cases c <;> rfl

theorem orElse_self (a : Constraint) : a.orElse a = a := by
  cases a <;> rfl

theorem same_orElse {a b a' b' : Constraint} (first : (a == a') = true)
    (second : (b == b') = true) : (a.orElse b == a'.orElse b') = true := by
  cases b with
  | any =>
      cases b' with
      | any => exact first
      | value w => cases second
      | values ws => cases second
  | value v =>
      cases b' with
      | any => cases second
      | value w => exact second
      | values ws => cases second
  | values vs =>
      cases b' with
      | any => cases second
      | value w => cases second
      | values ws => exact second

end Constraint

namespace Individual

theorem mergeDetails_assoc (a b c : Option Object) :
    mergeDetails (mergeDetails a b) c = mergeDetails a (mergeDetails b c) := by
  cases b with
  | none => cases c <;> rfl
  | some details =>
      cases a with
      | none => cases c <;> rfl
      | some first =>
          cases c with
          | none => rfl
          | some last => exact congrArg some (Object.union_assoc first details last)

theorem mergeDetails_self (a : Option Object) : mergeDetails a a = a := by
  cases a with
  | none => rfl
  | some details => exact congrArg some details.union_self

theorem same_mergeDetails {a b a' b' : Option Object} (first : (a == a') = true)
    (second : (b == b') = true) : (mergeDetails a b == mergeDetails a' b') = true := by
  cases rel_of_same first with
  | none =>
      cases rel_of_same second with
      | none => rfl
      | some more => exact more
  | some details =>
      cases rel_of_same second with
      | none => exact details
      | some more => exact Object.same_union details more

theorem merge_assoc (c d e : Individual) : (c.merge d).merge e = c.merge (d.merge e) := by
  unfold merge
  rw [Necessity.max_assoc, Constraint.orElse_assoc, mergeDetails_assoc, ← Option.or_assoc]

theorem merge_self (c : Individual) : c.merge c = c := by
  unfold merge
  rw [Necessity.max_self, Constraint.orElse_self, mergeDetails_self, Option.or_self]

theorem same_merge {c d c' d' : Individual} (first : (c == c') = true)
    (second : (d == d') = true) : (c.merge d == c'.merge d') = true := by
  obtain ⟨key, necessity, constraint, purpose, details⟩ := same_iff.mp first
  obtain ⟨_, necessity', constraint', purpose', details'⟩ := same_iff.mp second
  refine same_iff.mpr ⟨key, ?_, ?_, ?_, ?_⟩
  · exact congrArg₂ Necessity.max necessity necessity'
  · exact Constraint.same_orElse constraint constraint'
  · exact congrArg₂ (fun p q => q.or p) purpose purpose'
  · exact same_mergeDetails details details'

/-- Lookups that answer the same do so when two and two of them are merged. -/
theorem same_option_merge {c d c' d' : Option Individual} (first : (c == c') = true)
    (second : (d == d') = true) : (c.merge merge d == c'.merge merge d') = true := by
  cases rel_of_same first with
  | none =>
      cases rel_of_same second with
      | none => rfl
      | some other => exact other
  | some own =>
      cases rel_of_same second with
      | none => exact own
      | some other => exact same_merge own other

instance : Std.Associative merge := ⟨merge_assoc⟩

instance : Std.IdempotentOp merge := ⟨merge_self⟩

end Individual

/-! ## Selections -/

namespace Selection

theorem Valid.same_merge_self {s : Selection} (valid : s.Valid) : (s.merge s == s) = true := by
  refine (same_iff_get? (valid.merge valid).distinct valid.distinct).mpr fun k => ?_
  have here : Option.merge Individual.merge (s.get? k) (s.get? k) = s.get? k :=
    Std.IdempotentOp.idempotent _
  rw [get?_merge_eq_merge s valid.distinct, here]
  exact beq_self_eq_true _

/-- What is essential, and what is asked for at all, does not depend on which selection is first. -/
theorem necessity_merge_comm {s t : Selection} (distinct : s.keys.Nodup)
    (distinct' : t.keys.Nodup) (k : Key) :
    ((s.merge t).get? k).map Individual.necessity =
      ((t.merge s).get? k).map Individual.necessity := by
  rw [get?_merge_eq_merge s distinct', get?_merge_eq_merge t distinct]
  cases s.get? k with
  | none => cases t.get? k <;> rfl
  | some c =>
      cases t.get? k with
      | none => rfl
      | some d => exact congrArg some (Necessity.max_comm c.necessity d.necessity)

end Selection

/-! ## Sides and requests -/

theorem Side.Valid.same_add_assoc {a b c : Side} (first : a.Valid) (second : b.Valid)
    (third : c.Valid) : ((a.add b).add c == a.add (b.add c)) = true := by
  have together := second.add third
  refine same_of_claim? ((first.add second).add third) (first.add together) ?_ ?_
  · intro k
    rw [claim?_add_eq_merge third, claim?_add_eq_merge second, claim?_add_eq_merge together,
      claim?_add_eq_merge third]
    exact Std.Associative.assoc _ _ _
  · exact List.append_assoc a.verified b.verified c.verified

/-- Lists of verified claims that are the same stay so with the same behind them. -/
theorem Verified.same_append {vs ws vs' ws' : List Verified} (first : (vs == vs') = true)
    (second : (ws == ws') = true) : (vs ++ ws == vs' ++ ws') = true := by
  induction vs generalizing vs' with
  | nil =>
      cases vs' with
      | nil => exact second
      | cons v' vs' => cases first
  | cons v vs ih =>
      cases vs' with
      | nil => cases first
      | cons v' vs' =>
          obtain ⟨here, rest⟩ := Bool.and_eq_true_iff.mp first
          exact Bool.and_eq_true_iff.mpr ⟨here, ih rest⟩

theorem Side.Valid.same_add {a b a' b' : Side} (left : a.Valid) (right : b.Valid)
    (left' : a'.Valid) (right' : b'.Valid) (first : (a == a') = true)
    (second : (b == b') = true) : (a.add b == a'.add b') = true := by
  obtain ⟨claims, verified⟩ := (same_iff_claim? left left').mp first
  obtain ⟨claims', verified'⟩ := (same_iff_claim? right right').mp second
  refine (same_iff_claim? (left.add right) (left'.add right')).mpr ⟨fun k => ?_, ?_⟩
  · rw [claim?_add_eq_merge right, claim?_add_eq_merge right']
    exact Individual.same_option_merge (claims k) (claims' k)
  · exact Verified.same_append verified verified'

namespace Request

theorem Valid.same_add {a b a' b' : Request} (left : a.Valid) (right : b.Valid)
    (left' : a'.Valid) (right' : b'.Valid) (first : (a == a') = true)
    (second : (b == b') = true) : (a.add b == a'.add b') = true := by
  refine same_iff_side.mpr fun place => ?_
  rw [side_add, side_add]
  exact (left.side place).same_add (right.side place) (left'.side place) (right'.side place)
    (same_iff_side.mp first place) (same_iff_side.mp second place)

theorem Valid.same_add_assoc {a b c : Request} (first : a.Valid) (second : b.Valid)
    (third : c.Valid) : ((a.add b).add c == a.add (b.add c)) = true := by
  refine same_iff_side.mpr fun place => ?_
  iterate 4 rw [side_add]
  exact (first.side place).same_add_assoc (second.side place) (third.side place)

/--
Claims requests that can be made form a monoid: the same requests are combined to the same, in any
grouping, and the empty request is neutral on both sides.  On selections merging is idempotent, and
what is asked for and what of it is essential is the same in either order.
-/
theorem add_forms_monoid :
    (∀ a b a' b' : Request, a.Reachable → b.Reachable → a'.Reachable → b'.Reachable →
      (a == a') = true → (b == b') = true → (a.add b == a'.add b') = true) ∧
    (∀ a b c : Request, a.Reachable → b.Reachable → c.Reachable →
      ((a.add b).add c == a.add (b.add c)) = true) ∧
    (∀ a : Request, a.Reachable → (empty.add a == a) = true ∧ (a.add empty == a) = true) ∧
    (∀ s : Selection, s.Reachable → (s.merge s == s) = true) ∧
    ∀ s t : Selection, s.Reachable → t.Reachable → ∀ k,
      ((s.merge t).get? k).map Individual.necessity =
        ((t.merge s).get? k).map Individual.necessity := by
  refine ⟨?_, ?_, ?_, ?_, ?_⟩
  · intro a b a' b' left right left' right'
    exact left.valid.same_add right.valid left'.valid right'.valid
  · intro a b c first second third
    exact first.valid.same_add_assoc second.valid third.valid
  · intro a reachable
    rw [empty_add, add_empty]
    exact ⟨reachable.valid.same_self, reachable.valid.same_self⟩
  · intro s reachable
    exact reachable.valid.same_merge_self
  · intro s t first second
    exact Selection.necessity_merge_comm first.valid.distinct second.valid.distinct

/-- The essential request for a name. -/
def essentialName : Selection :=
  Selection.empty.insert ((Individual.ofKey ⟨"name", none⟩).setNecessity .essential)

theorem reachable_essentialName : essentialName.Reachable :=
  .insert .empty (.setNecessity _ (.ofName (by decide)))

theorem email_and_name_combined :
    ((essentialEmail.add knownEmail).add emailAndVerifiedName ==
      essentialEmail.add (knownEmail.add emailAndVerifiedName)) = true ∧
    (empty.add emailAndVerifiedName == emailAndVerifiedName) = true ∧
    (essentialName.merge essentialName == essentialName) = true ∧
    (((Selection.nameAndVariant true).merge essentialName).get? ⟨"name", none⟩).map
      Individual.necessity = some .essential := by
  obtain ⟨_, assoc, neutral, idempotent, comm⟩ := add_forms_monoid
  have reachable := reachable_emailAndVerifiedName
  refine ⟨?_, (neutral _ reachable).1, idempotent _ reachable_essentialName, ?_⟩
  · exact assoc _ _ _ reachable_essentialEmail reachable_knownEmail reachable
  · rw [comm _ _ (Selection.reachable_nameAndVariant true) reachable_essentialName]
    rfl

end Request

end Claims

end OpenIdConnect
