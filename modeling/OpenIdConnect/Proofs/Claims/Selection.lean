import Mathlib.Data.List.Perm.Subperm
import OpenIdConnect.Claims.Resolution
import OpenIdConnect.Proofs.Claims.Individual

/-!
# Selections as maps

What each operation on selections does to the request for a claim.  A selection holds one
request for each of its keys, and its requests are valid; the operations keep it so.
-/

namespace OpenIdConnect

namespace Claims

instance : ReflBEq Constraint where
  rfl {c} := by
    cases c with
    | any => rfl
    | value v => exact v.same_self
    | values vs => exact Json.sameItems_self vs

instance : ReflBEq Individual where
  rfl {c} := by
    change (c.key == c.key && c.necessity == c.necessity && c.constraint == c.constraint
      && c.purpose == c.purpose && c.details == c.details) = true
    simp

instance : PartialEquivBEq Constraint where
  symm {c d} same := by
    cases c with
    | any => cases d with
      | any => rfl
      | value w => cases same
      | values ws => cases same
    | value v => cases d with
      | any => cases same
      | value w => exact BEq.symm (α := Json) same
      | values ws => cases same
    | values vs => cases d with
      | any => cases same
      | value w => cases same
      | values ws => exact (Json.sameItems_comm ws vs).trans same
  trans {c d e} first second := by
    cases c with
    | any => cases d with
      | any => exact second
      | value w => cases first
      | values ws => cases first
    | value v => cases d with
      | any => cases first
      | values ws => cases first
      | value w => cases e with
        | any => cases second
        | value u => exact BEq.trans (α := Json) first second
        | values us => cases second
    | values vs => cases d with
      | any => cases first
      | value w => cases first
      | values ws => cases e with
        | any => cases second
        | value u => cases second
        | values us => exact Json.sameItems_trans vs ws us first second

theorem Individual.same_iff {c d : Individual} :
    (c == d) = true ↔ c.key = d.key ∧ c.necessity = d.necessity ∧
      (c.constraint == d.constraint) = true ∧ c.purpose = d.purpose ∧
      (c.details == d.details) = true := by
  change (c.key == d.key && c.necessity == d.necessity && c.constraint == d.constraint
    && c.purpose == d.purpose && c.details == d.details) = true ↔ _
  simp only [Bool.and_eq_true, beq_iff_eq, and_assoc]

instance : PartialEquivBEq Individual where
  symm {c d} same := by
    obtain ⟨key, necessity, constraint, purpose, details⟩ := Individual.same_iff.mp same
    exact Individual.same_iff.mpr
      ⟨key.symm, necessity.symm, BEq.symm constraint, purpose.symm, BEq.symm details⟩
  trans {c d e} first second := by
    obtain ⟨key, necessity, constraint, purpose, details⟩ := Individual.same_iff.mp first
    obtain ⟨key', necessity', constraint', purpose', details'⟩ := Individual.same_iff.mp second
    exact Individual.same_iff.mpr ⟨key.trans key', necessity.trans necessity',
      BEq.trans constraint constraint', purpose.trans purpose', BEq.trans details details'⟩

namespace Selection

/-- The keys of the requested claims. -/
def keys (s : Selection) : List Key :=
  s.claims.map Individual.key

/-! ## Lookup -/

@[simp]
theorem get?_empty (k : Key) : empty.get? k = none := rfl

theorem find?_put (c : Individual) (claims : List Individual) (k : Key) :
    (put c claims).find? (fun d => d.key == k) =
      if k = c.key then some c else claims.find? fun d => d.key == k := by
  induction claims with
  | nil =>
      by_cases same : k = c.key
      · simp [put, same]
      · simp [put, same, Ne.symm same]
  | cons d rest ih =>
      unfold put
      split
      · next replaced =>
          have keyEq : d.key = c.key := eq_of_beq replaced
          by_cases same : k = c.key
          · simp [same]
          · simp [same, keyEq, Ne.symm same]
      · next kept =>
          rw [List.find?_cons, List.find?_cons, ih]
          cases here : d.key == k with
          | false => rfl
          | true =>
              have other : k ≠ c.key := by
                rintro rfl
                exact kept here
              exact (if_neg other).symm

theorem get?_insert (s : Selection) (c : Individual) (k : Key) :
    (s.insert c).get? k = if k = c.key then some c else s.get? k :=
  find?_put c s.claims k

theorem key_of_get? {s : Selection} {k : Key} {c : Individual} (found : s.get? k = some c) :
    c.key = k :=
  eq_of_beq (List.find?_some (p := fun d : Individual => d.key == k) found)

theorem mem_of_get? {s : Selection} {k : Key} {c : Individual} (found : s.get? k = some c) :
    c ∈ s.claims :=
  List.mem_of_find?_eq_some found

/-! ## One request for each key -/

theorem keys_put (c : Individual) (claims : List Individual) :
    (put c claims).map Individual.key =
      if c.key ∈ claims.map Individual.key then claims.map Individual.key
      else claims.map Individual.key ++ [c.key] := by
  induction claims with
  | nil => rfl
  | cons d rest ih =>
      unfold put
      split
      · next replaced =>
          have keyEq : d.key = c.key := eq_of_beq replaced
          simp [keyEq]
      · next kept =>
          have other : c.key ≠ d.key := by
            intro same
            exact kept (by simp [same])
          rw [List.map_cons, ih, List.map_cons]
          simp only [List.mem_cons, other, false_or]
          split <;> rfl

theorem keys_insert (s : Selection) (c : Individual) :
    (s.insert c).keys = if c.key ∈ s.keys then s.keys else s.keys ++ [c.key] :=
  keys_put c s.claims

theorem mem_keys_insert {s : Selection} {c : Individual} {k : Key} :
    k ∈ (s.insert c).keys ↔ k ∈ s.keys ∨ k = c.key := by
  rw [keys_insert]
  split
  · next present =>
      constructor
      · exact .inl
      · rintro (old | rfl)
        · exact old
        · exact present
  · rw [List.mem_append, List.mem_singleton]

theorem nodup_keys_insert {s : Selection} (distinct : s.keys.Nodup) (c : Individual) :
    (s.insert c).keys.Nodup := by
  rw [keys_insert]
  split
  · exact distinct
  · next new =>
      rw [List.nodup_append]
      refine ⟨distinct, by simp, ?_⟩
      intro k member l last same
      rw [List.mem_singleton] at last
      exact new (last ▸ same ▸ member)

theorem nodup_keys_erase {s : Selection} (distinct : s.keys.Nodup) (k : Key) :
    (s.erase k).keys.Nodup :=
  distinct.sublist (List.filter_sublist.map Individual.key)

theorem get?_of_mem {s : Selection} (distinct : s.keys.Nodup) {c : Individual}
    (member : c ∈ s.claims) : s.get? c.key = some c := by
  obtain ⟨claims⟩ := s
  unfold keys at distinct
  unfold get?
  dsimp only at distinct member ⊢
  induction claims with
  | nil => cases member
  | cons d rest ih =>
      rw [List.map_cons, List.nodup_cons] at distinct
      rw [List.find?_cons]
      rcases List.mem_cons.mp member with rfl | later
      · simp
      · have other : d.key ≠ c.key := by
          intro same
          exact distinct.1 (same ▸ List.mem_map_of_mem later)
        simp only [beq_eq_false_iff_ne.mpr other]
        exact ih distinct.2 later

theorem mem_put {c d : Individual} {claims : List Individual} (member : d ∈ put c claims) :
    d = c ∨ d ∈ claims := by
  induction claims with
  | nil => exact .inl (List.mem_singleton.mp member)
  | cons e rest ih =>
      unfold put at member
      split at member
      · rcases List.mem_cons.mp member with same | later
        · exact .inl same
        · exact .inr (List.mem_cons_of_mem _ later)
      · rcases List.mem_cons.mp member with same | later
        · exact .inr (same ▸ List.mem_cons_self)
        · rcases ih later with same | rest
          · exact .inl same
          · exact .inr (List.mem_cons_of_mem _ rest)

theorem forall_claims_insert {P : Individual → Prop} {s : Selection} {c : Individual}
    (each : ∀ d ∈ s.claims, P d) (here : P c) : ∀ d ∈ (s.insert c).claims, P d := by
  intro d member
  rcases mem_put member with rfl | present
  · exact here
  · exact each d present

/-! ## Valid selections -/

/-- A selection as clients and readers make it. -/
structure Valid (s : Selection) : Prop where
  distinct : s.keys.Nodup
  claims : ∀ c ∈ s.claims, c.Valid

theorem valid_empty : empty.Valid := by
  refine ⟨List.nodup_nil, ?_⟩
  intro c impossible
  cases impossible

namespace Valid

variable {s t : Selection}

theorem insert (valid : s.Valid) {c : Individual} (claimValid : c.Valid) :
    (s.insert c).Valid :=
  ⟨nodup_keys_insert valid.distinct c, forall_claims_insert valid.claims claimValid⟩

theorem erase (valid : s.Valid) (k : Key) : (s.erase k).Valid := by
  refine ⟨nodup_keys_erase valid.distinct k, ?_⟩
  intro c member
  exact valid.claims c (List.mem_of_mem_filter member)

theorem insertNames? {names : List String} (valid : s.Valid)
    (made : s.insertNames? names = some t) : t.Valid := by
  induction names generalizing s with
  | nil =>
      cases made
      exact valid
  | cons name names ih =>
      unfold Selection.insertNames? at made
      split at made
      · exact ih valid made
      · obtain ⟨c, named, made⟩ := Option.bind_eq_some_iff.mp made
        exact ih (valid.insert (Individual.valid_named? named)) made

theorem mergeOne (valid : s.Valid) {c : Individual} (claimValid : c.Valid) :
    (s.mergeOne c).Valid := by
  unfold Selection.mergeOne
  cases found : s.get? c.key with
  | none => exact valid.insert claimValid
  | some d => exact valid.insert ((valid.claims d (mem_of_get? found)).merge claimValid)

theorem foldl_mergeOne {claims : List Individual} (valid : s.Valid)
    (claimsValid : ∀ c ∈ claims, c.Valid) : (claims.foldl Selection.mergeOne s).Valid := by
  induction claims generalizing s with
  | nil => exact valid
  | cons c claims ih =>
      obtain ⟨here, others⟩ := List.forall_mem_cons.mp claimsValid
      exact ih (valid.mergeOne here) others

theorem merge (valid : s.Valid) (otherValid : t.Valid) : (s.merge t).Valid :=
  valid.foldl_mergeOne otherValid.claims

theorem ofScope? {scope : Scope} {defined : ScopeClaims}
    (made : Selection.ofScope? scope defined = some t) : t.Valid :=
  valid_empty.insertNames? made

end Valid

/-! ## Names and merging -/

theorem isEmpty_insert (s : Selection) (c : Individual) : (s.insert c).isEmpty = false := by
  obtain ⟨claims⟩ := s
  cases claims with
  | nil => rfl
  | cons d rest =>
      unfold insert isEmpty put
      split <;> rfl

theorem isEmpty_merge {s : Selection} (asks : s.isEmpty = false) (t : Selection) :
    (s.merge t).isEmpty = false := by
  unfold merge
  generalize t.claims = claims
  induction claims generalizing s with
  | nil => exact asks
  | cons c claims ih =>
      refine ih ?_
      unfold mergeOne
      split <;> exact isEmpty_insert _ _

/-- The request for a claim that a list of names amounts to. -/
def implied (names : List String) (k : Key) : Option Individual :=
  if k.tag = none ∧ k.name ∈ names then some (.ofKey k) else none

theorem implied_nil (k : Key) : implied [] k = none := by
  simp [implied]

theorem implied_cons (name : String) (names : List String) (k : Key) :
    implied (name :: names) k =
      if k = ⟨name, none⟩ then some (.ofKey k) else implied names k := by
  unfold implied
  by_cases same : k = ⟨name, none⟩
  · simp [same]
  · have other : k.tag = none → k.name ≠ name := by
      intro untagged named
      apply same
      rw [← named, ← untagged]
    rw [if_neg same]
    congr 1
    simp only [eq_iff_iff, and_congr_right_iff, List.mem_cons]
    intro untagged
    simp [other untagged]

/-- Names add voluntary requests for the claims that are not requested without a tag yet. -/
theorem get?_insertNames? {s t : Selection} {names : List String}
    (made : s.insertNames? names = some t) (k : Key) :
    t.get? k = (s.get? k).or (implied names k) := by
  induction names generalizing s with
  | nil =>
      cases made
      rw [implied_nil, Option.or_none]
  | cons name names ih =>
      rw [implied_cons]
      unfold insertNames? at made
      split at made
      · next present =>
          rw [ih made]
          split
          · next same =>
              obtain ⟨c, found⟩ := Option.isSome_iff_exists.mp present
              rw [same, found]
              rfl
          · rfl
      · next absent =>
          obtain ⟨c, named, made⟩ := Option.bind_eq_some_iff.mp made
          rw [ih made, get?_insert, (Individual.named?_eq_some_iff.mp named).2]
          change (if k = Key.mk name none then _ else s.get? k).or _ = _
          split
          · next same =>
              rw [same, Option.not_isSome_iff_eq_none.mp absent]
              rfl
          · rfl

theorem exists_insertNames? (s : Selection) {names : List String}
    (named : ∀ name ∈ names, name ≠ "") : ∃ t, s.insertNames? names = some t := by
  induction names generalizing s with
  | nil => exact ⟨s, rfl⟩
  | cons name names ih =>
      obtain ⟨here, others⟩ := List.forall_mem_cons.mp named
      unfold insertNames?
      split
      · exact ih s others
      · have nonempty : name.isEmpty = false := by simpa using here
        simp only [Individual.named?, nonempty, Bool.false_eq_true, if_false, Option.bind_some]
        exact ih _ others

theorem get?_mergeOne (s : Selection) (c : Individual) (k : Key) :
    (s.mergeOne c).get? k =
      if k = c.key then some (((s.get? k).map fun d => d.merge c).getD c) else s.get? k := by
  unfold mergeOne
  cases found : s.get? c.key with
  | none =>
      rw [get?_insert]
      split
      · next same => rw [same, found]; rfl
      · rfl
  | some d =>
      rw [get?_insert]
      change (if k = d.key then _ else _) = _
      rw [key_of_get? found]
      split
      · next same => rw [same, found]; rfl
      · rfl

/-- Where both selections hold a request for a claim, these are merged. -/
theorem get?_merge (s : Selection) {t : Selection} (distinct : t.keys.Nodup) (k : Key) :
    (s.merge t).get? k =
      match t.get? k with
      | some c => some (((s.get? k).map fun d => d.merge c).getD c)
      | none => s.get? k := by
  obtain ⟨claims⟩ := t
  unfold keys at distinct
  unfold merge
  dsimp only at distinct ⊢
  induction claims generalizing s with
  | nil => rfl
  | cons c rest ih =>
      rw [List.map_cons, List.nodup_cons] at distinct
      rw [List.foldl_cons, ih _ distinct.2, get?_mergeOne]
      unfold get?
      rw [List.find?_cons]
      by_cases same : k = c.key
      · have absent : rest.find? (fun d => d.key == k) = none := by
          refine List.find?_eq_none.mpr ?_
          intro d member twice
          rw [same] at twice
          exact distinct.1 (eq_of_beq twice ▸ List.mem_map_of_mem member)
        have here : (c.key == k) = true := by simp [same]
        simp only [absent, here, if_pos same]
      · have other : (c.key == k) = false := by simpa using Ne.symm same
        simp only [other, if_neg same]

theorem get?_merge_eq_merge (s : Selection) {t : Selection} (distinct : t.keys.Nodup) (k : Key) :
    (s.merge t).get? k = Option.merge Individual.merge (s.get? k) (t.get? k) := by
  rw [get?_merge s distinct]
  cases t.get? k <;> cases s.get? k <;> rfl

theorem mem_keys_mergeOne {s : Selection} {c : Individual} {k : Key} :
    k ∈ (s.mergeOne c).keys ↔ k ∈ s.keys ∨ k = c.key := by
  rw [mergeOne]
  cases found : s.get? c.key with
  | none => exact mem_keys_insert
  | some d =>
      rw [← key_of_get? found]
      exact mem_keys_insert

/-- A merged selection is for the claims of both, whether or not their keys are distinct. -/
theorem mem_keys_merge {s t : Selection} {k : Key} :
    k ∈ (s.merge t).keys ↔ k ∈ s.keys ∨ k ∈ t.keys := by
  obtain ⟨claims⟩ := t
  change k ∈ (claims.foldl mergeOne s).keys ↔ k ∈ s.keys ∨ k ∈ claims.map Individual.key
  induction claims generalizing s with
  | nil => exact (or_iff_left List.not_mem_nil).symm
  | cons c rest ih =>
      rw [List.foldl_cons, ih, mem_keys_mergeOne, or_assoc]
      exact or_congr_right List.mem_cons.symm

end Selection

end Claims

end OpenIdConnect
