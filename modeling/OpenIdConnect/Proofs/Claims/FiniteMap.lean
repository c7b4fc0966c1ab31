import Mathlib.Data.Finmap
import OpenIdConnect.Proofs.Claims.Reachable

/-!
# Selections are finite maps

A selection stands for the finite map that sends the key of each of its requests to the request.
Every operation on selections is the one on maps, and two selections are the same exactly when
their maps are: the order in which requests came does not show.
-/

namespace OpenIdConnect

namespace Claims

/-- The finite maps from claims to requests for them. -/
abbrev RequestMap := Finmap fun _ : Key => Individual

/-- Two maps request the same claims, and the same of each of them. -/
def RequestMap.Same (m n : RequestMap) : Prop :=
  ∀ k, (m.lookup k == n.lookup k) = true

theorem isSome_of_same {a b : Option Individual} (same : (a == b) = true) :
    a.isSome = b.isSome := by
  cases a <;> cases b <;> first | rfl | cases same

namespace Selection

/-- A request under its key. -/
def keyed (c : Individual) : Sigma fun _ : Key => Individual :=
  ⟨c.key, c⟩

/-- The map that sends the key of each request to the request. -/
def toMap (s : Selection) : RequestMap :=
  (s.claims.map keyed).toFinmap

/-! ## Lookup -/

theorem dlookup_keyed (claims : List Individual) (k : Key) :
    (claims.map keyed).dlookup k = claims.find? fun c => c.key == k := by
  induction claims with
  | nil => rfl
  | cons c rest ih =>
      rw [List.map_cons, List.find?_cons]
      by_cases same : c.key = k
      · subst same
        rw [beq_self_eq_true]
        exact List.dlookup_cons_eq (β := fun _ => Individual) _ c.key c
      · rw [beq_eq_false_iff_ne.mpr same]
        exact (List.dlookup_cons_ne _ (keyed c) (Ne.symm same)).trans ih

theorem lookup_toMap (s : Selection) (k : Key) : s.toMap.lookup k = s.get? k := by
  rw [toMap, Finmap.dlookup_list_toFinmap]
  exact dlookup_keyed s.claims k

theorem get?_eq_some_iff {s : Selection} (distinct : s.keys.Nodup) {k : Key} {c : Individual} :
    s.get? k = some c ↔ c ∈ s.claims ∧ c.key = k := by
  constructor
  · intro found
    exact ⟨mem_of_get? found, key_of_get? found⟩
  · rintro ⟨member, rfl⟩
    exact get?_of_mem distinct member

theorem get?_erase (s : Selection) (k l : Key) :
    (s.erase k).get? l = if l = k then none else s.get? l := by
  change (s.claims.filter fun c => c.key != k).find? (fun c => c.key == l) = _
  rw [List.find?_filter]
  split
  · next same =>
      subst same
      refine List.find?_eq_none.mpr ?_
      intro c _ both
      simp at both
  · next other =>
      refine congrArg (fun p => s.claims.find? p) (funext fun c => ?_)
      by_cases here : c.key = l
      · simp [here, other]
      · simp [here]

/-! ## Operations -/

theorem toMap_insert (s : Selection) (c : Individual) :
    (s.insert c).toMap = s.toMap.insert c.key c := by
  apply Finmap.ext_lookup
  intro k
  rw [lookup_toMap, get?_insert]
  split
  · next same =>
      subst same
      exact (Finmap.lookup_insert s.toMap).symm
  · next other => rw [Finmap.lookup_insert_of_ne _ other, lookup_toMap]

theorem toMap_erase (s : Selection) (k : Key) : (s.erase k).toMap = s.toMap.erase k := by
  apply Finmap.ext_lookup
  intro l
  rw [lookup_toMap, get?_erase]
  split
  · next same =>
      subst same
      exact (Finmap.lookup_erase l s.toMap).symm
  · next other => rw [Finmap.lookup_erase_ne other, lookup_toMap]

/-- Names are new requests where the map has none for them. -/
theorem exists_toMap_insertNames? (s : Selection) {names : List String}
    (named : ∀ name ∈ names, name ≠ "") :
    ∃ t, s.insertNames? names = some t ∧
      ∀ k, t.toMap.lookup k = (s.toMap.lookup k).or (implied names k) := by
  obtain ⟨t, made⟩ := exists_insertNames? s named
  refine ⟨t, made, ?_⟩
  intro k
  rw [lookup_toMap, lookup_toMap]
  exact get?_insertNames? made k

/-! ## Size -/

theorem mem_keys_iff (s : Selection) (k : Key) : k ∈ s.keys ↔ (s.get? k).isSome := by
  rw [get?, List.find?_isSome, keys, List.mem_map]
  simp only [beq_iff_eq]

theorem keys_toMap (s : Selection) : s.toMap.keys = s.keys.toFinset := by
  apply Finset.ext
  intro k
  rw [Finmap.mem_keys, ← Finmap.lookup_isSome, lookup_toMap, List.mem_toFinset, mem_keys_iff]

theorem size_eq_card {s : Selection} (distinct : s.keys.Nodup) : s.size = s.toMap.keys.card := by
  rw [keys_toMap, List.toFinset_card_of_nodup distinct]
  exact (List.length_map Individual.key).symm

theorem isEmpty_iff (s : Selection) : s.isEmpty = true ↔ s.toMap = ∅ := by
  obtain ⟨claims⟩ := s
  cases claims with
  | nil => exact ⟨fun _ => rfl, fun _ => rfl⟩
  | cons c rest =>
      have here : (toMap ⟨c :: rest⟩).lookup c.key = some c := by
        rw [lookup_toMap, get?, List.find?_cons, beq_self_eq_true]
      constructor
      · intro impossible
        cases impossible
      · intro nothing
        rw [nothing] at here
        cases here

/-! ## Sameness -/

/-- Selections are the same exactly when their maps are. -/
theorem same_iff_toMap {s t : Selection} (distinct : s.keys.Nodup) (distinct' : t.keys.Nodup) :
    (s == t) = true ↔ s.toMap.Same t.toMap := by
  constructor
  · intro same k
    obtain ⟨_, found⟩ := same_iff.mp same
    have perm := keys_perm_of_same distinct same
    rw [lookup_toMap, lookup_toMap]
    cases here : s.get? k with
    | some c =>
        obtain ⟨d, there, sameRequest⟩ := found c (mem_of_get? here)
        rw [key_of_get? here] at there
        rw [there]
        exact BEq.symm (α := Individual) sameRequest
    | none =>
        have absent : k ∉ s.keys := by
          rw [mem_keys_iff, here]
          exact Bool.false_ne_true
        have absent' : ¬(t.get? k).isSome := by
          rw [← mem_keys_iff]
          exact fun member => absent (perm.symm.subset member)
        rw [Option.not_isSome_iff_eq_none.mp absent']
        rfl
  · intro same
    have perm : s.keys.Perm t.keys := by
      refine (List.perm_ext_iff_of_nodup distinct distinct').mpr ?_
      intro k
      have agree := same k
      rw [mem_keys_iff, mem_keys_iff, ← lookup_toMap, ← lookup_toMap, isSome_of_same agree]
    refine same_iff.mpr ⟨?_, ?_⟩
    · have lengths := perm.length_eq
      rw [keys, keys, List.length_map, List.length_map] at lengths
      exact lengths
    · intro c member
      have agree := same c.key
      rw [lookup_toMap, lookup_toMap, get?_of_mem distinct member] at agree
      cases there : t.get? c.key with
      | none =>
          rw [there] at agree
          cases agree
      | some d =>
          rw [there] at agree
          exact ⟨d, rfl, BEq.symm (α := Individual) agree⟩

/-! ## Selections that can be made -/

/-- The operations on a selection are those on its map. -/
structure ActsAsMap (s : Selection) : Prop where
  entries : ∀ k c, s.toMap.lookup k = some c ↔ c ∈ s.claims ∧ c.key = k
  lookup : ∀ k, s.get? k = s.toMap.lookup k
  insert : ∀ c, (s.insert c).toMap = s.toMap.insert c.key c
  erase : ∀ k, (s.erase k).toMap = s.toMap.erase k
  variants : ∀ name tag,
    (s.erase ⟨name, none⟩).get? ⟨name, some tag⟩ = s.get? ⟨name, some tag⟩
  names : ∀ names, (∀ name ∈ names, name ≠ "") → ∃ t, s.insertNames? names = some t ∧
    ∀ k, t.toMap.lookup k = (s.toMap.lookup k).or (implied names k)
  size : s.size = s.toMap.keys.card
  isEmpty : s.isEmpty = true ↔ s.toMap = ∅

theorem actsAsMap_of_distinct {s : Selection} (distinct : s.keys.Nodup) : s.ActsAsMap where
  entries := by
    intro k c
    rw [lookup_toMap]
    exact get?_eq_some_iff distinct
  lookup := by
    intro k
    exact (lookup_toMap s k).symm
  insert := toMap_insert s
  erase := toMap_erase s
  variants := by
    intro name tag
    rw [get?_erase, if_neg]
    intro same
    cases congrArg Key.tag same
  names := by
    intro names named
    exact exists_toMap_insertNames? s named
  size := size_eq_card distinct
  isEmpty := isEmpty_iff s

/-- Sameness of selections that can be made is an equivalence, as sameness of maps is. -/
theorem equivalence_same :
    Equivalence fun s t : { s : Selection // s.Reachable } => (s.val == t.val) = true := by
  have byMap (s t : { s : Selection // s.Reachable }) :
      (s.val == t.val) = true ↔ s.val.toMap.Same t.val.toMap :=
    same_iff_toMap s.property.valid.distinct t.property.valid.distinct
  constructor
  · intro s
    exact (byMap s s).mpr fun k => beq_self_eq_true _
  · intro s t same
    exact (byMap t s).mpr fun k => BEq.symm ((byMap s t).mp same k)
  · intro s t u first second
    exact (byMap s u).mpr fun k => BEq.trans ((byMap s t).mp first k) ((byMap t u).mp second k)

/--
A selection that can be made is a finite map.  Two of them are the same exactly when they are so as
maps, whatever the order in which their requests stand.
-/
theorem actsAsMap_of_reachable :
    (∀ s : Selection, s.Reachable → s.ActsAsMap) ∧
    (∀ s t : Selection, s.Reachable → t.Reachable →
      ((s == t) = true ↔ s.toMap.Same t.toMap) ∧ (s.claims.Perm t.claims → (s == t) = true)) ∧
    Equivalence fun s t : { s : Selection // s.Reachable } => (s.val == t.val) = true := by
  refine ⟨?_, ?_, equivalence_same⟩
  · intro s reachable
    exact actsAsMap_of_distinct reachable.valid.distinct
  · intro s t reachable reachable'
    have distinct := reachable'.valid.distinct
    exact ⟨same_iff_toMap reachable.valid.distinct distinct, same_of_perm distinct⟩

/-- The requests for a name and for its German variant, in this order or in the other. -/
def nameAndVariant (plainFirst : Bool) : Selection :=
  let plain : Individual := .ofKey ⟨"name", none⟩
  let german : Individual := .ofKey ⟨"name", some ⟨"de"⟩⟩
  ofList (if plainFirst then [plain, german] else [german, plain])

theorem reachable_nameAndVariant (plainFirst : Bool) : (nameAndVariant plainFirst).Reachable := by
  have plain : Individual.parse "name" .null = .ok (.ofKey ⟨"name", none⟩) := rfl
  have german : Individual.parse "name#de" .null = .ok (.ofKey ⟨"name", some ⟨"de"⟩⟩) := rfl
  apply Reachable.foldl_insert .empty
  cases plainFirst with
  | true => simp [Individual.Reachable.parse plain, Individual.Reachable.parse german]
  | false => simp [Individual.Reachable.parse plain, Individual.Reachable.parse german]

theorem nameAndVariant_unordered :
    (nameAndVariant true == nameAndVariant false) = true ∧
      (nameAndVariant true).toMap.keys.card = 2 ∧
      ((nameAndVariant true).erase ⟨"name", none⟩).toMap.lookup ⟨"name", some ⟨"de"⟩⟩ =
        some (.ofKey ⟨"name", some ⟨"de"⟩⟩) ∧
      ∃ t, (nameAndVariant true).insertNames? ["name", "email"] = some t ∧
        t.toMap.lookup ⟨"email", none⟩ = some (.ofKey ⟨"email", none⟩) := by
  obtain ⟨actsAsMap, same, _⟩ := actsAsMap_of_reachable
  have reachable := reachable_nameAndVariant
  have acts := actsAsMap _ (reachable true)
  refine ⟨?_, acts.size.symm, ?_, ?_⟩
  · exact (same _ _ (reachable true) (reachable false)).2 (.swap _ _ _)
  · rw [acts.erase, Finmap.lookup_erase_ne (by decide), ← acts.lookup]
    rfl
  · obtain ⟨t, made, lookup⟩ := acts.names ["name", "email"] (by decide)
    refine ⟨t, made, ?_⟩
    rw [lookup, ← acts.lookup]
    rfl

end Selection

end Claims

end OpenIdConnect
