import Mathlib.Data.List.Nodup
import OpenIdConnect.Proofs.Claims.Selection
import OpenIdConnect.Proofs.Outcome

/-!
# Selections, written and read

Each request of a selection is written as one member, named by the text of its key.  Reading
gives the selection back when every such text writes its key and none is the member that is kept
for verified claims; no other selection is ever read.
-/

namespace OpenIdConnect

namespace Claims

/-- An untagged claim is not named like the member for verified claims or like a variant. -/
def Key.Unambiguous (k : Key) : Prop :=
  k.tag = none → k.name ≠ Selection.verifiedMember ∧ ¬IsVariant k.name

namespace Key

theorem unambiguous_ofText {text : String} (other : text ≠ Selection.verifiedMember) :
    (ofText text).Unambiguous := by
  intro untagged
  have plain := not_isVariant_of_untagged untagged
  rw [ofText_plain plain]
  exact ⟨other, plain⟩

theorem Unambiguous.ofText_text {k : Key} (unambiguous : k.Unambiguous) (valid : k.Valid) :
    ofText k.text = k :=
  valid.ofText_text fun untagged => (unambiguous untagged).2

/-- The member for verified claims is the text of one key only, since it holds no number sign. -/
theorem text_eq_verifiedMember_iff {k : Key} :
    k.text = Selection.verifiedMember ↔ k = ⟨Selection.verifiedMember, none⟩ := by
  obtain ⟨name, tag⟩ := k
  cases tag with
  | none => exact ⟨congrArg (Key.mk · none), congrArg Key.name⟩
  | some tag =>
      refine iff_of_false ?_ (fun same => nomatch congrArg Key.tag same)
      intro same
      have sign : '#' ∈ (text ⟨name, some tag⟩).toList := numberSign_mem_text
      have plain : '#' ∉ Selection.verifiedMember.toList := by decide
      rw [same] at sign
      exact plain sign

theorem Unambiguous.text_ne_verifiedMember {k : Key} (unambiguous : k.Unambiguous) :
    k.text ≠ Selection.verifiedMember := by
  intro same
  cases text_eq_verifiedMember_iff.mp same
  exact (unambiguous rfl).1 rfl

end Key

namespace Selection

/-- Every key can be told from its text. -/
def Unambiguous (s : Selection) : Prop :=
  ∀ c ∈ s.claims, c.key.Unambiguous

/-! ## Sameness -/

theorem same_iff {s t : Selection} :
    (s == t) = true ↔
      s.size = t.size ∧ ∀ c ∈ s.claims, ∃ d, t.get? c.key = some d ∧ (d == c) = true := by
  change (s.size == t.size && s.claims.all _) = true ↔ _
  rw [Bool.and_eq_true, beq_iff_eq, List.all_eq_true]
  refine and_congr_right fun _ => forall₂_congr fun c _ => ?_
  cases t.get? c.key with
  | none => simp
  | some d => simp

/-- Selections that hold the same requests are the same, whatever the order. -/
theorem same_of_perm {s t : Selection} (distinct : t.keys.Nodup)
    (perm : s.claims.Perm t.claims) : (s == t) = true := by
  refine same_iff.mpr ⟨perm.length_eq, ?_⟩
  intro c member
  exact ⟨c, get?_of_mem distinct (perm.subset member), beq_self_eq_true c⟩

/-- The same selections request the same claims. -/
theorem keys_perm_of_same {s t : Selection} (distinct : s.keys.Nodup) (same : (s == t) = true) :
    s.keys.Perm t.keys := by
  obtain ⟨size, found⟩ := same_iff.mp same
  have included : s.keys ⊆ t.keys := by
    intro k member
    obtain ⟨c, present, rfl⟩ := List.mem_map.mp member
    obtain ⟨d, lookup, _⟩ := found c present
    exact List.mem_map.mpr ⟨d, mem_of_get? lookup, key_of_get? lookup⟩
  refine (List.subperm_of_subset distinct included).perm_of_length_le ?_
  rw [keys, keys, List.length_map, List.length_map]
  exact Nat.le_of_eq size.symm

theorem unambiguous_iff_keys {s : Selection} :
    s.Unambiguous ↔ ∀ k ∈ s.keys, k.Unambiguous :=
  List.forall_mem_map.symm

theorem Unambiguous.of_same {s t : Selection} (unambiguous : s.Unambiguous)
    (distinct : s.keys.Nodup) (same : (s == t) = true) : t.Unambiguous := by
  rw [unambiguous_iff_keys] at unambiguous ⊢
  intro k member
  exact unambiguous k ((keys_perm_of_same distinct same).symm.subset member)

/-! ## Reading -/

/-- The members of a claims object that stand for claims. -/
def claimMembers (members : List (String × Json)) : List (String × Json) :=
  members.filter fun m => m.1 != verifiedMember

theorem mem_claimMembers_iff {o : Object} {name : String} {spec : Json} :
    (name, spec) ∈ claimMembers o.members ↔ o.get? name = some spec ∧ name ≠ verifiedMember := by
  unfold claimMembers
  rw [List.mem_filter, Object.mem_members_iff, bne_iff_ne]

/-- The members for claims are read one by one, and the requests inserted in their order. -/
theorem parseMembers_eq_ok {s t : Selection} {members : List (String × Json)} :
    parseMembers s members = .ok t ↔
      ∃ claims : List Individual,
        ((claimMembers members).map fun m => Individual.parse m.1 m.2) = claims.map .ok ∧
          claims.foldl insert s = t := by
  induction members generalizing s with
  | nil =>
      constructor
      · intro done
        cases done
        exact ⟨[], rfl, rfl⟩
      · rintro ⟨claims, agree, rfl⟩
        cases claims with
        | nil => rfl
        | cons c claims => cases agree
  | cons head rest ih =>
      obtain ⟨name, spec⟩ := head
      unfold parseMembers
      by_cases verified : name = verifiedMember
      · rw [if_pos verified, ih]
        simp [claimMembers, verified]
      · have kept : claimMembers ((name, spec) :: rest) = (name, spec) :: claimMembers rest := by
          simp [claimMembers, verified]
        rw [if_neg verified, Outcome.bind_eq_ok, kept, List.map_cons]
        constructor
        · rintro ⟨c, first, others⟩
          obtain ⟨claims, agree, done⟩ := ih.mp others
          refine ⟨c :: claims, ?_, done⟩
          rw [first, agree]
          rfl
        · rintro ⟨claims, agree, done⟩
          cases claims with
          | nil => cases agree
          | cons c claims =>
              obtain ⟨first, others⟩ := List.cons.inj agree
              exact ⟨c, first, ih.mpr ⟨claims, others, done⟩⟩

theorem Valid.foldl_insert {s : Selection} {claims : List Individual} (valid : s.Valid)
    (claimsValid : ∀ c ∈ claims, c.Valid) : (claims.foldl Selection.insert s).Valid := by
  induction claims generalizing s with
  | nil => exact valid
  | cons c claims ih =>
      obtain ⟨here, others⟩ := List.forall_mem_cons.mp claimsValid
      exact ih (valid.insert here) others

theorem mem_foldl_insert {s : Selection} {claims : List Individual} {c : Individual}
    (member : c ∈ (claims.foldl insert s).claims) : c ∈ s.claims ∨ c ∈ claims := by
  induction claims generalizing s with
  | nil => exact .inl member
  | cons d claims ih =>
      rcases ih member with before | later
      · rcases mem_put before with rfl | old
        · exact .inr List.mem_cons_self
        · exact .inl old
      · exact .inr (List.mem_cons_of_mem _ later)

/-- What is read is valid, and can be told from its written form. -/
theorem valid_of_parse {o : Object} {s : Selection} (read : parse o = .ok s) :
    s.Valid ∧ s.Unambiguous := by
  obtain ⟨claims, agree, rfl⟩ := parseMembers_eq_ok.mp read
  constructor
  · refine valid_empty.foldl_insert ?_
    intro c member
    obtain ⟨m, _, parsed⟩ := Outcome.exists_item_of_mem agree member
    exact (Individual.valid_of_parse parsed).1
  · intro c member
    rcases mem_foldl_insert member with impossible | present
    · cases impossible
    · obtain ⟨m, kept, parsed⟩ := Outcome.exists_item_of_mem agree present
      rw [(Individual.valid_of_parse parsed).2.2]
      apply Key.unambiguous_ofText
      exact (mem_claimMembers_iff.mp kept).2

/-! ## Reading what is written -/

theorem put_of_new {c : Individual} {claims : List Individual}
    (new : ∀ d ∈ claims, (d.key == c.key) = false) : put c claims = claims ++ [c] := by
  induction claims with
  | nil => rfl
  | cons d rest ih =>
      obtain ⟨here, others⟩ := List.forall_mem_cons.mp new
      unfold put
      rw [here, ih others]
      rfl

theorem claims_foldl_insert {s : Selection} {claims : List Individual}
    (distinct : ((s.claims ++ claims).map Individual.key).Nodup) :
    (claims.foldl insert s).claims = s.claims ++ claims := by
  induction claims generalizing s with
  | nil => simp
  | cons c claims ih =>
      have new : ∀ d ∈ s.claims, (d.key == c.key) = false := by
        intro d member
        rw [List.map_append, List.nodup_append] at distinct
        refine beq_eq_false_iff_ne.mpr ?_
        exact distinct.2.2 _ (List.mem_map_of_mem member) _ (by simp)
      have added : (s.insert c).claims = s.claims ++ [c] := put_of_new new
      rw [List.foldl_cons, ih, added, List.append_assoc]
      · rfl
      · rw [added, List.append_assoc]
        exact distinct

namespace Valid

variable {s : Selection}

theorem nodup_texts (valid : s.Valid) (unambiguous : s.Unambiguous) :
    (s.claims.map fun c => c.key.text).Nodup := by
  have readBack : (s.claims.map fun c => c.key.text).map Key.ofText = s.keys := by
    rw [List.map_map]
    refine List.map_congr_left fun c member => ?_
    exact (unambiguous c member).ofText_text (valid.claims c member).key
  refine List.Nodup.of_map Key.ofText ?_
  rw [readBack]
  exact valid.distinct

theorem toObject_perm (valid : s.Valid) (unambiguous : s.Unambiguous) :
    s.toObject.members.Perm (s.claims.map fun c => (c.key.text, c.spec)) := by
  refine Object.ofList_perm ?_
  rw [List.map_map]
  exact valid.nodup_texts unambiguous

/-- No claim is written in the place of the verified claims. -/
theorem get?_verifiedMember (valid : s.Valid) (unambiguous : s.Unambiguous) :
    s.toObject.get? verifiedMember = none := by
  cases found : s.toObject.get? verifiedMember with
  | none => rfl
  | some v =>
      have member := (valid.toObject_perm unambiguous).subset (Object.mem_members_iff.mpr found)
      obtain ⟨c, present, same⟩ := List.mem_map.mp member
      have text : c.key.text = verifiedMember := congrArg Prod.fst same
      exact absurd text (unambiguous c present).text_ne_verifiedMember

/-- A selection is read from its written form, whatever is said about verified claims beside it. -/
theorem parse_of_erase (valid : s.Valid) (unambiguous : s.Unambiguous) {o : Object}
    (written : o.erase verifiedMember = s.toObject) :
    ∃ t, parse o = .ok t ∧ (t == s) = true := by
  have perm : (claimMembers o.members).Perm (s.claims.map fun c => (c.key.text, c.spec)) := by
    change (o.erase verifiedMember).members.Perm _
    rw [written]
    exact valid.toObject_perm unambiguous
  have eachRead : (s.claims.map fun c => (c.key.text, c.spec)).map
      (fun m => Individual.parse m.1 m.2) = s.claims.map .ok := by
    rw [List.map_map]
    refine List.map_congr_left fun c member => ?_
    have claimValid := valid.claims c member
    have read := Individual.parse_spec claimValid claimValid.key.text_ne_empty
    rw [(unambiguous c member).ofText_text claimValid.key] at read
    exact read
  have results := perm.map fun m => Individual.parse m.1 m.2
  rw [eachRead] at results
  obtain ⟨claims, agree, reordered⟩ := Outcome.exists_ok_of_perm results
  have distinct : ((empty.claims ++ claims).map Individual.key).Nodup :=
    (reordered.map Individual.key).nodup_iff.mpr valid.distinct
  refine ⟨claims.foldl Selection.insert empty, parseMembers_eq_ok.mpr ⟨claims, agree, rfl⟩, ?_⟩
  refine same_of_perm valid.distinct ?_
  rw [claims_foldl_insert distinct]
  exact reordered

/-- The written form of a selection is read as the selection. -/
theorem parse_toObject (valid : s.Valid) (unambiguous : s.Unambiguous) :
    ∃ t, parse s.toObject = .ok t ∧ (t == s) = true :=
  valid.parse_of_erase unambiguous
    (Object.erase_of_absent (valid.get?_verifiedMember unambiguous))

end Valid

theorem isEmpty_of_same {s t : Selection} (same : (s == t) = true) : s.isEmpty = t.isEmpty := by
  have size : s.claims.length = t.claims.length := (same_iff.mp same).1
  unfold Selection.isEmpty
  rw [Bool.eq_iff_iff, List.isEmpty_iff_length_eq_zero, List.isEmpty_iff_length_eq_zero, size]

end Selection

end Claims

end OpenIdConnect
