import OpenIdConnect.Proofs.Claims.Reading
import OpenIdConnect.Proofs.Claims.Specification

/-!
# What a selection keeps of its members

Members are read one by one, and a later request for a claim takes the place of an earlier one.
Two members of an object are requests for one claim only when they write one language tag in two
ways, as `name#de` and `name#DE` do.  Without such a pair nothing is lost.
-/

namespace OpenIdConnect

namespace Claims

/-- Two texts are variants of one claim in one language, whatever the case of the tags. -/
def SameVariant (a b : String) : Prop :=
  ∃ front suffix suffix' tag, Variant a front suffix tag ∧ Variant b front suffix' tag

/-- Texts write one key only when they are equal or write one language tag in two ways. -/
theorem Key.ofText_eq_ofText_iff {a b : String} :
    ofText a = ofText b ↔ a = b ∨ SameVariant a b := by
  constructor
  · intro same
    by_cases tagged : IsVariant a
    · obtain ⟨front, suffix, tag, variant⟩ := tagged
      rw [ofText_variant variant] at same
      by_cases taggedToo : IsVariant b
      · obtain ⟨front', suffix', tag', variant'⟩ := taggedToo
        rw [ofText_variant variant'] at same
        cases same
        exact .inr ⟨front, suffix, suffix', tag, variant, variant'⟩
      · rw [ofText_plain taggedToo] at same
        cases same
    · rw [ofText_plain tagged] at same
      have untagged : (ofText b).tag = none := by rw [← same]
      rw [ofText_plain (not_isVariant_of_untagged untagged)] at same
      cases same
      exact .inl rfl
  · rintro (rfl | ⟨front, suffix, suffix', tag, variant, variant'⟩)
    · rfl
    · rw [ofText_variant variant, ofText_variant variant']

namespace Selection

/-! ## The last request counts -/

theorem get?_foldl_insert (claims : List Individual) (s : Selection) (k : Key) :
    (claims.foldl insert s).get? k =
      (claims.reverse.find? fun c => c.key == k).or (s.get? k) := by
  induction claims generalizing s with
  | nil => rfl
  | cons c claims ih =>
      rw [List.foldl_cons, ih, get?_insert, List.reverse_cons, List.find?_append, Option.or_assoc]
      congr 1
      by_cases same : k = c.key
      · simp [same]
      · simp [same, Ne.symm same]

/-- The member that the request for a claim comes from: the last one that writes its key. -/
def decisive (members : List (String × Json)) (k : Key) : Option (String × Json) :=
  (claimMembers members).reverse.find? fun m => Key.ofText m.1 == k

theorem mem_of_decisive {members : List (String × Json)} {k : Key} {m : String × Json}
    (last : decisive members k = some m) : m ∈ claimMembers members ∧ Key.ofText m.1 = k := by
  unfold decisive at last
  have key := List.find?_some last
  exact ⟨List.mem_reverse.mp (List.mem_of_find?_eq_some last), eq_of_beq key⟩

theorem find?_of_read {members : List (String × Json)} {claims : List Individual} {k : Key}
    (agree : (members.map fun m => Individual.parse m.1 m.2) = claims.map .ok) :
    claims.find? (fun c => c.key == k) =
      (members.find? fun m => Key.ofText m.1 == k).bind
        fun m => (Individual.parse m.1 m.2).toOption := by
  induction members generalizing claims with
  | nil =>
      cases claims with
      | nil => rfl
      | cons c claims => cases agree
  | cons m members ih =>
      cases claims with
      | nil => cases agree
      | cons c claims =>
          obtain ⟨read, others⟩ := List.cons.inj agree
          dsimp only at read
          rw [List.find?_cons, List.find?_cons, ← (Individual.valid_of_parse read).2.2]
          cases c.key == k with
          | false => exact ih others
          | true =>
              change some c = (Individual.parse m.1 m.2).toOption
              rw [read]
              rfl

/-- Each claim is requested as the last member for it says. -/
theorem get?_of_parse {o : Object} {s : Selection} (read : parse o = .ok s) (k : Key) :
    s.get? k = (decisive o.members k).bind fun m => (Individual.parse m.1 m.2).toOption := by
  obtain ⟨claims, agree, rfl⟩ := parseMembers_eq_ok.mp read
  have reversed : ((claimMembers o.members).reverse.map fun m => Individual.parse m.1 m.2) =
      claims.reverse.map .ok := by
    rw [List.map_reverse, agree, List.map_reverse]
  rw [get?_foldl_insert, get?_empty, Option.or_none, find?_of_read reversed]
  rfl

/-- The request for a claim says what the last member for it specifies, and nothing else. -/
theorem carries_of_decisive {o : Object} {s : Selection} (read : parse o = .ok s) {k : Key}
    {m : String × Json} (last : decisive o.members k = some m) :
    ∃ c p, s.get? k = some c ∧ Individual.specified? m.2 = some p ∧ c.Carries p := by
  obtain ⟨claims, agree, _⟩ := parseMembers_eq_ok.mp read
  obtain ⟨among, _⟩ := mem_of_decisive last
  obtain ⟨c, memberRead⟩ := Outcome.exists_map_eq_ok_iff.mp ⟨claims, agree⟩ m among
  obtain ⟨_, p, specified, _, carries⟩ := Individual.parse_eq_ok_iff.mp memberRead
  refine ⟨c, p, ?_, specified, carries⟩
  rw [get?_of_parse read, last]
  change (Individual.parse m.1 m.2).toOption = some c
  rw [memberRead]
  rfl

/-! ## Distinct keys -/

theorem nodup_keys_foldl_insert {claims : List Individual} {s : Selection}
    (distinct : s.keys.Nodup) : (claims.foldl insert s).keys.Nodup := by
  induction claims generalizing s with
  | nil => exact distinct
  | cons c claims ih => exact ih (nodup_keys_insert distinct c)

theorem mem_keys_foldl_insert {claims : List Individual} {s : Selection} {k : Key} :
    k ∈ (claims.foldl insert s).keys ↔ k ∈ s.keys ∨ k ∈ claims.map Individual.key := by
  induction claims generalizing s with
  | nil => simp
  | cons c claims ih =>
      rw [List.foldl_cons, ih, mem_keys_insert, List.map_cons, List.mem_cons, or_assoc]

/-- All requests are kept exactly when they are for different claims. -/
theorem size_foldl_insert_iff {claims : List Individual} :
    (claims.foldl insert empty).size = claims.length ↔ (claims.map Individual.key).Nodup := by
  constructor
  · intro size
    have kept : (claims.foldl insert empty).keys ⊆ claims.map Individual.key := by
      intro k member
      rcases mem_keys_foldl_insert.mp member with impossible | present
      · cases impossible
      · exact present
    have distinct : (claims.foldl insert empty).keys.Nodup :=
      nodup_keys_foldl_insert List.nodup_nil
    have perm : (claims.foldl insert empty).keys.Perm (claims.map Individual.key) := by
      refine (List.subperm_of_subset distinct kept).perm_of_length_le ?_
      rw [keys, List.length_map, List.length_map]
      exact Nat.le_of_eq size.symm
    exact perm.nodup_iff.mp distinct
  · intro distinct
    have whole : (claims.foldl insert empty).claims = claims :=
      claims_foldl_insert (s := empty) distinct
    exact congrArg List.length whole

theorem keys_of_read {members : List (String × Json)} {claims : List Individual}
    (agree : (members.map fun m => Individual.parse m.1 m.2) = claims.map .ok) :
    claims.map Individual.key = members.map fun m => Key.ofText m.1 := by
  induction members generalizing claims with
  | nil =>
      cases claims with
      | nil => rfl
      | cons c claims => cases agree
  | cons m members ih =>
      cases claims with
      | nil => cases agree
      | cons c claims =>
          obtain ⟨read, others⟩ := List.cons.inj agree
          rw [List.map_cons, List.map_cons, ih others, (Individual.valid_of_parse read).2.2]

/-- Two members of an object ask for one claim, in different ways to write a language tag. -/
def Collides (o : Object) : Prop :=
  ∃ a ∈ claimMembers o.members, ∃ b ∈ claimMembers o.members, a.1 ≠ b.1 ∧ SameVariant a.1 b.1

theorem nodup_texts_iff {o : Object} :
    ((claimMembers o.members).map fun m => Key.ofText m.1).Nodup ↔ ¬Collides o := by
  have names : ((claimMembers o.members).map Prod.fst).Nodup :=
    o.ascending.nodup_names.sublist (List.filter_sublist.map Prod.fst)
  rw [List.nodup_map_iff_inj_on names.of_map]
  constructor
  · rintro injective ⟨a, first, b, second, different, variants⟩
    apply different
    rw [injective a first b second (Key.ofText_eq_ofText_iff.mpr (.inr variants))]
  · intro apart a first b second same
    rcases Key.ofText_eq_ofText_iff.mp same with equal | variants
    · exact List.inj_on_of_nodup_map names first second equal
    · by_contra different
      refine apart ⟨a, first, b, second, ?_, variants⟩
      intro equal
      exact different (List.inj_on_of_nodup_map names first second equal)

/-- Without a collision each member is the last one for its claim. -/
theorem decisive_of_mem {o : Object} (apart : ¬Collides o) {m : String × Json}
    (member : m ∈ claimMembers o.members) : decisive o.members (.ofText m.1) = some m := by
  cases found : decisive o.members (.ofText m.1) with
  | none =>
      have absent := List.find?_eq_none.mp found m (List.mem_reverse.mpr member)
      exact absurd (beq_self_eq_true (Key.ofText m.1)) absent
  | some n =>
      obtain ⟨among, key⟩ := mem_of_decisive found
      rw [List.inj_on_of_nodup_map (nodup_texts_iff.mpr apart) among member key]

/-! ## Nothing lost -/

/-- There is a request for each member, and it says exactly what the member specifies. -/
structure Complete (o : Object) (s : Selection) : Prop where
  size : s.size = (claimMembers o.members).length
  carried : ∀ name spec, o.get? name = some spec → name ≠ verifiedMember →
    ∃ c p, s.get? (.ofText name) = some c ∧ Individual.specified? spec = some p ∧ c.Carries p

theorem size_of_parse_iff {o : Object} {s : Selection} (read : parse o = .ok s) :
    s.size = (claimMembers o.members).length ↔ ¬Collides o := by
  obtain ⟨claims, agree, rfl⟩ := parseMembers_eq_ok.mp read
  have length : claims.length = (claimMembers o.members).length := by
    rw [← List.length_map (f := Except.ok (ε := Fault)), ← agree, List.length_map]
  rw [← length, size_foldl_insert_iff, keys_of_read agree, nodup_texts_iff]

/--
What is requested of a claim is what the last member for it specifies.  So nothing is lost exactly
when no two members are one variant of a claim with the tag in different case.
-/
theorem complete_iff_of_parse {o : Object} {s : Selection} (read : parse o = .ok s) :
    (∀ k m, decisive o.members k = some m →
      ∃ c p, s.get? k = some c ∧ Individual.specified? m.2 = some p ∧ c.Carries p) ∧
    (Complete o s ↔ ¬Collides o) := by
  refine ⟨fun k m last => carries_of_decisive read last, ?_⟩
  constructor
  · intro complete
    exact (size_of_parse_iff read).mp complete.size
  · intro apart
    refine ⟨(size_of_parse_iff read).mpr apart, ?_⟩
    intro name spec present other
    have member := mem_claimMembers_iff.mpr ⟨present, other⟩
    exact carries_of_decisive read (decisive_of_mem apart member)

/-- The members for an essential claim and for a variant of another. -/
def emailAndGermanName : Object :=
  (Object.empty.insert "email" (.object [("essential", .bool true)])).insert "name#de" .null

theorem complete_emailAndGermanName :
    ∃ s, parse emailAndGermanName = .ok s ∧ Complete emailAndGermanName s := by
  refine ⟨_, rfl, ?_⟩
  exact (complete_iff_of_parse rfl).2.mpr (nodup_texts_iff.mp (by decide))

/-- The members for one variant of a claim, with the language tag in upper and in lower case. -/
def germanNameTwice : Object :=
  (Object.empty.insert "name#DE" (.object [("essential", .bool true)])).insert "name#de" .null

/-- An essential request is lost when the claim is requested again with its tag in other case. -/
theorem not_all_complete :
    ¬∀ (o : Object) (s : Selection), parse o = .ok s → Complete o s := by
  intro complete
  have size := (complete germanNameTwice _ rfl).size
  revert size
  decide

end Selection

end Claims

end OpenIdConnect
