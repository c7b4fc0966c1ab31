import OpenIdConnect.Proofs.Claims.Forms
import OpenIdConnect.Proofs.Claims.Parts

/-!
# When the order of requests does not show

An untagged claim can be named like the variant of another claim, and then both have one member in
the written form, where the later request is written over the earlier one.  So claims requests that
are the same are written alike exactly when no two claims that share a member ask for different
things; requests that were read never do.
-/

namespace OpenIdConnect

namespace Claims

/-- The text that two claims share holds a number sign, so it is not that of verified claims. -/
theorem Key.text_ne_verifiedMember_of_shared {k l : Key} (shared : k.text = l.text)
    (different : k ≠ l) : k.text ≠ Selection.verifiedMember := by
  intro verified
  have other : l.text = Selection.verifiedMember := shared ▸ verified
  rw [text_eq_verifiedMember_iff] at verified other
  exact different (verified.trans other.symm)

/-! ## Selections -/

namespace Selection

variable {s t : Selection}

/-- Claims that share a member in the written form are written alike. -/
def Coherent (s : Selection) : Prop :=
  ∀ c ∈ s.claims, ∀ d ∈ s.claims, c.key.text = d.key.text → (c.spec == d.spec) = true

theorem exists_same_of_mem (distinct : t.keys.Nodup)
    (lookups : ∀ k, (s.get? k == t.get? k) = true) {d : Individual} (member : d ∈ t.claims) :
    ∃ c ∈ s.claims, (c == d) = true := by
  have here := lookups d.key
  rw [get?_of_mem distinct member] at here
  cases found : s.get? d.key with
  | none =>
      rw [found] at here
      cases here
  | some c =>
      rw [found] at here
      exact ⟨c, mem_of_get? found, here⟩

theorem text_of_same {c d : Individual} (same : (c == d) = true) : c.key.text = d.key.text :=
  congrArg Key.text (Individual.same_iff.mp same).1

/-- Of the same selections, both have a member for a text or neither. -/
theorem exists_get?_toObject_of_same (distinct : s.keys.Nodup)
    (lookups : ∀ k, (s.get? k == t.get? k) = true) {k : String} {v : Json}
    (found : s.toObject.get? k = some v) : ∃ w, t.toObject.get? k = some w := by
  obtain ⟨c, member, rfl, _⟩ := exists_spec_of_get? found
  obtain ⟨d, present, same⟩ := exists_same_of_mem distinct (fun k => BEq.symm (lookups k)) member
  rw [← text_of_same same]
  exact exists_get?_toObject present

theorem Coherent.same_toObject (coherent : s.Coherent) (distinct : s.keys.Nodup)
    (distinct' : t.keys.Nodup) (same : (s == t) = true) : (s.toObject == t.toObject) = true := by
  have lookups := (same_iff_get? distinct distinct').mp same
  refine Object.same_iff_get?.mpr fun k => ?_
  cases first : s.toObject.get? k with
  | none =>
      cases second : t.toObject.get? k with
      | none => rfl
      | some w =>
          obtain ⟨v, impossible⟩ :=
            exists_get?_toObject_of_same distinct' (fun k => BEq.symm (lookups k)) second
          rw [first] at impossible
          cases impossible
  | some v =>
      obtain ⟨w, second⟩ := exists_get?_toObject_of_same distinct lookups first
      obtain ⟨c, member, rfl, rfl⟩ := exists_spec_of_get? first
      obtain ⟨d, member', text, rfl⟩ := exists_spec_of_get? second
      obtain ⟨d', present, sameRequest⟩ := exists_same_of_mem distinct' lookups member'
      have shared : c.key.text = d'.key.text := text.symm.trans (text_of_same sameRequest).symm
      have own : (c.spec == d'.spec) = true := coherent c member d' present shared
      rw [second]
      exact BEq.trans (α := Json) own (Individual.same_spec sameRequest)

/-- The selection with a request of it moved behind all others. -/
def putLast (s : Selection) (c : Individual) : Selection :=
  (s.erase c.key).insert c

theorem same_putLast (distinct : s.keys.Nodup) {c : Individual} (member : c ∈ s.claims) :
    (s == s.putLast c) = true := by
  refine (same_iff_get? distinct (nodup_keys_insert (nodup_keys_erase distinct _) c)).mpr ?_
  intro k
  rw [get?_insert, get?_erase]
  split
  · next same =>
      rw [same, get?_of_mem distinct member]
      exact beq_self_eq_true _
  · exact beq_self_eq_true _

theorem get?_toObject_putLast (s : Selection) (c : Individual) :
    (s.putLast c).toObject.get? c.key.text = some c.spec := by
  have behind : (s.putLast c).claims = (s.erase c.key).claims ++ [c] := by
    refine put_of_new fun d member => ?_
    have other : (d.key != c.key) = true := (List.mem_filter.mp member).2
    simpa using other
  rw [get?_toObject, behind, List.map_append, List.reverse_append]
  exact List.lookup_cons_self

/-- A selection that is written alike in whatever order is coherent. -/
theorem coherent_of_alike (reachable : s.Reachable)
    (alike : ∀ t : Selection, t.Reachable → (s == t) = true → ∀ k, k ≠ verifiedMember →
      (s.toObject.get? k == t.toObject.get? k) = true) : s.Coherent := by
  have distinct := reachable.valid.distinct
  -- moved behind all others, a request is the one that is written for its text
  have last : ∀ c ∈ s.claims, c.key.text ≠ verifiedMember →
      (s.toObject.get? c.key.text == some c.spec) = true := by
    intro c member other
    have moved := alike (s.putLast c) (.insert (.erase _ reachable) (reachable.claims c member))
      (same_putLast distinct member) c.key.text other
    rwa [get?_toObject_putLast] at moved
  intro c member d member' shared
  by_cases key : c.key = d.key
  · rw [List.inj_on_of_nodup_map distinct member member' key]
    exact beq_self_eq_true _
  · have other := Key.text_ne_verifiedMember_of_shared shared key
    have first := last c member other
    have second := last d member' (shared ▸ other)
    rw [shared] at first
    exact BEq.trans (α := Option Json) (BEq.symm first) second

theorem Unambiguous.coherent (unambiguous : s.Unambiguous) (valid : s.Valid) : s.Coherent := by
  intro c member d member' shared
  have key : c.key = d.key := by
    rw [← (unambiguous c member).ofText_text (valid.claims c member).key, shared,
      (unambiguous d member').ofText_text (valid.claims d member').key]
  rw [List.inj_on_of_nodup_map valid.distinct member member' key]
  exact beq_self_eq_true _

end Selection

/-! ## Sides -/

/-- Requests for verified claims are the same if the claims of one of them make way for the same. -/
theorem Verified.same_setClaims {before after : List Verified} {v : Verified} {claims : Selection}
    (valid : ∀ w ∈ before ++ v :: after, w.Valid) (same : (v.claims == claims) = true) :
    (before ++ v :: after == before ++ v.setClaims claims :: after) = true := by
  have front : List.Forall₂ (fun v w => (v == w) = true) before before :=
    List.forall₂_same.mpr fun w present => (valid w (List.mem_append_left _ present)).same_self
  have back : List.Forall₂ (fun v w => (v == w) = true) after after :=
    List.forall₂_same.mpr fun w present =>
      (valid w (List.mem_append_right _ (List.mem_cons_of_mem _ present))).same_self
  have here : (v == v.setClaims claims) = true := same_iff.mpr ⟨beq_self_eq_true _, same⟩
  exact same_iff_forall₂.mpr (List.rel_append front (.cons here back))

namespace Side

variable {s t : Side}

/-- Every selection of the side is coherent. -/
structure Coherent (s : Side) : Prop where
  plain : ∀ claims, s.plain = some claims → claims.Coherent
  verified : ∀ v ∈ s.verified, v.claims.Coherent

theorem Coherent.same_plain (coherent : s.Coherent) (valid : s.Valid) (valid' : t.Valid)
    (same : (s.plain == t.plain) = true) :
    ((s.plain.getD .empty).toObject == (t.plain.getD .empty).toObject) = true := by
  cases first : s.plain with
  | none =>
      rw [first] at same
      cases second : t.plain with
      | none => exact beq_self_eq_true (Selection.toObject .empty)
      | some more =>
          rw [second] at same
          cases same
  | some claims =>
      rw [first] at same
      cases second : t.plain with
      | none =>
          rw [second] at same
          cases same
      | some more =>
          rw [second] at same
          exact (coherent.plain claims first).same_toObject (valid.plain claims first).1.distinct
            (valid'.plain more second).1.distinct same

theorem Coherent.same_verified (coherent : s.Coherent) (valid : s.Valid) (valid' : t.Valid)
    (same : (s.verified == t.verified) = true) :
    (Verified.written s.verified == Verified.written t.verified) = true := by
  have each := Verified.same_iff_forall₂.mp same
  refine (Verified.same_written_iff each.length_eq).mpr ?_
  obtain ⟨length, pairs⟩ := List.forall₂_iff_zip.mp each
  refine List.forall₂_iff_zip.mpr ⟨length, fun {v w} pair => ?_⟩
  obtain ⟨verification, claims⟩ := Verified.same_iff.mp (pairs pair)
  obtain ⟨member, member'⟩ := List.of_mem_zip pair
  exact Verified.same_members_iff.mpr ⟨verification, (coherent.verified v member).same_toObject
    (valid.verified v member).claims.distinct (valid'.verified w member').claims.distinct claims⟩

theorem Coherent.same_toObject (coherent : s.Coherent) (valid : s.Valid) (valid' : t.Valid)
    (same : (s == t) = true) : (s.toObject == t.toObject) = true := by
  obtain ⟨samePlain, sameVerified⟩ := same_iff.mp same
  have plain := coherent.same_plain valid valid' samePlain
  have verified := coherent.same_verified valid valid' sameVerified
  refine Object.same_iff_get?.mpr fun k => ?_
  have member := Object.same_iff_get?.mp plain k
  rw [toObject_eq, toObject_eq, Object.get?_insert?, Object.get?_insert?]
  split
  · exact same_or verified member
  · exact member

theorem exists_written {v : Verified} {vs : List Verified} (member : v ∈ vs) :
    ∃ json, Verified.written vs = some json := by
  match vs with
  | [] => cases member
  | [w] => exact ⟨_, rfl⟩
  | w :: w' :: vs => exact ⟨_, rfl⟩

/-- Sides that are written alike write their requests for verified claims alike. -/
theorem same_written_of_same_toObject {v w : Verified} (member : v ∈ s.verified)
    (member' : w ∈ t.verified) (alike : (s.toObject == t.toObject) = true) :
    (Verified.written s.verified == Verified.written t.verified) = true := by
  obtain ⟨first, written⟩ := exists_written member
  obtain ⟨second, written'⟩ := exists_written member'
  have here := Object.same_iff_get?.mp alike Selection.verifiedMember
  rw [toObject_eq, toObject_eq, Object.get?_insert?, Object.get?_insert?, if_pos rfl, if_pos rfl,
    written, written'] at here
  rw [written, written']
  exact here

section

variable (valid : s.Valid) (composed : s.Composed)
  (alike : ∀ t : Side, t.Valid → t.Composed → (s == t) = true → (s.toObject == t.toObject) = true)

include valid composed alike

theorem coherent_plain {claims : Selection} (present : s.plain = some claims) :
    claims.Coherent := by
  refine Selection.coherent_of_alike (composed.plain claims present) fun u made same k other => ?_
  have asks : u.isEmpty = false := by
    rw [← Selection.isEmpty_of_same same, (valid.plain claims present).2]
  have replacedValid : { s with plain := some u }.Valid := by
    refine ⟨?_, valid.verified⟩
    rintro _ ⟨⟩
    exact ⟨made.valid, asks⟩
  have replacedComposed : { s with plain := some u }.Composed := by
    refine ⟨?_, composed.verified⟩
    rintro _ ⟨⟩
    exact made
  have samePlain : (s.plain == some u) = true := by
    rw [present]
    exact same
  have written := alike _ replacedValid replacedComposed
    (same_iff.mpr ⟨samePlain, Verified.same_self_of_valid valid.verified⟩)
  have here := Object.same_iff_get?.mp written k
  rw [toObject_eq, toObject_eq, Object.get?_insert?, Object.get?_insert?, if_neg other,
    if_neg other, present] at here
  exact here

theorem coherent_verified {v : Verified} (member : v ∈ s.verified) : v.claims.Coherent := by
  obtain ⟨plain, verified⟩ := s
  obtain ⟨before, after, rfl⟩ := List.append_of_mem member
  refine Selection.coherent_of_alike (composed.verified v member) fun u made same k _ => ?_
  have asks : u.isEmpty = false := by
    rw [← Selection.isEmpty_of_same same, (valid.verified v member).asks]
  have replaced : v.setClaims u ∈ before ++ v.setClaims u :: after :=
    List.mem_append_right _ List.mem_cons_self
  have among : ∀ w ∈ before ++ v.setClaims u :: after,
      w = v.setClaims u ∨ w ∈ before ++ v :: after := by
    intro w present
    simp only [List.mem_append, List.mem_cons] at present ⊢
    tauto
  have replacedValid : Valid ⟨plain, before ++ v.setClaims u :: after⟩ := by
    refine ⟨valid.plain, fun w present => ?_⟩
    rcases among w present with rfl | old
    · exact ⟨made.valid, asks⟩
    · exact valid.verified w old
  have replacedComposed : Composed ⟨plain, before ++ v.setClaims u :: after⟩ := by
    refine ⟨composed.plain, fun w present => ?_⟩
    rcases among w present with rfl | old
    · exact made
    · exact composed.verified w old
  have sameVerified := Verified.same_setClaims valid.verified same
  have written := alike _ replacedValid replacedComposed
    (same_iff.mpr ⟨(same_iff.mp valid.same_self).1, sameVerified⟩)
  have lists := (Verified.same_written_iff (Verified.same_iff_forall₂.mp sameVerified).length_eq).mp
    (same_written_of_same_toObject member replaced written)
  rw [List.forall₂_iff_zip, List.zip_append rfl] at lists
  have here := lists.2 (List.mem_append_right _ List.mem_cons_self)
  exact Object.same_iff_get?.mp (Verified.same_members_iff.mp here).2 k

/-- A side is coherent if other sides in its place that are the same are written alike. -/
theorem coherent_of_alike : s.Coherent :=
  ⟨fun _ => coherent_plain valid composed alike, fun _ => coherent_verified valid composed alike⟩

end

theorem Unambiguous.coherent (unambiguous : s.Unambiguous) (valid : s.Valid) : s.Coherent := by
  constructor
  · intro claims present
    exact (unambiguous.plain claims present).coherent (valid.plain claims present).1
  · intro v member
    exact (unambiguous.verified v member).coherent (valid.verified v member).claims

end Side

/-! ## Requests -/

namespace Request

variable {a b : Request}

/-- Both sides of the request are coherent. -/
def Coherent (r : Request) : Prop :=
  ∀ place, (r.side place).Coherent

theorem Coherent.same_toObject (coherent : a.Coherent) (valid : a.Valid) (valid' : b.Valid)
    (same : (a == b) = true) : (a.toObject == b.toObject) = true := by
  refine same_toObject_iff.mpr fun place => ?_
  have here := same_iff_side.mp same place
  exact (Side.same_written_iff here).mpr
    ((coherent place).same_toObject (valid.side place) (valid'.side place) here)

theorem valid_withSide (valid : a.Valid) {s : Side} (sideValid : s.Valid) (place : Place) :
    (a.withSide place s).Valid := by
  cases place with
  | idToken => exact ⟨sideValid, valid.userinfo⟩
  | userinfo => exact ⟨valid.idToken, sideValid⟩

theorem reachable_withSide_of_reachable (reachable : a.Reachable) {s : Side} (valid : s.Valid)
    (composed : s.Composed) (place : Place) : (a.withSide place s).Reachable := by
  refine reachable_iff.mpr ⟨valid_withSide reachable.valid valid place, fun other => ?_⟩
  rw [side_withSide]
  split
  · exact composed
  · exact reachable.composed other

theorem coherent_of_alike (reachable : a.Reachable)
    (alike : ∀ b : Request, b.Reachable → (a == b) = true → (a.toObject == b.toObject) = true) :
    a.Coherent := by
  intro place
  have valid := reachable.valid
  refine Side.coherent_of_alike (valid.side place) (reachable.composed place) ?_
  intro s sideValid composed same
  have sameRequest : (a == a.withSide place s) = true := by
    refine same_iff_side.mpr fun other => ?_
    rw [side_withSide]
    split
    · next here =>
        rw [here]
        exact same
    · exact (valid.side other).same_self
  have written := alike _ (reachable_withSide_of_reachable reachable sideValid composed place)
    sameRequest
  have here := same_toObject_iff.mp written place
  rw [side_withSide, if_pos rfl] at here
  exact (Side.same_written_iff same).mp here

theorem coherent_of_parse {v : Json} (read : parse v = .ok a) : a.Coherent := by
  obtain ⟨valid, unambiguous⟩ := valid_of_parse read
  intro place
  cases place with
  | idToken => exact unambiguous.idToken.coherent valid.idToken
  | userinfo => exact unambiguous.userinfo.coherent valid.userinfo

/--
A request that can be made is written like all others that are the same exactly when it is coherent,
and what was read is.  The texts then differ in the signs of zeros at most, which sameness does not
compare, and are equal where no zero is negative.
-/
theorem written_alike_iff_coherent (reachable : a.Reachable) :
    ((∀ b : Request, b.Reachable → (a == b) = true → (a.toObject == b.toObject) = true) ↔
      a.Coherent) ∧
    (∀ v, parse v = .ok a → a.Coherent) ∧
    (a.Coherent → ∀ b : Request, b.Reachable → (a == b) = true →
      a.toObject.unsigned.compact = b.toObject.unsigned.compact ∧
      (a.toObject.unsigned = a.toObject → b.toObject.unsigned = b.toObject → a.text = b.text)) := by
  have alike : a.Coherent → ∀ b : Request, b.Reachable → (a == b) = true →
      (a.toObject == b.toObject) = true := by
    intro coherent b made same
    exact coherent.same_toObject reachable.valid made.valid same
  refine ⟨⟨coherent_of_alike reachable, alike⟩, fun v => coherent_of_parse, ?_⟩
  intro coherent b made same
  have forms := Object.same_iff_unsigned.mp (alike coherent b made same)
  refine ⟨congrArg Object.compact forms, ?_⟩
  intro positive positive'
  rw [positive, positive'] at forms
  exact congrArg Object.compact forms

/-- The requests for a name and for its German variant, in this order or in the other. -/
def forNameAndVariant (plainFirst : Bool) : Request :=
  empty.setUserinfo (Selection.nameAndVariant plainFirst)

theorem reachable_forNameAndVariant (plainFirst : Bool) :
    (forNameAndVariant plainFirst).Reachable :=
  .setUserinfo .empty (Selection.reachable_nameAndVariant plainFirst)

theorem parse_forNameAndVariant :
    parse (.object [("userinfo", .object [("name", .null), ("name#de", .null)])]) =
      .ok (forNameAndVariant true) := by
  with_unfolding_all rfl

theorem forNameAndVariant_alike :
    ((forNameAndVariant true).toObject == (forNameAndVariant false).toObject) = true ∧
      (forNameAndVariant true).text = (forNameAndVariant false).text := by
  have same : (forNameAndVariant true == forNameAndVariant false) = true := rfl
  obtain ⟨alike, read, texts⟩ := written_alike_iff_coherent (reachable_forNameAndVariant true)
  have coherent := read _ parse_forNameAndVariant
  have other := reachable_forNameAndVariant false
  constructor
  · exact alike.mpr coherent _ other same
  · exact (texts coherent _ other same).2 rfl rfl

/-- The essential request for a claim named like a variant, and one for the variant itself. -/
def namedLikeVariant (variantLast : Bool) : Request :=
  let named : Individual := (Individual.ofKey ⟨"name#en", none⟩).setNecessity .essential
  let variant : Individual := (Individual.ofKey ⟨"name", none⟩).setTag (some ⟨"en"⟩)
  empty.setUserinfo (if variantLast then (Selection.empty.insert named).insert variant
    else (Selection.empty.insert variant).insert named)

theorem reachable_namedLikeVariant (variantLast : Bool) :
    (namedLikeVariant variantLast).Reachable := by
  have read : ∀ tag, some (LanguageTag.mk "en") = some tag →
      ∃ text, LanguageTag.parse text = .ok tag := by
    rintro _ ⟨⟩
    exact ⟨"en", rfl⟩
  have named := Individual.Reachable.setNecessity .essential
    (.ofName (show "name#en" ≠ "" by decide))
  have variant := Individual.Reachable.setTag (.ofName (show "name" ≠ "" by decide)) read
  cases variantLast with
  | true => exact .setUserinfo .empty (.insert (.insert .empty named) variant)
  | false => exact .setUserinfo .empty (.insert (.insert .empty variant) named)

/-- Where the variant comes last, it is no longer written that the other claim is essential. -/
theorem not_all_written_alike :
    ¬∀ a b : Request, a.Reachable → b.Reachable → (a == b) = true →
      (a.toObject == b.toObject) = true := by
  intro all
  have same : (namedLikeVariant false == namedLikeVariant true) = true := by
    with_unfolding_all rfl
  have different : ((namedLikeVariant false).toObject == (namedLikeVariant true).toObject) =
      false := by
    with_unfolding_all rfl
  have alike := all _ _ (reachable_namedLikeVariant false) (reachable_namedLikeVariant true) same
  rw [different] at alike
  cases alike

end Request

end Claims

end OpenIdConnect
