import OpenIdConnect.Proofs.Claims.Reachable

/-!
# Claims requests, written and read

A claims request is read from its written form exactly when every key can be told from its text.
Where some key cannot, a different request is read: two claims may share a member, or a claim
may stand in the place of the verified claims.
-/

namespace OpenIdConnect

namespace Claims

/-! ## Verified claims -/

namespace Verified

theorem same_iff {v w : Verified} :
    (v == w) = true ↔ (v.verification == w.verification) = true ∧ (v.claims == w.claims) = true := by
  change (_ && _) = true ↔ _
  exact Bool.and_eq_true_iff

theorem mem_of_same {vs ws : List Verified} (same : (vs == ws) = true) {w : Verified}
    (member : w ∈ ws) : ∃ v ∈ vs, (v == w) = true := by
  induction vs generalizing ws with
  | nil =>
      cases ws with
      | nil => cases member
      | cons w' ws => cases same
  | cons v vs ih =>
      cases ws with
      | nil => cases member
      | cons w' ws =>
          obtain ⟨first, others⟩ := Bool.and_eq_true_iff.mp same
          rcases List.mem_cons.mp member with rfl | later
          · exact ⟨v, List.mem_cons_self, first⟩
          · obtain ⟨v', present, sameElement⟩ := ih others later
            exact ⟨v', List.mem_cons_of_mem _ present, sameElement⟩

theorem Valid.same_self {v : Verified} (valid : v.Valid) : (v == v) = true :=
  same_iff.mpr ⟨beq_self_eq_true _, Selection.same_of_perm valid.claims.distinct (.refl _)⟩

theorem same_self_of_valid {vs : List Verified} (valid : ∀ v ∈ vs, v.Valid) :
    (vs == vs) = true := by
  induction vs with
  | nil => rfl
  | cons v vs ih =>
      obtain ⟨here, others⟩ := List.forall_mem_cons.mp valid
      exact Bool.and_eq_true_iff.mpr ⟨here.same_self, ih others⟩

theorem Valid.parse_members {v : Verified} (valid : v.Valid)
    (unambiguous : v.claims.Unambiguous) :
    ∃ w, parse v.members = .ok w ∧ (w == v) = true := by
  have claimsMember := get?_members_claims v
  have verificationMember : v.members.get? "verification" = some v.verification.toJson := by
    rw [members, Object.get?_insert, if_neg (by decide), Object.get?_insert, if_pos rfl]
  have present : v.members.isEmpty = false := by
    rw [← Bool.not_eq_true, Object.isEmpty_iff]
    intro absent
    rw [absent] at claimsMember
    cases claimsMember
  have verificationRead :
      readVerification (some v.verification.toJson) = .ok v.verification := by
    change Except.ok (Object.ofList v.verification.members) = _
    rw [Object.ofList_members]
  obtain ⟨claims, claimsRead, same⟩ := valid.claims.parse_toObject unambiguous
  have asks : claims.isEmpty = false := by
    rw [Selection.isEmpty_of_same same, valid.asks]
  refine ⟨⟨v.verification, claims⟩, ?_, ?_⟩
  · unfold parse
    rw [present, verificationMember, claimsMember, verificationRead]
    change (do
      let claims ← Selection.parse (Object.ofList v.claims.toObject.members)
      if claims.isEmpty then throw Fault.nothingToVerify
      pure (Verified.mk v.verification claims)) = _
    rw [Object.ofList_members, claimsRead]
    change (if claims.isEmpty then _ else _) = _
    rw [asks]
    rfl
  · exact same_iff.mpr ⟨beq_self_eq_true _, same⟩

/-- The written form of requests for verified claims, if there are any. -/
def written : List Verified → Option Json
  | [] => none
  | [v] => some v.members.toJson
  | vs => some (.array (vs.map fun v => v.members.toJson))

theorem parse_elements {vs : List Verified} (valid : ∀ v ∈ vs, v.Valid)
    (unambiguous : ∀ v ∈ vs, v.claims.Unambiguous) :
    ∃ ws, ((vs.map fun v => v.members.toJson).mapM parseElement) = .ok ws ∧
      (ws == vs) = true := by
  induction vs with
  | nil => exact ⟨[], rfl, rfl⟩
  | cons v vs ih =>
      obtain ⟨here, othersValid⟩ := List.forall_mem_cons.mp valid
      obtain ⟨hereUnambiguous, othersUnambiguous⟩ := List.forall_mem_cons.mp unambiguous
      obtain ⟨w, first, same⟩ := here.parse_members hereUnambiguous
      obtain ⟨ws, others, sameOthers⟩ := ih othersValid othersUnambiguous
      have firstElement : parseElement v.members.toJson = .ok w := by
        change parse (Object.ofList v.members.members) = _
        rw [Object.ofList_members]
        exact first
      refine ⟨w :: ws, ?_, Bool.and_eq_true_iff.mpr ⟨same, sameOthers⟩⟩
      rw [List.map_cons, List.mapM_cons, firstElement, others]
      rfl

theorem readVerified_written {vs : List Verified} (valid : ∀ v ∈ vs, v.Valid)
    (unambiguous : ∀ v ∈ vs, v.claims.Unambiguous) :
    ∃ ws, Side.readVerified (written vs) = .ok ws ∧ (ws == vs) = true := by
  match vs with
  | [] => exact ⟨[], rfl, rfl⟩
  | [v] =>
      obtain ⟨w, read, same⟩ := (valid v (by simp)).parse_members (unambiguous v (by simp))
      refine ⟨[w], ?_, Bool.and_eq_true_iff.mpr ⟨same, rfl⟩⟩
      change ((parse (Object.ofList v.members.members)).map fun v => [v]).mapError located = _
      rw [Object.ofList_members, read]
      rfl
  | v :: w :: vs =>
      obtain ⟨ws, read, same⟩ := parse_elements valid unambiguous
      refine ⟨ws, ?_, same⟩
      change (List.mapM parseElement _).mapError located = _
      rw [read]
      rfl

end Verified

/-! ## Sides -/

namespace Side

theorem same_iff {s t : Side} :
    (s == t) = true ↔ (s.plain == t.plain) = true ∧ (s.verified == t.verified) = true := by
  change (_ && _) = true ↔ _
  exact Bool.and_eq_true_iff

theorem isEmpty_of_same {s t : Side} (same : (s == t) = true) : s.isEmpty = t.isEmpty := by
  obtain ⟨samePlain, sameVerified⟩ := same_iff.mp same
  have plain : s.plain.isNone = t.plain.isNone := by
    revert samePlain
    cases s.plain <;> cases t.plain <;> simp
  have verified : s.verified.isEmpty = t.verified.isEmpty := by
    revert sameVerified
    cases s.verified <;> cases t.verified <;> simp
  unfold isEmpty
  rw [plain, verified]

theorem Valid.same_self {s : Side} (valid : s.Valid) : (s == s) = true := by
  refine same_iff.mpr ⟨?_, Verified.same_self_of_valid valid.verified⟩
  cases plain : s.plain with
  | none => rfl
  | some claims => exact Selection.same_of_perm (valid.plain claims plain).1.distinct (.refl _)

theorem toObject_eq (s : Side) :
    s.toObject = (s.plain.getD .empty).toObject.insert? Selection.verifiedMember
      (Verified.written s.verified) := by
  obtain ⟨plain, verified⟩ := s
  have start : (plain.map Selection.toObject).getD .empty = (plain.getD .empty).toObject := by
    cases plain <;> rfl
  unfold toObject
  rw [start]
  match verified with
  | [] => rfl
  | [v] => rfl
  | v :: w :: vs => rfl

theorem Valid.getD {s : Side} (valid : s.Valid) : (s.plain.getD .empty).Valid := by
  cases plain : s.plain with
  | none => exact Selection.valid_empty
  | some claims => exact (valid.plain claims plain).1

theorem Unambiguous.getD {s : Side} (unambiguous : s.Unambiguous) :
    (s.plain.getD .empty).Unambiguous := by
  cases plain : s.plain with
  | none =>
      intro c impossible
      cases impossible
  | some claims => exact unambiguous.plain claims plain

/-- Selections that ask for nothing are the same as none. -/
theorem Valid.same_setPlain {s : Side} (valid : s.Valid) {claims : Selection}
    (same : (claims == s.plain.getD .empty) = true) :
    ((empty.setPlain claims).plain == s.plain) = true := by
  change ((if claims.isEmpty then none else some claims) == s.plain) = true
  rw [Selection.isEmpty_of_same same]
  cases plain : s.plain with
  | none => rfl
  | some kept =>
      rw [plain] at same
      rw [Option.getD_some, (valid.plain kept plain).2]
      exact same

/-- A side is read from its written form. -/
theorem Valid.parse_toObject {s : Side} (valid : s.Valid) (unambiguous : s.Unambiguous)
    (name : String) : ∃ t, parse name s.toObject.toJson = .ok t ∧ (t == s) = true := by
  have plainValid := valid.getD
  have plainUnambiguous := unambiguous.getD
  have absent := plainValid.get?_verifiedMember plainUnambiguous
  have plainPart : s.toObject.erase Selection.verifiedMember
      = (s.plain.getD .empty).toObject := by
    rw [toObject_eq, Object.erase_insert?, Object.erase_of_absent absent]
  have verifiedPart : s.toObject.get? Selection.verifiedMember
      = Verified.written s.verified := by
    rw [toObject_eq, Object.get?_insert?, if_pos rfl, absent, Option.or_none]
  obtain ⟨claims, claimsRead, same⟩ := plainValid.parse_of_erase plainUnambiguous plainPart
  obtain ⟨verified, verifiedRead, sameVerified⟩ :=
    Verified.readVerified_written valid.verified unambiguous.verified
  refine ⟨⟨(empty.setPlain claims).plain, verified⟩, ?_, ?_⟩
  · change (do
      let claims ← Selection.parse (Object.ofList s.toObject.members)
      let verified ← readVerified ((Object.ofList s.toObject.members).get?
        Selection.verifiedMember)
      pure (Side.mk (empty.setPlain claims).plain verified)) = _
    rw [Object.ofList_members, claimsRead, verifiedPart, verifiedRead]
    rfl
  · exact same_iff.mpr ⟨valid.same_setPlain same, sameVerified⟩

theorem Unambiguous.of_same {s t : Side} (unambiguous : s.Unambiguous) (valid : s.Valid)
    (same : (s == t) = true) : t.Unambiguous := by
  obtain ⟨samePlain, sameVerified⟩ := same_iff.mp same
  constructor
  · intro claims present
    cases plain : s.plain with
    | none =>
        rw [plain, present] at samePlain
        cases samePlain
    | some own =>
        rw [plain, present] at samePlain
        exact (unambiguous.plain own plain).of_same (valid.plain own plain).1.distinct samePlain
  · intro w member
    obtain ⟨v, present, sameElement⟩ := Verified.mem_of_same sameVerified member
    exact (unambiguous.verified v present).of_same (valid.verified v present).claims.distinct
      (Verified.same_iff.mp sameElement).2

theorem eq_empty_of_isEmpty {s : Side} (nothing : s.isEmpty = true) : s = empty := by
  obtain ⟨plain, verified⟩ := s
  cases plain <;> cases verified <;> first | rfl | cases nothing

/-- The written form of a side, unless nothing is requested from it. -/
def written (s : Side) : Option Json :=
  if s.isEmpty then none else some s.toObject.toJson

theorem Valid.read_written {s : Side} (valid : s.Valid) (unambiguous : s.Unambiguous)
    (name : String) : ∃ t, read name s.written = .ok t ∧ (t == s) = true := by
  unfold written
  split
  · next nothing =>
      refine ⟨empty, rfl, ?_⟩
      rw [eq_empty_of_isEmpty nothing]
      rfl
  · exact valid.parse_toObject unambiguous name

end Side

/-! ## Requests -/

namespace Request

theorem same_iff {r r' : Request} :
    (r == r') = true ↔ (r.idToken == r'.idToken) = true ∧ (r.userinfo == r'.userinfo) = true := by
  change (_ && _) = true ↔ _
  exact Bool.and_eq_true_iff

theorem isEmpty_of_same {r r' : Request} (same : (r == r') = true) : r.isEmpty = r'.isEmpty := by
  obtain ⟨idToken, userinfo⟩ := same_iff.mp same
  unfold isEmpty
  rw [Side.isEmpty_of_same idToken, Side.isEmpty_of_same userinfo]

theorem Valid.same_self {r : Request} (valid : r.Valid) : (r == r) = true :=
  same_iff.mpr ⟨valid.idToken.same_self, valid.userinfo.same_self⟩

theorem get?_toObject (r : Request) (k : String) :
    r.toObject.get? k =
      if k = "userinfo" then r.userinfo.written
      else if k = "id_token" then r.idToken.written else none := by
  have start : ((if r.idToken.isEmpty then Object.empty
      else Object.empty.insert "id_token" r.idToken.toObject.toJson) : Object).get? k =
      if k = "id_token" then r.idToken.written else none := by
    unfold Side.written
    cases r.idToken.isEmpty with
    | false => exact Object.get?_insert _ _ _ _
    | true => simp
  unfold toObject Side.written
  cases r.userinfo.isEmpty with
  | false =>
      change (Object.insert _ "userinfo" _).get? k = _
      rw [Object.get?_insert, start]
      rfl
  | true =>
      change Object.get? (if r.idToken.isEmpty then Object.empty
        else Object.empty.insert "id_token" r.idToken.toObject.toJson) k = _
      rw [start]
      by_cases same : k = "userinfo"
      · simp [same]
      · simp [same]
        rfl

/-- A request is read from its written form where every key can be told from its text. -/
theorem Valid.parse_toJson {r : Request} (valid : r.Valid) (unambiguous : r.Unambiguous) :
    ∃ r', parse r.toObject.toJson = .ok r' ∧ (r' == r) = true := by
  obtain ⟨idToken, idTokenRead, same⟩ :=
    valid.idToken.read_written unambiguous.idToken "id_token"
  obtain ⟨userinfo, userinfoRead, sameUserinfo⟩ :=
    valid.userinfo.read_written unambiguous.userinfo "userinfo"
  refine ⟨⟨idToken, userinfo⟩, ?_, same_iff.mpr ⟨same, sameUserinfo⟩⟩
  change (do
    let idToken ← Side.read "id_token" ((Object.ofList r.toObject.members).get? "id_token")
    let userinfo ← Side.read "userinfo" ((Object.ofList r.toObject.members).get? "userinfo")
    pure (Request.mk idToken userinfo) : Except Fault Request).mapError Fault.inClaims = _
  rw [Object.ofList_members, get?_toObject, get?_toObject, if_neg (by decide), if_pos rfl,
    if_pos rfl, idTokenRead, userinfoRead]
  rfl

theorem Unambiguous.of_same {r r' : Request} (unambiguous : r.Unambiguous) (valid : r.Valid)
    (same : (r == r') = true) : r'.Unambiguous := by
  obtain ⟨sameIdToken, sameUserinfo⟩ := same_iff.mp same
  exact ⟨unambiguous.idToken.of_same valid.idToken sameIdToken,
    unambiguous.userinfo.of_same valid.userinfo sameUserinfo⟩

/--
A request that can be made is read from its written form exactly when no untagged claim is named
like the member for verified claims or like a variant; so whatever is read once is read again.
-/
theorem parse_toJson_iff_unambiguous :
    (∀ r : Request, r.Reachable →
      ((∃ r', parse r.toObject.toJson = .ok r' ∧ (r' == r) = true) ↔ r.Unambiguous)) ∧
    ∀ (v : Json) (r : Request), parse v = .ok r →
      ∃ r', parse r.toObject.toJson = .ok r' ∧ (r' == r) = true := by
  refine ⟨?_, ?_⟩
  · intro r reachable
    constructor
    · rintro ⟨r', read, same⟩
      obtain ⟨valid, unambiguous⟩ := valid_of_parse read
      exact unambiguous.of_same valid same
    · intro unambiguous
      exact reachable.valid.parse_toJson unambiguous
  · intro v r read
    obtain ⟨valid, unambiguous⟩ := valid_of_parse read
    exact valid.parse_toJson unambiguous

/-- The request for one untagged claim from the UserInfo endpoint. -/
def forClaim (name : String) : Request :=
  empty.setUserinfo (Selection.empty.insert (.ofKey ⟨name, none⟩))

theorem reachable_forClaim {name : String} (named : name ≠ "") : (forClaim name).Reachable :=
  .setUserinfo .empty (.insert .empty (.ofName named))

theorem parse_toJson_email_not_variant :
    (forClaim "email").Reachable ∧ (forClaim "name#en").Reachable ∧
      (∃ r', parse (forClaim "email").toObject.toJson = .ok r' ∧
        (r' == forClaim "email") = true) ∧
      ¬∃ r', parse (forClaim "name#en").toObject.toJson = .ok r' ∧
        (r' == forClaim "name#en") = true := by
  have email : (forClaim "email").Reachable := reachable_forClaim (by decide)
  have variant : (forClaim "name#en").Reachable := reachable_forClaim (by decide)
  refine ⟨email, variant, ?_, ?_⟩
  · refine (parse_toJson_iff_unambiguous.1 _ email).mpr ⟨Side.unambiguous_empty, ?_, ?_⟩
    · intro claims present
      cases present
      intro c member _
      rw [List.mem_singleton.mp member]
      exact ⟨by decide, Key.not_isVariant_of_untagged (by decide)⟩
    · intro v impossible
      cases impossible
  · intro read
    have unambiguous := (parse_toJson_iff_unambiguous.1 _ variant).mp read
    have plain := unambiguous.userinfo.plain _ rfl _ (List.mem_singleton.mpr rfl) rfl
    exact plain.2 ⟨"name", "en", ⟨"en"⟩, by decide, by decide, rfl, rfl⟩

end Request

end Claims

end OpenIdConnect
