import OpenIdConnect.Proofs.Parameter.Access
import OpenIdConnect.Proofs.Parameter.Subject
import OpenIdConnect.Token.Logout

/-!
# Logout tokens, accepted and written

Claims make a logout token exactly when they are as specified.  The token writes them back as they
were, but for an audience that is listed alone, and is accepted again as one that says the same; so
is a token that was made from its parts.
-/

namespace OpenIdConnect

namespace LogoutToken

variable {o : Object} {t : LogoutToken}

/-! ## Claims that are accepted -/

/-- The claims of a logout token, as they are specified. -/
structure Specified (o : Object) : Prop where
  issuer : ∃ v, o.get? "iss" = some v ∧ v.IsText
  audience : ∃ v, o.get? "aud" = some v ∧ v.IsAudience
  issuedAt : ∃ v, o.get? "iat" = some v ∧ v.IsInt64
  tokenId : ∃ v, o.get? "jti" = some v ∧ v.IsText
  events : ∃ v, o.get? "events" = some v ∧ v.IsLogout
  subject : ∀ v, o.get? "sub" = some v → ∃ s, v = .string s ∧ s ≠ ""
  session : ∀ v, o.get? "sid" = some v → v.IsText
  someone : (o.get? "sub").isSome = true ∨ (o.get? "sid").isSome = true
  nonce : o.get? "nonce" = none
  expiry : ∀ v, o.get? "exp" = some v → v.IsInt64

/-- Claims that may stand beside those that every logout token has. -/
structure Proper (o : Object) : Prop where
  subject : ∃ subject, o.read? .subject = Option.map .ok subject
  session : ∃ session, o.read? .session = Option.map .ok session
  someone : (o.read? .subject).isSome = true ∨ (o.read? .session).isSome = true
  nonce : o.get? forbidden = none
  expiry : ∃ expiry, o.read? .expiry = Option.map .ok expiry

/-- The parts of a logout token are what the claims read as. -/
structure ReadFrom (o : Object) (t : LogoutToken) : Prop where
  members : t.members = o
  issuer : o.read? .tokenIssuer = some (.ok t.issuer)
  audience : o.read? .audience = some (.ok t.audience)
  issuedAt : o.read? .issuedAt = some (.ok t.issuedAt)
  tokenId : o.read? .tokenId = some (.ok t.tokenId)
  events : o.read? .events = some (.ok t.events)
  proper : Proper o

theorem readFrom_of_ofObject (accepted : ofObject o = .ok t) : ReadFrom o t := by
  unfold ofObject at accepted
  obtain ⟨issuer, issuerRead, accepted⟩ := Outcome.bind_eq_ok.mp accepted
  obtain ⟨audience, audienceRead, accepted⟩ := Outcome.bind_eq_ok.mp accepted
  obtain ⟨issuedAt, issuedAtRead, accepted⟩ := Outcome.bind_eq_ok.mp accepted
  obtain ⟨tokenId, tokenIdRead, accepted⟩ := Outcome.bind_eq_ok.mp accepted
  obtain ⟨events, eventsRead, accepted⟩ := Outcome.bind_eq_ok.mp accepted
  obtain ⟨subject, subjectRead, accepted⟩ := Outcome.bind_eq_ok.mp accepted
  obtain ⟨session, sessionRead, accepted⟩ := Outcome.bind_eq_ok.mp accepted
  obtain ⟨someone, accepted⟩ := Outcome.refused_eq_ok.mp accepted
  obtain ⟨unused, accepted⟩ := Outcome.refused_eq_ok.mp accepted
  obtain ⟨expiry, expiryRead, done⟩ := Outcome.bind_eq_ok.mp accepted
  cases done
  have subject := Object.optional_eq_ok_iff.mp subjectRead
  have session := Object.optional_eq_ok_iff.mp sessionRead
  exact {
    members := rfl
    issuer := Object.require_eq_ok_iff.mp issuerRead
    audience := Object.require_eq_ok_iff.mp audienceRead
    issuedAt := Object.require_eq_ok_iff.mp issuedAtRead
    tokenId := Object.require_eq_ok_iff.mp tokenIdRead
    events := Object.require_eq_ok_iff.mp eventsRead
    proper := {
      subject := ⟨_, subject⟩
      session := ⟨_, session⟩
      someone := by
        rw [subject, session, Option.isSome_map, Option.isSome_map]
        simpa [Option.isSome_iff_ne_none, imp_iff_or_not, or_comm] using someone
      nonce := by simpa [Object.contains] using unused
      expiry := ⟨_, Object.optional_eq_ok_iff.mp expiryRead⟩ } }

theorem ofObject_of_readFrom (fields : ReadFrom o t) : ofObject o = .ok t := by
  obtain ⟨members, issuer, audience, issuedAt, tokenId, events, proper⟩ := fields
  obtain ⟨⟨subject, subjectRead⟩, ⟨session, sessionRead⟩, someone, nonce, ⟨expiry, expiryRead⟩⟩ :=
    proper
  rw [subjectRead, sessionRead, Option.isSome_map, Option.isSome_map] at someone
  unfold ofObject
  refine Outcome.bind_eq_ok.mpr ⟨_, Object.require_eq_ok_iff.mpr issuer, ?_⟩
  refine Outcome.bind_eq_ok.mpr ⟨_, Object.require_eq_ok_iff.mpr audience, ?_⟩
  refine Outcome.bind_eq_ok.mpr ⟨_, Object.require_eq_ok_iff.mpr issuedAt, ?_⟩
  refine Outcome.bind_eq_ok.mpr ⟨_, Object.require_eq_ok_iff.mpr tokenId, ?_⟩
  refine Outcome.bind_eq_ok.mpr ⟨_, Object.require_eq_ok_iff.mpr events, ?_⟩
  refine Outcome.bind_eq_ok.mpr ⟨_, Object.optional_eq_ok_iff.mpr subjectRead, ?_⟩
  refine Outcome.bind_eq_ok.mpr ⟨_, Object.optional_eq_ok_iff.mpr sessionRead, ?_⟩
  refine Outcome.refused_eq_ok.mpr ⟨?_, ?_⟩
  · rintro ⟨noSubject, noSession⟩
    rw [Option.isNone_iff_eq_none.mp noSubject, Option.isNone_iff_eq_none.mp noSession] at someone
    simp at someone
  refine Outcome.refused_eq_ok.mpr ⟨by simp [Object.contains, nonce], ?_⟩
  refine Outcome.bind_eq_ok.mpr ⟨_, Object.optional_eq_ok_iff.mpr expiryRead, ?_⟩
  rw [← members]
  rfl

theorem proper_iff :
    Proper o ↔
      (∀ v, o.get? "sub" = some v → ∃ s, v = .string s ∧ s ≠ "") ∧
      (∀ v, o.get? "sid" = some v → v.IsText) ∧
      ((o.get? "sub").isSome = true ∨ (o.get? "sid").isSome = true) ∧
      o.get? "nonce" = none ∧ ∀ v, o.get? "exp" = some v → v.IsInt64 := by
  have subject := Object.exists_read?_option_iff (o := o) (p := .subject) exists_readSubject_iff
  have session := Object.exists_read?_option_iff (o := o) (p := .session) exists_readString_iff
  have expiry := Object.exists_read?_option_iff (o := o) (p := .expiry) exists_readInt64_iff
  constructor
  · rintro ⟨subjectRead, sessionRead, someone, nonce, expiryRead⟩
    rw [Object.isSome_read?, Object.isSome_read?] at someone
    exact ⟨subject.mp subjectRead, session.mp sessionRead, someone, nonce, expiry.mp expiryRead⟩
  · rintro ⟨subjectText, sessionText, someone, nonce, expiryTime⟩
    refine ⟨subject.mpr subjectText, session.mpr sessionText, ?_, nonce, expiry.mpr expiryTime⟩
    rw [Object.isSome_read?, Object.isSome_read?]
    exact someone

/-- Claims are accepted exactly when they are as specified. -/
theorem exists_ofObject_iff : (∃ t, ofObject o = .ok t) ↔ Specified o := by
  have issuer := Object.exists_read?_iff (o := o) (p := .tokenIssuer) exists_readString_iff
  have audience := Object.exists_read?_iff (o := o) (p := .audience) exists_readAudience_iff
  have issuedAt := Object.exists_read?_iff (o := o) (p := .issuedAt) exists_readInt64_iff
  have tokenId := Object.exists_read?_iff (o := o) (p := .tokenId) exists_readString_iff
  have events := Object.exists_read?_iff (o := o) (p := .events) exists_readEvents_iff
  constructor
  · rintro ⟨t, accepted⟩
    have fields := readFrom_of_ofObject accepted
    obtain ⟨subject, session, someone, nonce, expiry⟩ := proper_iff.mp fields.proper
    exact {
      issuer := issuer.mp ⟨_, fields.issuer⟩
      audience := audience.mp ⟨_, fields.audience⟩
      issuedAt := issuedAt.mp ⟨_, fields.issuedAt⟩
      tokenId := tokenId.mp ⟨_, fields.tokenId⟩
      events := events.mp ⟨_, fields.events⟩
      subject := subject
      session := session
      someone := someone
      nonce := nonce
      expiry := expiry }
  · intro specified
    obtain ⟨i, issuerRead⟩ := issuer.mpr specified.issuer
    obtain ⟨a, audienceRead⟩ := audience.mpr specified.audience
    obtain ⟨at_, issuedAtRead⟩ := issuedAt.mpr specified.issuedAt
    obtain ⟨id, tokenIdRead⟩ := tokenId.mpr specified.tokenId
    obtain ⟨e, eventsRead⟩ := events.mpr specified.events
    have proper : Proper o := proper_iff.mpr ⟨specified.subject, specified.session,
      specified.someone, specified.nonce, specified.expiry⟩
    exact ⟨⟨o, i, a, at_, id, e⟩, ofObject_of_readFrom {
      members := rfl
      issuer := issuerRead
      audience := audienceRead
      issuedAt := issuedAtRead
      tokenId := tokenIdRead
      events := eventsRead
      proper := proper }⟩

/-! ## Tokens that are written -/

/--
An object carries the members of another as they were, but for an audience that is listed alone.
The events have the same members; these are also listed as they were when their names ascend.
-/
structure Carries (carried o : Object) : Prop where
  audience : carried.get? "aud" = (o.get? "aud").map Json.alone
  events : (carried.get? "events").bind Json.object? = (o.get? "events").bind Json.object?
  listed : ∀ members, o.get? "events" = some (.object members) → Ascending members →
    carried.get? "events" = some (.object members)
  others : ∀ k, k ≠ "aud" → k ≠ "events" → carried.get? k = o.get? k

theorem get?_toObject (t : LogoutToken) (k : String) :
    t.toObject.get? k =
      if k = "events" then some t.events.toJson
      else if k = "jti" then some (.string t.tokenId)
      else if k = "iat" then some (.ofInt64 t.issuedAt)
      else if k = "aud" then some (writeAudience t.audience)
      else if k = "iss" then some (.string t.issuer)
      else t.members.get? k := by
  unfold toObject
  simp only [Object.get?_write]
  rfl

theorem carries_of_ofObject (accepted : ofObject o = .ok t) : Carries t.toObject o := by
  obtain ⟨members, issuer, audience, issuedAt, tokenId, events, _⟩ := readFrom_of_ofObject accepted
  have issuerThere : o.get? "iss" = some (.string t.issuer) :=
    Object.get?_of_read? issuer fun _ => Json.readString_eq_ok_iff.mp
  have issuedAtThere : o.get? "iat" = some (.ofInt64 t.issuedAt) :=
    Object.get?_of_read? issuedAt fun _ => readInt64_eq_ok_iff.mp
  have tokenIdThere : o.get? "jti" = some (.string t.tokenId) :=
    Object.get?_of_read? tokenId fun _ => Json.readString_eq_ok_iff.mp
  obtain ⟨a, audienceThere, audienceRead⟩ := Option.map_eq_some_iff.mp audience
  obtain ⟨e, eventsThere, eventsRead⟩ := Option.map_eq_some_iff.mp events
  change o.get? "aud" = some a at audienceThere
  change o.get? "events" = some e at eventsThere
  have object : e.object? = some t.events := (readEvents_eq_ok_iff.mp eventsRead).1
  have eventsWritten : t.toObject.get? "events" = some t.events.toJson := by
    rw [get?_toObject, if_pos rfl]
  exact {
    audience := by
      rw [audienceThere, Option.map_some, ← writeAudience_of_read audienceRead, get?_toObject]
      rfl
    events := by
      rw [eventsWritten, eventsThere, Option.bind_some, Option.bind_some, object,
        Object.object?_toJson]
    listed := by
      intro listed present ascending
      rw [present] at eventsThere
      cases eventsThere
      have same : t.events = ⟨listed, ascending⟩ :=
        (Option.some.inj object).symm.trans (Object.ofList_members ⟨listed, ascending⟩)
      rw [eventsWritten, same]
      rfl
    others := by
      intro k notAudience notEvents
      rw [get?_toObject, if_neg notEvents, if_neg notAudience, members]
      split_ifs with isTokenId isIssuedAt isIssuer
      · rw [isTokenId, tokenIdThere]
      · rw [isIssuedAt, issuedAtThere]
      · rw [isIssuer, issuerThere]
      · rfl }

/-! ## Tokens that are accepted again -/

/-- Two tokens say the same. -/
structure Agrees (t t' : LogoutToken) : Prop where
  issuer : t.issuer = t'.issuer
  audience : t.audience = t'.audience
  issuedAt : t.issuedAt = t'.issuedAt
  tokenId : t.tokenId = t'.tokenId
  events : t.events = t'.events
  subject : t.subject? = t'.subject?
  session : t.session? = t'.session?
  expiry : t.expiry? = t'.expiry?

/-- A token whose other claims are proper, and which reports a logout. -/
structure Sound (t : LogoutToken) : Prop where
  proper : Proper t.members
  reports : Reports t.events

/-- Members beside those that are always there are written as they are. -/
theorem get?_toObject_beside {k : String} (beside : k ∉ ["iss", "aud", "iat", "jti", "events"]) :
    t.toObject.get? k = t.members.get? k := by
  simp only [List.mem_cons, List.not_mem_nil, or_false, not_or] at beside
  obtain ⟨notIssuer, notAudience, notIssuedAt, notTokenId, notEvents⟩ := beside
  rw [get?_toObject, if_neg notEvents, if_neg notTokenId, if_neg notIssuedAt, if_neg notAudience,
    if_neg notIssuer]

theorem read?_toObject {α : Type} {p : Parameter α}
    (beside : p.name ∉ ["iss", "aud", "iat", "jti", "events"]) :
    t.toObject.read? p = t.members.read? p :=
  congrArg (Option.map p.read) (get?_toObject_beside beside)

namespace Sound

theorem readFrom_toObject (sound : t.Sound) :
    ReadFrom t.toObject { t with members := t.toObject } := by
  have subject : t.toObject.read? .subject = t.members.read? .subject := read?_toObject (by decide)
  have session : t.toObject.read? .session = t.members.read? .session := read?_toObject (by decide)
  have expiry : t.toObject.read? .expiry = t.members.read? .expiry := read?_toObject (by decide)
  have nonce : t.toObject.get? forbidden = t.members.get? forbidden := get?_toObject t forbidden
  obtain ⟨proper, reports⟩ := sound
  exact {
    members := rfl
    issuer := Object.read?_of_get? (get?_toObject t "iss") rfl
    audience := Object.read?_of_get? (get?_toObject t "aud") (Parameter.rereads_audience t.audience)
    issuedAt :=
      Object.read?_of_get? (get?_toObject t "iat") (Parameter.rereads_time "iat" t.issuedAt)
    tokenId := Object.read?_of_get? (get?_toObject t "jti") rfl
    events := Object.read?_of_get? (get?_toObject t "events") (Parameter.rereads_events reports)
    proper := {
      subject := subject ▸ proper.subject
      session := session ▸ proper.session
      someone := by
        rw [subject, session]
        exact proper.someone
      nonce := nonce.trans proper.nonce
      expiry := expiry ▸ proper.expiry } }

theorem exists_again (sound : t.Sound) : ∃ t', ofObject t.toObject = .ok t' ∧ Agrees t' t := by
  refine ⟨_, ofObject_of_readFrom sound.readFrom_toObject, ?_⟩
  exact {
    issuer := rfl
    audience := rfl
    issuedAt := rfl
    tokenId := rfl
    events := rfl
    subject := read?_toObject (by decide)
    session := read?_toObject (by decide)
    expiry := read?_toObject (by decide) }

theorem setExpiry (sound : t.Sound) (time : Int64) : (t.setExpiry time).Sound := by
  obtain ⟨⟨subject, session, someone, nonce, _⟩, reports⟩ := sound
  have subjectKept : (t.setExpiry time).members.read? .subject = t.members.read? .subject :=
    Object.read?_write_of_ne (by decide) t.members time
  have sessionKept : (t.setExpiry time).members.read? .session = t.members.read? .session :=
    Object.read?_write_of_ne (by decide) t.members time
  rw [← subjectKept, ← sessionKept] at someone
  refine ⟨⟨subjectKept ▸ subject, sessionKept ▸ session, someone, ?_, some time, ?_⟩, reports⟩
  · exact (Object.get?_write t.members .expiry time forbidden).trans nonce
  · refine (Object.read?_write_self t.members .expiry time).trans ?_
    exact congrArg some (Parameter.rereads_time "exp" time)

end Sound

theorem sound_of_ofObject (accepted : ofObject o = .ok t) : t.Sound := by
  have fields := readFrom_of_ofObject accepted
  obtain ⟨e, _, read⟩ := Option.map_eq_some_iff.mp fields.events
  exact ⟨fields.members ▸ fields.proper, (readEvents_eq_ok_iff.mp read).2⟩

theorem reports_logoutEvents : Reports logoutEvents :=
  ⟨[], rfl⟩

theorem sound_of_make {issuer : String} {audience : NonEmpty String} {issuedAt : Int64}
    {tokenId : String} {subject session : Option String} (named : ∀ s, subject = some s → s ≠ "")
    (made : make issuer audience issuedAt tokenId subject session = .ok t) : t.Sound := by
  unfold make at made
  split at made
  · cases made
  next someone =>
    cases made
    have found : ∀ k, ((Object.empty.write? .subject subject).write? .session session).get? k =
        if k = "sid" then session.map Json.string
        else if k = "sub" then subject.map Json.string else none := by
      intro k
      rw [Object.get?_write?, Object.get?_write?, Object.get?_empty, Option.or_none]
      change (if k = "sid" then (session.map Json.string).or (if k = "sub" then _ else none)
        else if k = "sub" then subject.map Json.string else none) = _
      by_cases isSession : k = "sid" <;> simp [isSession]
    refine ⟨proper_iff.mpr ⟨?_, ?_, ?_, ?_, ?_⟩, reports_logoutEvents⟩
    · intro v present
      rw [found] at present
      obtain ⟨s, isSubject, rfl⟩ := Option.map_eq_some_iff.mp present
      exact ⟨s, rfl, named s isSubject⟩
    · intro v present
      rw [found] at present
      obtain ⟨s, _, rfl⟩ := Option.map_eq_some_iff.mp present
      exact ⟨s, rfl⟩
    · rw [found, found]
      cases subject <;> cases session <;> simp_all
    · rw [found]
      rfl
    · intro v present
      rw [found] at present
      cases present

/-- Logout tokens that are accepted, or made from their parts, and then given times of expiry. -/
inductive Obtained : LogoutToken → Prop where
  | accepted {o : Object} {t : LogoutToken} (accepted : ofObject o = .ok t) : Obtained t
  | made {issuer : String} {audience : NonEmpty String} {issuedAt : Int64} {tokenId : String}
      {subject session : Option String} {t : LogoutToken}
      (named : ∀ s, subject = some s → s ≠ "")
      (made : make issuer audience issuedAt tokenId subject session = .ok t) : Obtained t
  | setExpiry {t : LogoutToken} (time : Int64) (before : Obtained t) : Obtained (t.setExpiry time)

theorem Obtained.sound (obtained : Obtained t) : t.Sound := by
  induction obtained with
  | accepted accepted => exact sound_of_ofObject accepted
  | made named made => exact sound_of_make named made
  | setExpiry time _ sound => exact sound.setExpiry time

/--
Claims are accepted exactly when they are as specified.  A token carries the claims that it was
accepted from, and every token that was obtained is accepted again as one that says the same.
-/
theorem specified_carried_again :
    (∀ o, (∃ t, ofObject o = .ok t) ↔ Specified o) ∧
    (∀ o t, ofObject o = .ok t → Carries t.toObject o) ∧
    ∀ t, Obtained t → ∃ t', ofObject t.toObject = .ok t' ∧ Agrees t' t := by
  refine ⟨fun o => exists_ofObject_iff, ?_, ?_⟩
  · intro o t accepted
    exact carries_of_ofObject accepted
  · intro t obtained
    exact obtained.sound.exists_again

/-- The claims of a token that ends a session, for one client in a list, with an unknown claim. -/
def sessionClaims : Object :=
  .ofList [("iss", .string "https://op.example"), ("aud", .array [.string "a"]),
    ("iat", .ofInt64 7), ("jti", .string "b"), ("sid", .string "c"),
    ("events", logoutEvents.toJson), ("trace", .null)]

/-- The token with these claims. -/
def sessionToken : LogoutToken :=
  ⟨sessionClaims, "https://op.example", .single "a", 7, "b", logoutEvents⟩

set_option maxRecDepth 20000 in
theorem ofObject_sessionClaims : ofObject sessionClaims = .ok sessionToken := by
  with_unfolding_all rfl

theorem carried_sessionClaims :
    Specified sessionClaims ∧ sessionToken.toObject.get? "aud" = some (.string "a") ∧
      sessionToken.toObject.get? "trace" = some .null ∧
      ∃ t', ofObject (sessionToken.setExpiry 9).toObject = .ok t' ∧
        t'.expiry? = some (.ok 9) ∧ t'.session? = some (.ok "c") := by
  obtain ⟨specified, carried, again⟩ := specified_carried_again
  have carries := carried _ _ ofObject_sessionClaims
  have obtained := Obtained.setExpiry 9 (.accepted ofObject_sessionClaims)
  obtain ⟨t', accepted, agrees⟩ := again _ obtained
  refine ⟨(specified _).mp ⟨_, ofObject_sessionClaims⟩, carries.audience, ?_, t', accepted, ?_, ?_⟩
  · exact carries.others "trace" (by decide) (by decide)
  · exact agrees.expiry
  · exact agrees.session

end LogoutToken

end OpenIdConnect
