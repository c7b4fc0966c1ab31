import OpenIdConnect.Proofs.Token.Logout

/-!
# Logout tokens that are changed

A token in use can be given, and deprived of, any claim beside those that are always there, and
nothing checks such a change.  So a changed token is accepted again exactly when the changes have
left `nonce`, `sub`, `sid` and `exp` in order, and it is so at every moment exactly when each change
is harmless where it is made.
-/

namespace OpenIdConnect

namespace LogoutToken

/-! ## Changes -/

/-- A change to a token in use. -/
inductive Change : Type 1 where
  | setExpiry (time : Int64)
  | write {α : Type} (p : Parameter α) (value : α)
  | write? {α : Type} (p : Parameter α) (value : Option α)
  | insert (name : String) (value : Json)
  | remove {α : Type} (p : Parameter α)

namespace Change

/-- The token after a change. -/
def apply (t : LogoutToken) : Change → LogoutToken
  | setExpiry time => t.setExpiry time
  | write p value => { t with members := t.members.write p value }
  | write? p value => { t with members := t.members.write? p value }
  | insert name value => t.insert name value
  | remove p => t.erase p.name

/-- The name that a change concerns, and what it leaves there: a value, or nothing. -/
def effect? : Change → Option (String × Option Json)
  | setExpiry time => some ("exp", some (.ofInt64 time))
  | write p value => some (p.name, some (p.write value))
  | write? p value => value.map fun a => (p.name, some (p.write a))
  | insert name value => some (name, some value)
  | remove p => some (p.name, none)

/-- What a change leaves under a name, if it concerns it. -/
def leaves? (c : Change) (k : String) : Option (Option Json) :=
  match c.effect? with
  | some (name, left) => if k = name then some left else none
  | none => none

/--
The change does no harm to a token: it neither brings a nonce nor a claim of a wrong form, and
takes away the end-user or the session only where the other one is still named.
-/
structure Harmless (t : LogoutToken) (c : Change) : Prop where
  nonce : ∀ v, c.leaves? "nonce" ≠ some (some v)
  subject : ∀ v, c.leaves? "sub" = some (some v) → ∃ s, v = .string s ∧ s ≠ ""
  session : ∀ v, c.leaves? "sid" = some (some v) → v.IsText
  expiry : ∀ v, c.leaves? "exp" = some (some v) → v.IsInt64
  subjectRemoved : c.leaves? "sub" = some none → (t.members.get? "sid").isSome = true
  sessionRemoved : c.leaves? "sid" = some none → (t.members.get? "sub").isSome = true

theorem getD_leaves? {c : Change} {name : String} {left : Option Json}
    (effect : c.effect? = some (name, left)) (k : String) (before : Option Json) :
    (c.leaves? k).getD before = if k = name then left else before := by
  unfold leaves?
  rw [effect]
  dsimp only
  split <;> rfl

theorem get?_apply (c : Change) (t : LogoutToken) (k : String) :
    (c.apply t).members.get? k = (c.leaves? k).getD (t.members.get? k) := by
  cases c with
  | setExpiry time =>
      rw [getD_leaves? rfl]
      exact Object.get?_write t.members .expiry time k
  | write p value =>
      rw [getD_leaves? rfl]
      exact Object.get?_write t.members p value k
  | write? p value =>
      cases value with
      | none => rfl
      | some a =>
          rw [getD_leaves? rfl]
          exact Object.get?_write t.members p a k
  | insert name value =>
      rw [getD_leaves? rfl]
      exact Object.get?_insert t.members name value k
  | remove p =>
      rw [getD_leaves? rfl]
      exact Object.get?_erase t.members p.name k

/-- A change concerns one name only. -/
theorem leaves?_of_ne {c : Change} {k l : String} {left : Option Json}
    (here : c.leaves? k = some left) (other : l ≠ k) : c.leaves? l = none := by
  unfold leaves? at here ⊢
  split at here
  · split at here
    · next same => exact if_neg (same ▸ other)
    · cases here
  · cases here

/-- The claims that are always there are kept apart from every change. -/
theorem exists_apply (c : Change) (t : LogoutToken) :
    ∃ members, c.apply t = { t with members := members } := by
  cases c <;> exact ⟨_, rfl⟩

end Change

/-- The token after several changes, one after the other. -/
def after (t : LogoutToken) (changes : List Change) : LogoutToken :=
  changes.foldl (fun t c => c.apply t) t

/-- What changes leave under a name in the end. -/
def left (t : LogoutToken) (changes : List Change) (k : String) : Option Json :=
  changes.foldl (fun v c => (c.leaves? k).getD v) (t.members.get? k)

/-- Is every change harmless where it is made? -/
def HarmlessAlong : LogoutToken → List Change → Prop
  | _, [] => True
  | t, c :: rest => c.Harmless t ∧ HarmlessAlong (c.apply t) rest

theorem get?_after (t : LogoutToken) (changes : List Change) (k : String) :
    (t.after changes).members.get? k = t.left changes k := by
  induction changes generalizing t with
  | nil => rfl
  | cons c rest ih =>
      refine (ih (c.apply t)).trans ?_
      unfold left
      rw [Change.get?_apply]
      rfl

theorem exists_after (t : LogoutToken) (changes : List Change) :
    ∃ members, t.after changes = { t with members := members } := by
  induction changes generalizing t with
  | nil => exact ⟨t.members, rfl⟩
  | cons c rest ih =>
      obtain ⟨_, applied⟩ := c.exists_apply t
      obtain ⟨members, changed⟩ := ih (c.apply t)
      refine ⟨members, changed.trans ?_⟩
      rw [applied]

/-! ## Tokens that stay logout tokens -/

/-- The token is written without a nonce, names someone, and is accepted again. -/
structure Stays (t : LogoutToken) : Prop where
  nonce : t.toObject.get? "nonce" = none
  someone : (t.toObject.get? "sub").isSome = true ∨ (t.toObject.get? "sid").isSome = true
  accepted : ∃ t', ofObject t.toObject = .ok t'

/-- What stands under the names that tell a logout token is in order. -/
structure Orderly (found : String → Option Json) : Prop where
  subject : ∀ v, found "sub" = some v → ∃ s, v = .string s ∧ s ≠ ""
  session : ∀ v, found "sid" = some v → v.IsText
  someone : (found "sub").isSome = true ∨ (found "sid").isSome = true
  nonce : found "nonce" = none
  expiry : ∀ v, found "exp" = some v → v.IsInt64

theorem proper_iff_orderly {o : Object} : Proper o ↔ Orderly o.get? := by
  rw [proper_iff]
  constructor
  · rintro ⟨subject, session, someone, nonce, expiry⟩
    exact ⟨subject, session, someone, nonce, expiry⟩
  · rintro ⟨subject, session, someone, nonce, expiry⟩
    exact ⟨subject, session, someone, nonce, expiry⟩

theorem orderly_toObject_iff {t : LogoutToken} :
    Orderly t.toObject.get? ↔ Orderly t.members.get? := by
  have subject : t.toObject.get? "sub" = t.members.get? "sub" := get?_toObject_beside (by decide)
  have session : t.toObject.get? "sid" = t.members.get? "sid" := get?_toObject_beside (by decide)
  have nonce : t.toObject.get? "nonce" = t.members.get? "nonce" := get?_toObject_beside (by decide)
  have expiry : t.toObject.get? "exp" = t.members.get? "exp" := get?_toObject_beside (by decide)
  constructor
  · intro orderly
    exact ⟨subject ▸ orderly.subject, session ▸ orderly.session,
      subject ▸ session ▸ orderly.someone, nonce ▸ orderly.nonce, expiry ▸ orderly.expiry⟩
  · intro orderly
    exact ⟨subject ▸ orderly.subject, session ▸ orderly.session,
      subject ▸ session ▸ orderly.someone, nonce ▸ orderly.nonce, expiry ▸ orderly.expiry⟩

theorem stays_iff_orderly {t : LogoutToken} (reports : Reports t.events) :
    t.Stays ↔ Orderly t.members.get? := by
  constructor
  · rintro ⟨_, _, t', accepted⟩
    have proper := (readFrom_of_ofObject accepted).proper
    exact orderly_toObject_iff.mp (proper_iff_orderly.mp proper)
  · intro orderly
    have written := orderly_toObject_iff.mpr orderly
    have sound : t.Sound := ⟨proper_iff_orderly.mpr orderly, reports⟩
    obtain ⟨t', accepted, _⟩ := sound.exists_again
    exact ⟨written.nonce, written.someone, t', accepted⟩

/-! ## Harmless changes -/

namespace Change

variable {t : LogoutToken} {c : Change}

/-- A claim has a form after a change when it had it before and the change brings no other. -/
theorem forall_get?_apply {P : Json → Prop} {k : String}
    (before : ∀ v, t.members.get? k = some v → P v)
    (brought : ∀ v, c.leaves? k = some (some v) → P v) :
    ∀ v, (c.apply t).members.get? k = some v → P v := by
  intro v found
  rw [get?_apply] at found
  cases concerned : c.leaves? k with
  | none =>
      rw [concerned] at found
      exact before v found
  | some result =>
      rw [concerned] at found
      cases found
      exact brought v concerned

/-- What is taken away from one name is still found under the other one. -/
theorem isSome_apply_or {k l : String} (other : l ≠ k)
    (found : (t.members.get? k).isSome = true)
    (removed : c.leaves? k = some none → (t.members.get? l).isSome = true) :
    ((c.apply t).members.get? k).isSome = true ∨ ((c.apply t).members.get? l).isSome = true := by
  rw [get?_apply, get?_apply]
  cases concerned : c.leaves? k with
  | none => exact .inl found
  | some result =>
      cases result with
      | some v => exact .inl rfl
      | none =>
          rw [leaves?_of_ne concerned other]
          exact .inr (removed concerned)

theorem Harmless.orderly (harmless : c.Harmless t) (before : Orderly t.members.get?) :
    Orderly (c.apply t).members.get? where
  subject := forall_get?_apply before.subject harmless.subject
  session := forall_get?_apply before.session harmless.session
  someone := by
    rcases before.someone with subject | session
    · exact isSome_apply_or (by decide) subject harmless.subjectRemoved
    · exact (isSome_apply_or (by decide) session harmless.sessionRemoved).symm
  nonce := by
    refine Option.eq_none_iff_forall_ne_some.mpr fun v found => ?_
    refine forall_get?_apply (P := fun _ => False) ?_ ?_ v found
    · intro w present
      rw [before.nonce] at present
      cases present
    · exact harmless.nonce
  expiry := forall_get?_apply before.expiry harmless.expiry

theorem harmless_of_orderly (orderly : Orderly (c.apply t).members.get?) : c.Harmless t := by
  have found {k : String} {v : Json} (brought : c.leaves? k = some (some v)) :
      (c.apply t).members.get? k = some v := by
    rw [get?_apply, brought]
    rfl
  -- A name that is no longer there leaves it to the other one to tell who is meant.
  have kept {k l : String} (other : l ≠ k) (removed : c.leaves? k = some none)
      (someone : ((c.apply t).members.get? k).isSome = true ∨
        ((c.apply t).members.get? l).isSome = true) : (t.members.get? l).isSome = true := by
    rw [get?_apply, get?_apply, removed, leaves?_of_ne removed other] at someone
    rcases someone with impossible | there
    · cases impossible
    · exact there
  exact {
    nonce := by
      intro v brought
      have impossible := orderly.nonce
      rw [found brought] at impossible
      cases impossible
    subject := fun v brought => orderly.subject v (found brought)
    session := fun v brought => orderly.session v (found brought)
    expiry := fun v brought => orderly.expiry v (found brought)
    subjectRemoved := fun removed => kept (by decide) removed orderly.someone
    sessionRemoved := fun removed => kept (by decide) removed orderly.someone.symm }

/-- A change that concerns no claim by which a logout token is told is harmless. -/
theorem harmless_of_apart (apart : ∀ k ∈ ["nonce", "sub", "sid", "exp"], c.leaves? k = none) :
    c.Harmless t := by
  have untouched {k : String} (told : k ∈ ["nonce", "sub", "sid", "exp"]) {left : Option Json}
      (impossible : c.leaves? k = some left) : False := by
    rw [apart k told] at impossible
    cases impossible
  exact {
    nonce := fun v impossible => untouched (by decide) impossible
    subject := fun v impossible => (untouched (by decide) impossible).elim
    session := fun v impossible => (untouched (by decide) impossible).elim
    expiry := fun v impossible => (untouched (by decide) impossible).elim
    subjectRemoved := fun impossible => (untouched (by decide) impossible).elim
    sessionRemoved := fun impossible => (untouched (by decide) impossible).elim }

end Change

/-- A token stays in order all along exactly when each change is harmless where it is made. -/
theorem orderly_along_iff {t : LogoutToken} {changes : List Change}
    (start : Orderly t.members.get?) :
    (∀ before, before <+: changes → Orderly (t.after before).members.get?) ↔
      t.HarmlessAlong changes := by
  induction changes generalizing t with
  | nil =>
      refine ⟨fun _ => trivial, ?_⟩
      intro _ before nothing
      rw [List.prefix_nil.mp nothing]
      exact start
  | cons c rest ih =>
      constructor
      · intro along
        have first : Orderly (c.apply t).members.get? := along [c] ⟨rest, rfl⟩
        refine ⟨Change.harmless_of_orderly first, (ih first).mp ?_⟩
        intro before early
        exact along (c :: before) (List.cons_prefix_cons.mpr ⟨rfl, early⟩)
      · rintro ⟨harmless, others⟩ before early
        rcases List.prefix_cons_iff.mp early with rfl | ⟨more, rfl, earlier⟩
        · exact start
        · exact (ih (harmless.orderly start)).mpr others more earlier

/-! ## Tokens in use -/

/-- A token as it comes into use: it is accepted, carried by a compact token, or made. -/
inductive Begun : LogoutToken → Prop where
  | accepted {o : Object} {t : LogoutToken} (accepted : ofObject o = .ok t) : Begun t
  | carried {token : String} {t : LogoutToken} (carried : ofToken token = .ok t) : Begun t
  | made {issuer : String} {audience : NonEmpty String} {issuedAt : Int64} {tokenId : String}
      {subject session : Option String} {t : LogoutToken}
      (named : ∀ s, subject = some s → s ≠ "")
      (made : make issuer audience issuedAt tokenId subject session = .ok t) : Begun t

theorem Begun.sound {t : LogoutToken} (begun : Begun t) : t.Sound := by
  cases begun with
  | accepted accepted => exact sound_of_ofObject accepted
  | carried carried =>
      obtain ⟨claims, _, accepted⟩ := Outcome.bind_eq_ok.mp carried
      exact sound_of_ofObject (Outcome.inContext_eq_ok.mp accepted)
  | made named made => exact sound_of_make named made

theorem Sound.stays_after_iff {t : LogoutToken} (sound : t.Sound) (changes : List Change) :
    (t.after changes).Stays ↔ Orderly (t.after changes).members.get? := by
  obtain ⟨members, changed⟩ := exists_after t changes
  refine stays_iff_orderly ?_
  rw [changed]
  exact sound.reports

/-- The claims that are always there are written as before, whatever was inserted or removed. -/
theorem get?_toObject_after (t : LogoutToken) (changes : List Change) {name : String}
    (always : name ∈ ["iss", "aud", "iat", "jti", "events"]) :
    (t.after changes).toObject.get? name = t.toObject.get? name := by
  obtain ⟨members, changed⟩ := exists_after t changes
  rw [changed, get?_toObject, get?_toObject]
  fin_cases always <;> rfl

/--
Changes do not touch the claims that are always there.  After them a token is still a logout token
exactly when they have left the other claims in order, and it is one all along exactly when each of
them is harmless where it is made.
-/
theorem stays_iff_harmless {t : LogoutToken} (begun : Begun t) (changes : List Change) :
    (∀ name ∈ ["iss", "aud", "iat", "jti", "events"],
      (t.after changes).toObject.get? name = t.toObject.get? name) ∧
    ((t.after changes).Stays ↔ Orderly (t.left changes)) ∧
    ((∀ before, before <+: changes → (t.after before).Stays) ↔ t.HarmlessAlong changes) := by
  refine ⟨fun name always => get?_toObject_after t changes always, ?_, ?_⟩
  · rw [begun.sound.stays_after_iff]
    exact iff_of_eq (congrArg Orderly (funext (get?_after t changes)))
  · rw [← orderly_along_iff (proper_iff_orderly.mp begun.sound.proper)]
    exact forall_congr' fun before => imp_congr_right fun _ => begun.sound.stays_after_iff before

/-- Another issuer is inserted, and the session gives way to the end-user. -/
def handedOver : List Change :=
  [.insert "iss" (.string "https://other.example"), .write .subject "u",
    .remove Parameter.session]

theorem harmlessAlong_handedOver : sessionToken.HarmlessAlong handedOver := by
  refine ⟨Change.harmless_of_apart (by decide), ?_, ?_, trivial⟩
  · exact {
      nonce := by rintro v ⟨⟩
      subject := by
        rintro v ⟨⟩
        exact ⟨"u", rfl, by decide⟩
      session := by rintro v ⟨⟩
      expiry := by rintro v ⟨⟩
      subjectRemoved := by rintro ⟨⟩
      sessionRemoved := by rintro ⟨⟩ }
  · exact {
      nonce := by rintro v ⟨⟩
      subject := by rintro v ⟨⟩
      session := by rintro v ⟨⟩
      expiry := by rintro v ⟨⟩
      subjectRemoved := by rintro ⟨⟩
      sessionRemoved := fun _ => rfl }

theorem handedOver_stays :
    (sessionToken.after handedOver).Stays ∧
      (sessionToken.after handedOver).toObject.get? "iss" =
        some (.string "https://op.example") := by
  obtain ⟨kept, _, along⟩ := stays_iff_harmless (.accepted ofObject_sessionClaims) handedOver
  exact ⟨along.mpr harmlessAlong_handedOver _ (List.prefix_refl _), kept "iss" (by decide)⟩

/-- Not every change leaves a logout token one. -/
theorem not_all_stay :
    ¬∀ (t : LogoutToken) (changes : List Change), Begun t → (t.after changes).Stays := by
  intro stay
  have nonce := (stay sessionToken [.insert "nonce" (.string "n")]
    (.accepted ofObject_sessionClaims)).nonce
  rw [get?_toObject_beside (by decide), get?_after] at nonce
  cases nonce

end LogoutToken

end OpenIdConnect
