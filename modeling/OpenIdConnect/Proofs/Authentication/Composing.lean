import OpenIdConnect.Proofs.Authentication.Runs

/-!
# Requests that clients compose

A client starts from the least that a request has to say, and sets fields and custom parameters in
any order and any number of times, with values that texts write.  The request that is released in
the end is read from its own parameters as the same one, and is released unchanged when it is
composed from again.
-/

namespace OpenIdConnect

/-- The parameter reads the value from some text. -/
def Parameter.Spells {α : Type} (p : Parameter α) (a : α) : Prop :=
  ∃ s, p.read (.string s) = .ok a

namespace AuthenticationRequest

variable {α : Type} {draft r : AuthenticationRequest}

/-- Requests as clients compose them, one setting after the other. -/
inductive Composed : AuthenticationRequest → Prop where
  | plain {responseType : ResponseType} {scope : Scope} (clientId : String)
      (redirectUri : Option Url) (typeSpelled : Parameter.responseType.Spells responseType)
      (scopeSpelled : Parameter.scope.Spells scope) :
      Composed (.plain responseType scope clientId redirectUri)
  | endpoint {r : AuthenticationRequest} (u : Url) (before : Composed r) :
      Composed { r with endpoint := some u }
  | state {r : AuthenticationRequest} (s : String) (before : Composed r) :
      Composed { r with state := some s }
  | responseMode {r : AuthenticationRequest} {mode : ResponseMode}
      (spelled : Parameter.responseMode.Spells mode) (before : Composed r) :
      Composed { r with explicitMode := some mode }
  | nonce {r : AuthenticationRequest} (s : String) (before : Composed r) :
      Composed { r with nonce := some s }
  | display {r : AuthenticationRequest} (d : Display) (before : Composed r) :
      Composed { r with display := some d }
  | prompt {r : AuthenticationRequest} {p : Prompt} (spelled : Parameter.prompt.Spells p)
      (before : Composed r) : Composed { r with prompt := some p }
  | maxAge {r : AuthenticationRequest} (n : UInt64) (before : Composed r) :
      Composed { r with maxAge := some n }
  | uiLocales {r : AuthenticationRequest} {tags : List LanguageTag}
      (spelled : Parameter.uiLocales.Spells tags) (before : Composed r) :
      Composed { r with uiLocales := some tags }
  | claimsLocales {r : AuthenticationRequest} {tags : List LanguageTag}
      (spelled : Parameter.claimsLocales.Spells tags) (before : Composed r) :
      Composed { r with claimsLocales := some tags }
  | idTokenHint {r : AuthenticationRequest} {hint : String}
      (spelled : Parameter.idTokenHint.Spells hint) (before : Composed r) :
      Composed { r with idTokenHint := some hint }
  | loginHint {r : AuthenticationRequest} (s : String) (before : Composed r) :
      Composed { r with loginHint := some s }
  | acrValues {r : AuthenticationRequest} {classes : NonEmpty String}
      (spelled : Parameter.acrValues.Spells classes) (before : Composed r) :
      Composed { r with acrValues := some classes }
  | claims {r : AuthenticationRequest} {json : Json} {c : Claims.Request}
      (parsed : Claims.Request.parse json = .ok c) (before : Composed r) :
      Composed { r with claims := some c }
  | request {r : AuthenticationRequest} (s : String) (before : Composed r) :
      Composed { r with request := some s }
  | requestUri {r : AuthenticationRequest} (u : Url) (before : Composed r) :
      Composed { r with requestUri := some u }
  | challenge {r : AuthenticationRequest} {method : ChallengeMethod} (s : String)
      (spelled : Parameter.codeChallengeMethod.Spells method) (before : Composed r) :
      Composed (r.setChallenge s method)
  | resource {r : AuthenticationRequest} {u : Url} (spelled : Parameter.resource.Spells u)
      (before : Composed r) : Composed { r with resource := some u }
  | grantedScopes {r : AuthenticationRequest} (b : Bool) (before : Composed r) :
      Composed { r with grantedScopes := some b }
  | custom {r : AuthenticationRequest} (key : String) (value : Json) (before : Composed r) :
      Composed { r with custom := r.custom.insert key value }

/-! ## What every setting keeps -/

/-- Tokens that texts write are words, and stay so whatever else is set. -/
theorem Composed.worded (composed : Composed draft) : draft.Worded := by
  induction composed with
  | plain _ _ typeSpelled scopeSpelled =>
      obtain ⟨typeText, typeRead⟩ := typeSpelled
      obtain ⟨scopeText, scopeRead⟩ := scopeSpelled
      refine ⟨Parameter.worded_responseType typeRead, Parameter.worded_scope scopeRead, ?_, ?_⟩
      · rintro p ⟨⟩
      · rintro classes ⟨⟩
  | prompt spelled _ worded =>
      obtain ⟨s, read⟩ := spelled
      refine { worded with prompt := ?_ }
      rintro p ⟨⟩
      exact Parameter.worded_prompt read
  | acrValues spelled _ worded =>
      obtain ⟨s, read⟩ := spelled
      refine { worded with acrValues := ?_ }
      rintro classes ⟨⟩
      exact Parameter.worded_acrValues read
  | _ =>
      -- No other setting touches a field that holds tokens.
      rename_i worded
      exact { worded with }

/-- A field that was just set has the value that it was set to. -/
theorem forall_set {P : α → Prop} {a : α} (holds : P a) : ∀ b, some a = some b → P b := by
  rintro _ ⟨⟩
  exact holds

theorem exists_json_of_spells {p : Parameter α} {a : α} (spelled : p.Spells a) :
    ∃ json, p.read json = .ok a := by
  obtain ⟨s, read⟩ := spelled
  exact ⟨.string s, read⟩

/-- Values that were read stay so whatever else is set. -/
theorem Composed.wasRead (composed : Composed draft) : draft.WasRead := by
  induction composed with
  | plain _ _ _ _ => constructor <;> rintro _ ⟨⟩
  | responseMode spelled _ wasRead =>
      exact { wasRead with explicitMode := forall_set (exists_json_of_spells spelled) }
  | uiLocales spelled _ wasRead =>
      exact { wasRead with uiLocales := forall_set (exists_json_of_spells spelled) }
  | claimsLocales spelled _ wasRead =>
      exact { wasRead with claimsLocales := forall_set (exists_json_of_spells spelled) }
  | idTokenHint spelled _ wasRead =>
      exact { wasRead with idTokenHint := forall_set (exists_json_of_spells spelled) }
  | claims parsed _ wasRead =>
      exact { wasRead with claims := forall_set ⟨_, Outcome.mapError_eq_ok.mpr parsed⟩ }
  | challenge _ spelled _ wasRead =>
      exact { wasRead with explicitMethod := forall_set (exists_json_of_spells spelled) }
  | resource spelled _ wasRead =>
      exact { wasRead with resource := forall_set (exists_json_of_spells spelled) }
  | _ =>
      rename_i wasRead
      exact { wasRead with }

/-! ## Releasing -/

theorem release_eq_ok_iff : draft.release = .ok r ↔ draft.obstacle? = none ∧ draft.tidied = r := by
  rw [release]
  cases draft.obstacle? <;> simp

theorem said_tidied (draft : AuthenticationRequest) : draft.tidied.said = draft.tidied := by
  simp [said, tidied]

/-- What is released has nothing to tidy. -/
theorem tidied_tidied (draft : AuthenticationRequest) : draft.tidied.tidied = draft.tidied := by
  have custom : (draft.custom.eraseAll Parameter.registered).eraseAll Parameter.registered =
      draft.custom.eraseAll Parameter.registered := by
    refine Object.ext_get? fun k => ?_
    rw [Object.get?_eraseAll, Object.get?_eraseAll]
    split <;> rfl
  simp [tidied, custom]

theorem WasRead.tidied (wasRead : draft.WasRead) : draft.tidied.WasRead := by
  refine { wasRead with claims := ?_ }
  intro c kept
  exact wasRead.claims c (Option.filter_eq_some_iff.mp kept).1

/-- What a client composes and releases is read as the same request, and released as it is. -/
theorem reread_of_composed (composed : Composed draft) (released : draft.release = .ok r)
    (addressed : r.Addressed) :
    (∃ r', parse r.endpoint r.parameters = .ok r' ∧ (r' == r) = true ∧
      { r' with claims := r.claims } = r) ∧
    r.release = .ok r := by
  have sound := sound_of_release released
  obtain ⟨clear, rfl⟩ := release_eq_ok_iff.mp released
  have worded : draft.tidied.Worded := { composed.worded with }
  obtain ⟨r', read, restates⟩ :=
    composed.wasRead.tidied.exists_restated sound.apart sound.proper addressed worded
  have same := same_of_restates restates
  obtain ⟨_, whole⟩ := restates
  rw [said_tidied] at same whole
  exact ⟨⟨r', read, same, whole⟩, release_eq_ok_iff.mpr ⟨clear, tidied_tidied draft⟩⟩

/-- The claims request for an e-mail address from the UserInfo endpoint. -/
def emailFromUserinfo : Claims.Request :=
  ⟨.empty, ⟨some ⟨[.ofKey ⟨"email", none⟩]⟩, []⟩⟩

/-- A request with a state, and with a custom parameter that would stand in its place. -/
def shadowed : AuthenticationRequest :=
  { listedRequest .codeOnly with
    state := some "s"
    claims := some emailFromUserinfo
    custom := (Object.empty.insert "state" (.string "other")).insert "x" (.bool true) }

theorem composed_shadowed : Composed shadowed := by
  have typeSpelled : Parameter.responseType.Spells .codeOnly := ⟨"code", rfl⟩
  have scopeSpelled : Parameter.scope.Spells (Scope.ofList ["openid"]) := ⟨"openid", rfl⟩
  have parsed : Claims.Request.parse emailFromUserinfo.toObject.toJson = .ok emailFromUserinfo := by
    with_unfolding_all rfl
  have start := Composed.plain "a" (listedRequest .codeOnly).redirectUri typeSpelled scopeSpelled
  exact .custom "x" _ (.custom "state" _ (.claims parsed (.state "s" start)))

set_option maxRecDepth 20000 in
theorem addressed_shadowed : shadowed.tidied.Addressed where
  redirectUri := by
    rintro u ⟨⟩
    decide +kernel
  requestUri := by rintro u ⟨⟩
  resource := by rintro u ⟨⟩

theorem shadowed_reread :
    (∃ r', parse none shadowed.tidied.parameters = .ok r' ∧ (r' == shadowed.tidied) = true ∧
      { r' with claims := some emailFromUserinfo } = shadowed.tidied) ∧
    shadowed.tidied.release = .ok shadowed.tidied := by
  have released : shadowed.release = .ok shadowed.tidied := release_eq_ok_iff.mpr ⟨rfl, rfl⟩
  exact reread_of_composed composed_shadowed released addressed_shadowed

end AuthenticationRequest

end OpenIdConnect
