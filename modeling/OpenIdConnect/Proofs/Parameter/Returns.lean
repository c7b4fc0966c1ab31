import OpenIdConnect.Proofs.Claims.Unwrapping
import OpenIdConnect.Proofs.Parameter.Query
import OpenIdConnect.Proofs.Parameter.Rereading

/-!
# Parameters that come back from a query string

A value comes back when the text that is written for it is not empty and read as the value.  What
a parameter reads from a text comes back, lists of languages without tags apart; for URLs and
claims this rests on the written text being read as it was written.
-/

namespace OpenIdConnect

namespace Parameter

variable {α : Type}

/-- One value is written into a query string, and another is read from it. -/
def Returns (p : Parameter α) (written read : α) : Prop :=
  ∃ value, Object.queried (p.write written) = some value ∧ p.read value = .ok read

theorem returns_of_text {p : Parameter α} {a : α} {s : String} (written : p.write a = .string s)
    (filled : s ≠ "") (again : Rereads p a) : Returns p a a := by
  refine ⟨.string s, ?_, ?_⟩
  · rw [written]
    exact Object.queried_string filled
  · rw [← written]
    exact again

/-- Tokens that are words come back when there are any. -/
theorem returns_of_tokens {p : Parameter α} {a : α} {tokens : List String}
    (written : p.write a = .ofTokens tokens) (areWords : ∀ t ∈ tokens, Text.IsWord t)
    (filled : tokens ≠ []) (again : Rereads p a) : Returns p a a := by
  refine returns_of_text written ?_ again
  cases tokens with
  | nil => exact absurd rfl filled
  | cons word rest => exact Text.joined_ne_empty (areWords word List.mem_cons_self).nonempty

theorem returns_of_values {p : Parameter α} {a : α} {β : Type} {ofText : String → β}
    {text : β → String} {values : List β} (same : ∀ s, text (ofText s) = s)
    (written : p.write a = .ofTokens (values.map text))
    (worded : ∀ v ∈ values, ∃ word, Text.IsWord word ∧ ofText word = v) (filled : values ≠ [])
    (again : Rereads p a) : Returns p a a := by
  refine returns_of_tokens written ?_ ?_ again
  · intro token member
    obtain ⟨v, among, rfl⟩ := List.mem_map.mp member
    obtain ⟨word, isWord, rfl⟩ := worded v among
    rw [same]
    exact isWord
  · intro empty
    exact filled (List.map_eq_nil_iff.mp empty)

/-! ## Texts and enumerations -/

theorem returns_text {name s value : String} (filled : s ≠ "")
    (read : (text name).read (.string s) = .ok value) : Returns (text name) value value := by
  cases read
  exact returns_of_text rfl filled (rereads_text name s)

theorem returns_responseMode {s : String} {mode : ResponseMode} (filled : s ≠ "")
    (read : responseMode.read (.string s) = .ok mode) : Returns responseMode mode mode := by
  have again := rereads_responseMode read
  cases read
  exact returns_of_text (congrArg Json.string (text_ofText_responseMode s)) filled again

theorem returns_codeChallengeMethod {s : String} {method : ChallengeMethod} (filled : s ≠ "")
    (read : codeChallengeMethod.read (.string s) = .ok method) :
    Returns codeChallengeMethod method method := by
  have again := rereads_codeChallengeMethod read
  cases read
  exact returns_of_text (congrArg Json.string (text_ofText_challengeMethod s)) filled again

theorem returns_display (d : Display) : Returns display d d := by
  refine returns_of_text rfl ?_ (rereads_display d)
  cases d <;> decide

theorem returns_includeGrantedScopes (b : Bool) : Returns includeGrantedScopes b b := by
  refine returns_of_text rfl ?_ (rereads_includeGrantedScopes b)
  cases b <;> decide

theorem returns_idTokenHint {s hint : String} (filled : s ≠ "")
    (read : idTokenHint.read (.string s) = .ok hint) : Returns idTokenHint hint hint := by
  have again := rereads_idTokenHint read
  obtain ⟨token, same, rest⟩ := Outcome.bind_eq_ok.mp read
  obtain ⟨header, _, done⟩ := Outcome.bind_eq_ok.mp rest
  cases same
  cases done
  exact returns_of_text rfl filled again

/-! ## Lists of tokens -/

theorem returns_scope {s : String} {scope : Scope}
    (read : Parameter.scope.read (.string s) = .ok scope) (filled : scope.values ≠ []) :
    Returns Parameter.scope scope scope :=
  returns_of_tokens rfl (worded_scope read) filled (rereads_scope (worded_scope read))

theorem returns_responseType {s : String} {t : ResponseType}
    (read : responseType.read (.string s) = .ok t) : Returns responseType t t :=
  returns_of_values text_ofText_responseValue rfl (worded_responseType read) t.nonempty
    (rereads_responseType (worded_responseType read))

theorem returns_prompt {s : String} {p : Prompt} (read : prompt.read (.string s) = .ok p) :
    Returns prompt p p :=
  returns_of_values text_ofText_promptValue rfl (worded_prompt read)
    (List.cons_ne_nil p.values.first p.values.rest) (rereads_prompt_iff.mpr (worded_prompt read))

theorem returns_acrValues {s : String} {classes : NonEmpty String}
    (read : acrValues.read (.string s) = .ok classes) : Returns acrValues classes classes :=
  returns_of_tokens rfl (worded_acrValues read) (List.cons_ne_nil classes.first classes.rest)
    (rereads_acrValues_iff.mpr (worded_acrValues read))

/-- Language tags come back when there are any. -/
theorem returns_locales {name s : String} {tags : List LanguageTag}
    (read : (locales name).read (.string s) = .ok tags) (filled : tags ≠ []) :
    Returns (locales name) tags tags := by
  refine returns_of_tokens rfl (isWord_locales read) ?_ (rereads_locales read)
  intro empty
  exact filled (List.map_eq_nil_iff.mp empty)

theorem returns_maxAge (n : UInt64) : Returns maxAge n n := by
  refine returns_of_text rfl ?_ (rereads_maxAge n)
  intro empty
  rw [← String.toList_inj, String.toList_ofList] at empty
  exact Nat.toDigits_ne_nil empty

/-! ## URLs and claims -/

theorem text_ne_empty {u : Url} (again : Url.parse u.text = .ok u) : u.text ≠ "" := by
  intro empty
  rw [empty] at again
  cases again

theorem returns_url {name : String} {u : Url} (again : Url.parse u.text = .ok u) :
    Returns (url name) u u :=
  returns_of_text rfl (text_ne_empty again) (rereads_url again)

theorem returns_resource {value : Json} {u : Url} (again : Url.parse u.text = .ok u)
    (read : resource.read value = .ok u) : Returns resource u u :=
  returns_of_text rfl (text_ne_empty again) (rereads_resource again read)

/-- A claims request that was read comes back as the same one. -/
theorem returns_claims {value : Json} {c : Claims.Request}
    (read : claims.read value = .ok c) (again : Json.read c.text = .ok c.toObject.toJson) :
    ∃ c', Returns claims c c' ∧ (c' == c) = true := by
  obtain ⟨c', reread, same⟩ := exists_reread_claims read
  refine ⟨c', ⟨.string c.text, Object.queried_string (Json.compact_ne_empty _), ?_⟩, same⟩
  refine Outcome.mapError_eq_ok.mpr ?_
  rw [(Claims.Request.Unwraps.text again).parse_eq]
  exact Outcome.mapError_eq_ok.mp reread

end Parameter

end OpenIdConnect
