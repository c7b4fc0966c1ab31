import OpenIdConnect.Authentication.Refusal
import OpenIdConnect.Proofs.Url.Query

/-!
# What error redirects tell

A redirect tells the client of an error in pairs of texts: behind those of the redirect URI in the
query, or alone in the fragment.  Each text arrives as it is, so that nothing in a description or in
a state can add a pair, drop one or alter one, and the rest of the redirect URI stays as it is.
-/

namespace OpenIdConnect

namespace ErrorResponse

/-- What there is to tell, in this order: the code, and whatever else there is. -/
def told (e : ErrorResponse) (state : Option String) : List (String × String) :=
  [("error", some e.code.text), ("error_description", e.description),
    ("error_uri", e.page.map Url.text), ("state", state)].filterMap
      fun (name, value) => value.map (name, ·)

theorem pairs_eq_told (e : ErrorResponse) (state : Option String) :
    e.pairs state = e.told state := by
  obtain ⟨code, description, page⟩ := e
  cases description <;> cases page <;> cases state <;> rfl

/-- The redirect in the query: the pairs of the target, and behind them what is told. -/
theorem redirect_query (e : ErrorResponse) (target : Url) (state : Option String) :
    ∃ u, e.redirect target .query state = .ok u ∧
      u.queryPairs = target.queryPairs ++ e.told state ∧
      u.hierarchy = target.hierarchy ∧ u.fragment = target.fragment := by
  refine ⟨target.appendQuery (Text.Form.write (e.pairs state)), rfl, ?_, ?_, ?_⟩
  · rw [Url.queryPairs_appendQuery, Text.Form.read_write, pairs_eq_told]
  · exact target.hierarchy_appendQuery _
  · exact target.fragment_appendQuery _

/-- The redirect in the fragment: what is told and nothing else. -/
theorem redirect_fragment (e : ErrorResponse) (target : Url) (state : Option String) :
    ∃ u, e.redirect target .fragment state = .ok u ∧ u.fragmentPairs = e.told state ∧
      u.hierarchy = target.hierarchy ∧ u.query = target.query := by
  refine ⟨target.setFragment (Text.Form.write (e.pairs state)), rfl, ?_, rfl, rfl⟩
  rw [Url.fragmentPairs_setFragment_write, pairs_eq_told]

theorem redirect_elsewhere (e : ErrorResponse) (target : Url) (state : Option String)
    {mode : ResponseMode} (query : mode ≠ .query) (fragment : mode ≠ .fragment) :
    e.redirect target mode state = .error (.noRedirect mode.text) := by
  cases mode with
  | query => exact absurd rfl query
  | fragment => exact absurd rfl fragment
  | _ => rfl

/--
Whatever its texts are, an error response is told exactly: in the query behind what the target says
there, or in the fragment instead of what the target says there, with everything else as in the
target.  There is no other way to redirect.
-/
theorem redirect_tells_exactly (e : ErrorResponse) (target : Url) (state : Option String) :
    (∃ u, e.redirect target .query state = .ok u ∧
      u.queryPairs = target.queryPairs ++ e.told state ∧
      u.hierarchy = target.hierarchy ∧ u.fragment = target.fragment) ∧
    (∃ u, e.redirect target .fragment state = .ok u ∧ u.fragmentPairs = e.told state ∧
      u.hierarchy = target.hierarchy ∧ u.query = target.query) ∧
    ∀ mode, mode ≠ .query → mode ≠ .fragment →
      e.redirect target mode state = .error (.noRedirect mode.text) :=
  ⟨e.redirect_query target state, e.redirect_fragment target state,
    fun _ => e.redirect_elsewhere target state⟩

/-- A denial with a description that looks like more pairs and a fragment. -/
def crafted : ErrorResponse :=
  (ofCode .accessDenied).describe "no&state=forged#top"

theorem crafted_told :
    (∃ u, crafted.redirect ⟨"https://c.example/cb", some "a=1", some "here"⟩ .query
        (some "s=1&error=none") = .ok u ∧
      u.queryPairs = [("a", "1"), ("error", "access_denied"),
        ("error_description", "no&state=forged#top"), ("state", "s=1&error=none")] ∧
      u.fragment = some "here") ∧
    crafted.redirect ⟨"https://c.example/cb", some "a=1", some "here"⟩ .formPost
        (some "s=1&error=none") =
      .error (.noRedirect "form_post") := by
  obtain ⟨⟨u, redirected, pairs, _, fragment⟩, _, elsewhere⟩ := redirect_tells_exactly crafted
    ⟨"https://c.example/cb", some "a=1", some "here"⟩ (some "s=1&error=none")
  refine ⟨⟨u, redirected, ?_, fragment⟩, ?_⟩
  · rw [pairs]
    rfl
  · exact elsewhere .formPost (by decide) (by decide)

end ErrorResponse

/-- Where a refused client is redirected, it is told of the refusal with its own state. -/
theorem Refusal.told_of_redirect? {r : Refusal} {u : Url} (redirected : r.redirect? = some (.ok u)) :
    ∃ target mode, r.requester.redirectUri = some target ∧
      r.requester.responseMode = some mode ∧
      (mode = .query ∧ u.queryPairs = target.queryPairs ++ r.response.told r.requester.state ∨
        mode = .fragment ∧ u.fragmentPairs = r.response.told r.requester.state) := by
  unfold redirect? at redirected
  split at redirected
  · next target mode known answered =>
      have made := Option.some.inj redirected
      refine ⟨target, mode, known, answered, ?_⟩
      by_cases query : mode = .query
      · subst query
        obtain ⟨told, sent, pairs, _⟩ := r.response.redirect_query target r.requester.state
        cases made.symm.trans sent
        exact .inl ⟨rfl, pairs⟩
      · by_cases fragment : mode = .fragment
        · subst fragment
          obtain ⟨told, sent, pairs, _⟩ := r.response.redirect_fragment target r.requester.state
          cases made.symm.trans sent
          exact .inr ⟨rfl, pairs⟩
        · rw [r.response.redirect_elsewhere target _ query fragment] at made
          cases made
  · cases redirected

end OpenIdConnect
