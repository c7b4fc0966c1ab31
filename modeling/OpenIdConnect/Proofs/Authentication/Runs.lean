import Mathlib.Logic.Relation
import OpenIdConnect.Authentication.Assembly
import OpenIdConnect.Authentication.Draft
import OpenIdConnect.Proofs.Authentication.Rereading

/-!
# Requests along request objects

A request is read, or composed and released; after that, request objects are merged into it, and
it may hold request objects of its own that are resolved.  However this goes on, the request stays
proper and the client stays the same.  The response type stays the same as long as its values are
words; a value that is none falls apart when the request is read again.
-/

namespace OpenIdConnect

namespace AuthenticationRequest

variable {α : Type} {r r' r0 : AuthenticationRequest} {object : Object}

/-- Requests as they are made. -/
inductive Made : AuthenticationRequest → Prop where
  | parsed {endpoint : Option Url} {params : Object} {r : AuthenticationRequest}
      (read : parse endpoint params = .ok r) : Made r
  | ofQuery {q : String} {r : AuthenticationRequest} (read : ofQuery q = .ok r) : Made r
  | ofUrl {url : Url} {r : AuthenticationRequest} (read : ofUrl url = .ok r) : Made r
  | released {draft r : AuthenticationRequest} (passed : draft.release = .ok r) : Made r

/-- One request object is resolved or merged. -/
inductive Step : AuthenticationRequest → AuthenticationRequest → Prop where
  | resolved {r r' : AuthenticationRequest} {decode : String → Except Fault Object}
      (step : r.resolveWith decode = .ok r') : Step r r'
  | merged {r r' : AuthenticationRequest} {object : Object}
      (step : r.assemble object = .ok r') : Step r r'

/-- Any number of request objects is used in turn. -/
abbrev Run : AuthenticationRequest → AuthenticationRequest → Prop :=
  Relation.ReflTransGen Step

/-- A request has what it needs, and its custom parameters have names of their own. -/
structure Sound (r : AuthenticationRequest) : Prop where
  proper : Proper r
  apart : Apart r

/-! ## Making requests -/

theorem sound_of_parse {endpoint : Option Url} {params : Object}
    (read : parse endpoint params = .ok r) : Sound r := by
  obtain ⟨_, fields, proper⟩ := parse_eq_ok_iff.mp read
  exact ⟨proper, fields.apart⟩

theorem proper_of_obstacle? (clear : r.obstacle? = none) : Proper r := by
  unfold obstacle? at clear
  split at clear
  · cases clear
  split at clear
  · cases clear
  split at clear
  · cases clear
  split at clear
  · cases clear
  next single redirect openid nonce =>
    refine ⟨single, ?_, by simpa using openid, ?_⟩
    · intro plain
      cases found : r.redirectUri with
      | none => exact absurd ⟨by rw [found]; rfl, by rw [plain]; rfl⟩ redirect
      | some u => rfl
    · intro _ needed
      cases found : r.nonce with
      | none => exact absurd ⟨by rw [found]; rfl, needed⟩ nonce
      | some text => rfl

theorem sound_of_release {draft : AuthenticationRequest} (passed : draft.release = .ok r) :
    Sound r := by
  unfold release at passed
  split at passed
  · cases passed
  · next clear =>
      cases passed
      obtain ⟨single, redirect, openid, nonce⟩ := proper_of_obstacle? clear
      refine ⟨⟨single, redirect, openid, nonce⟩, ?_⟩
      intro k registered
      change (draft.custom.eraseAll Parameter.registered).get? k = none
      rw [Object.get?_eraseAll, if_pos registered]

theorem Made.sound (made : Made r) : Sound r := by
  cases made with
  | parsed read => exact sound_of_parse read
  | ofQuery read =>
      obtain ⟨_, _, parsed⟩ := exists_textual_of_query read
      exact sound_of_parse parsed
  | ofUrl read =>
      obtain ⟨_, _, parsed⟩ := exists_textual_of_url read
      exact sound_of_parse parsed
  | released passed => exact sound_of_release passed

/-- What a query string or a URL writes is made of words. -/
theorem worded_of_ofQuery {q : String} (read : ofQuery q = .ok r) : r.Worded := by
  obtain ⟨_, textual, parsed⟩ := exists_textual_of_query read
  exact worded_of_textual textual (parse_eq_ok_iff.mp parsed).2.1

theorem worded_of_ofUrl {url : Url} (read : ofUrl url = .ok r) : r.Worded := by
  obtain ⟨_, textual, parsed⟩ := exists_textual_of_url read
  exact worded_of_textual textual (parse_eq_ok_iff.mp parsed).2.1

/-! ## Merging a request object -/

/-- The parameters that a request and a request object amount to. -/
def combined (r : AuthenticationRequest) (object : Object) : Object :=
  (withoutRequestObject r.parameters).union (withoutRequestObject object)

theorem assemble_eq_ok_iff :
    r.assemble object = .ok r' ↔
      contradicts object .clientId r.clientId = false ∧
      contradicts object .responseType r.responseType = false ∧
      parse r.endpoint (combined r object) = .ok r' := by
  unfold assemble
  rw [Outcome.refused_eq_ok, Outcome.refused_eq_ok, Bool.not_eq_true, Bool.not_eq_true]
  rfl

theorem get?_combined (r : AuthenticationRequest) (object : Object) (k : String) :
    (combined r object).get? k =
      if k = Parameter.request.name ∨ k = Parameter.requestUri.name then none
      else (object.get? k).or (r.parameters.get? k) := by
  unfold combined withoutRequestObject
  rw [Object.get?_union, Object.get?_eraseAll, Object.get?_eraseAll]
  simp only [List.mem_cons, List.not_mem_nil, or_false]
  split <;> rfl

theorem read?_combined {p : Parameter α}
    (beside : ¬(p.name = Parameter.request.name ∨ p.name = Parameter.requestUri.name)) :
    (combined r object).read? p = (object.read? p).or (r.parameters.read? p) := by
  unfold Object.read?
  rw [get?_combined, if_neg beside]
  exact Option.map_or

/-- A parameter that holds a request object is left out. -/
theorem read?_requestObject (p : Parameter α)
    (named : p.name = Parameter.request.name ∨ p.name = Parameter.requestUri.name) :
    (combined r object).read? p = none := by
  unfold Object.read?
  rw [get?_combined, if_pos named]
  rfl

/-- A value that a request object does not contradict is named by it, or by the request alone. -/
theorem named_or_kept [BEq α] {p : Parameter α} {value a : α}
    (beside : ¬(p.name = Parameter.request.name ∨ p.name = Parameter.requestUri.name))
    (agrees : contradicts object p value = false)
    (read : (combined r object).read? p = some (.ok a)) :
    (object.contains p.name = true ∧ (a == value) = true) ∨
      (object.contains p.name = false ∧ r.parameters.read? p = some (.ok a)) := by
  have contains : object.contains p.name = (object.read? p).isSome :=
    (object.isSome_read? p).symm
  rw [read?_combined beside] at read
  unfold contradicts at agrees
  rw [contains]
  cases named : object.read? p with
  | none =>
      rw [named, Option.none_or] at read
      exact .inr ⟨rfl, read⟩
  | some result =>
      rw [named, Option.some_or] at read
      cases read
      rw [named] at agrees
      exact .inl ⟨rfl, by simpa using agrees⟩

/-- What merging a request object leaves of a request. -/
structure Merged (object : Object) (r r' : AuthenticationRequest) : Prop where
  request : r'.request = none
  requestUri : r'.requestUri = none
  redirect : r'.redirectUri.isSome = true
  nonce : r'.responseType.needsNonce = true → r'.nonce.isSome = true
  client : r'.clientId = r.clientId
  responseType : (r'.responseType == r.responseType) = true ↔
    object.contains Parameter.responseType.name = true ∨ r.responseType.Worded

theorem merged_of_assemble (apart : r.Apart) (step : r.assemble object = .ok r') :
    Merged object r r' := by
  obtain ⟨sameClient, sameType, parsed⟩ := assemble_eq_ok_iff.mp step
  obtain ⟨_, fields, proper⟩ := parse_eq_ok_iff.mp parsed
  have request : r'.request = none := by
    have found := fields.request
    rw [read?_requestObject .request (.inl rfl)] at found
    exact Option.map_eq_none_iff.mp found.symm
  have requestUri : r'.requestUri = none := by
    have found := fields.requestUri
    rw [read?_requestObject .requestUri (.inr rfl)] at found
    exact Option.map_eq_none_iff.mp found.symm
  have plain : r'.hasRequestObject = false := by
    unfold hasRequestObject
    rw [request, requestUri]
    rfl
  refine ⟨request, requestUri, proper.redirect plain, proper.nonce plain, ?_, ?_⟩
  · have among : entry .clientId (some r.clientId) ∈ r.entries := by simp [entries]
    rcases named_or_kept (by decide) sameClient fields.clientId with
      ⟨_, same⟩ | ⟨_, kept⟩
    · exact eq_of_beq same
    · rw [read?_parameters apart among] at kept
      exact (Except.ok.inj (Option.some.inj kept)).symm
  · have among : entry .responseType (some r.responseType) ∈ r.entries := by simp [entries]
    rcases named_or_kept (by decide) sameType fields.responseType with
      ⟨named, same⟩ | ⟨unnamed, kept⟩
    · simp [named, same]
    · rw [read?_parameters apart among] at kept
      have again := Option.some.inj kept
      rw [unnamed]
      constructor
      · intro same
        exact .inr (Parameter.worded_of_same_reread again same)
      · rintro (impossible | worded)
        · cases impossible
        · have same := again.symm.trans (Parameter.rereads_responseType worded)
          rw [Except.ok.inj same]
          exact beq_self_eq_true r.responseType

/-- A request object by value is decoded and merged. -/
theorem exists_merged_of_resolveWith (apart : r.Apart) {decode : String → Except Fault Object}
    {token : String} (held : r.request = some token) (step : r.resolveWith decode = .ok r') :
    ∃ object, decode token = .ok object ∧ Merged object r r' := by
  unfold resolveWith at step
  rw [held] at step
  dsimp only at step
  split at step
  · next object decoded => exact ⟨object, decoded, merged_of_assemble apart step⟩
  · cases step

/-! ## Runs -/

/-- A step leaves a request as it is, or merges a request object into it. -/
theorem Step.eq_or_assemble (step : Step r r') :
    r' = r ∨ ∃ object, r.assemble object = .ok r' := by
  cases step with
  | merged step => exact .inr ⟨_, step⟩
  | resolved step =>
      unfold resolveWith at step
      split at step
      · cases step
        exact .inl rfl
      · split at step
        · exact .inr ⟨_, step⟩
        · cases step

theorem Step.sound (step : Step r r') (sound : Sound r) : Sound r' := by
  rcases step.eq_or_assemble with rfl | ⟨object, merged⟩
  · exact sound
  · exact sound_of_parse (assemble_eq_ok_iff.mp merged).2.2

theorem Step.client (step : Step r r') (sound : Sound r) : r'.clientId = r.clientId := by
  rcases step.eq_or_assemble with rfl | ⟨object, merged⟩
  · rfl
  · exact (merged_of_assemble sound.apart merged).client

theorem Step.responseType (step : Step r r') (sound : Sound r) (worded : r.responseType.Worded) :
    (r'.responseType == r.responseType) = true := by
  rcases step.eq_or_assemble with rfl | ⟨object, merged⟩
  · exact beq_self_eq_true _
  · exact (merged_of_assemble sound.apart merged).responseType.mpr (.inr worded)

theorem Run.sound (run : Run r0 r) (sound : Sound r0) : Sound r := by
  induction run with
  | refl => exact sound
  | tail _ step ih => exact step.sound ih

theorem Run.client (run : Run r0 r) (sound : Sound r0) : r.clientId = r0.clientId := by
  induction run with
  | refl => rfl
  | tail before step ih => exact (step.client (Run.sound before sound)).trans ih

theorem Run.responseType (run : Run r0 r) (sound : Sound r0) (worded : r0.responseType.Worded) :
    (r.responseType == r0.responseType) = true := by
  induction run with
  | refl => exact beq_self_eq_true _
  | tail before step ih =>
      have here := step.responseType (Run.sound before sound) (worded.of_same ih)
      rw [ResponseType.same_iff] at here ih ⊢
      intro v
      exact (here v).trans (ih v)

/--
However request objects are used after a request is made, it stays sound and names the same
client; what is merged leaves no request object, and keeps the response type exactly when the
request object names it or its values are words.
-/
theorem sound_of_run (made : Made r0) (run : Run r0 r) :
    Sound r ∧ r.clientId = r0.clientId ∧
    (r0.responseType.Worded → (r.responseType == r0.responseType) = true) ∧
    (∀ object r', r.assemble object = .ok r' → Merged object r r') ∧
    ∀ decode token r', r.request = some token → r.resolveWith decode = .ok r' →
      ∃ object, decode token = .ok object ∧ Merged object r r' := by
  have sound := run.sound made.sound
  refine ⟨sound, run.client made.sound, run.responseType made.sound, ?_, ?_⟩
  · intro object r' step
    exact merged_of_assemble sound.apart step
  · intro decode token r' held step
    exact exists_merged_of_resolveWith sound.apart held step

/-! ## Merging into requests with a response type in a list -/

/-- A request object that says no more than a state. -/
def stateObject : Object :=
  Object.empty.insert "state" (.string "x")

set_option maxRecDepth 20000 in
theorem assemble_stateObject : (listedRequest .codeOnly).assemble stateObject =
    .ok { listedRequest .codeOnly with state := some "x" } := by
  with_unfolding_all rfl

theorem sound_with_state :
    Merged stateObject (listedRequest .codeOnly)
      { listedRequest .codeOnly with state := some "x" } ∧
    Sound { listedRequest .codeOnly with state := some "x" } := by
  have made : Made (listedRequest .codeOnly) := .parsed parse_listed_code
  constructor
  · exact (sound_of_run made .refl).2.2.2.1 _ _ assemble_stateObject
  · exact (sound_of_run made (.single (.merged assemble_stateObject))).1

/-- The request with one value that looks like two, and a nonce for when it is read as two. -/
def hybridInOneRequest : AuthenticationRequest :=
  { listedRequest hybridInOne with nonce := some "n" }

set_option maxRecDepth 20000 in
theorem parse_hybridInOne :
    parse none ((listed ["code id_token"]).insert "nonce" (.string "n")) =
      .ok hybridInOneRequest := by
  with_unfolding_all rfl

/-- The response type of the hybrid flow with a code and an ID token. -/
def codeAndIdToken : ResponseType :=
  ⟨[.code, .idToken], by decide, by decide, by decide⟩

set_option maxRecDepth 20000 in
theorem assemble_empty_hybridInOne : hybridInOneRequest.assemble .empty =
    .ok { listedRequest codeAndIdToken with nonce := some "n" } := by
  with_unfolding_all rfl

/-- An empty request object can turn a response type of one value into one of two. -/
theorem not_all_keep_responseType :
    ¬∀ (r0 r r' : AuthenticationRequest) (object : Object), Made r0 → Run r0 r →
      r.assemble object = .ok r' → (r'.responseType == r.responseType) = true := by
  intro all
  have same := all _ _ _ _ (.parsed parse_hybridInOne) .refl assemble_empty_hybridInOne
  revert same
  decide

end AuthenticationRequest

end OpenIdConnect
