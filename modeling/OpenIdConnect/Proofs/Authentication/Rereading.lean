import OpenIdConnect.Proofs.Authentication.Reading
import OpenIdConnect.Proofs.Authentication.Writing
import OpenIdConnect.Proofs.Parameter.Query
import OpenIdConnect.Proofs.Parameter.Rereading

/-!
# Parameters that are read again

A request that was read from parameters is read again from the parameters that it is written as,
with every field as it was, exactly when each of its tokens is a word.  A token that is none, which
only a list of strings can hold, falls apart or disappears when it is written among others.
-/

namespace OpenIdConnect

namespace AuthenticationRequest

variable {α : Type} {endpoint : Option Url} {params : Object} {r r' : AuthenticationRequest}

/-- A request as it is written: an empty claims request says nothing. -/
def said (r : AuthenticationRequest) : AuthenticationRequest :=
  { r with claims := r.claims.filter fun claims => !claims.isEmpty }

/-- The texts of the URLs in a request are read as these. -/
structure Addressed (r : AuthenticationRequest) : Prop where
  redirectUri : ∀ u, r.redirectUri = some u → Url.parse u.text = .ok u
  requestUri : ∀ u, r.requestUri = some u → Url.parse u.text = .ok u
  resource : ∀ u, r.resource = some u → Url.parse u.text = .ok u

/-- The tokens in a request are words. -/
structure Worded (r : AuthenticationRequest) : Prop where
  responseType : r.responseType.Worded
  scope : r.scope.Worded
  prompt : ∀ p, r.prompt = some p → p.Worded
  acrValues : ∀ classes, r.acrValues = some classes →
    ∀ value ∈ classes.toList, Text.IsWord value

/-! ## Tokens that are read from texts -/

theorem exists_text (textual : params.Textual) {p : Parameter α} {a : α}
    (found : params.read? p = some (.ok a)) : ∃ s, s ≠ "" ∧ p.read (.string s) = .ok a := by
  obtain ⟨json, present, result⟩ := Option.map_eq_some_iff.mp found
  obtain ⟨s, filled, same⟩ := textual p.name json present
  subst same
  exact ⟨s, filled, result⟩

/-- A query string is read by way of parameters that are texts. -/
theorem exists_textual_of_query {q : String} (read : ofQuery q = .ok r) :
    ∃ params, params.Textual ∧ parse none params = .ok r := by
  obtain ⟨params, paramsRead, parsed⟩ := Outcome.bind_eq_ok.mp read
  exact ⟨params, Object.textual_ofQuery (Outcome.mapError_eq_ok.mp paramsRead), parsed⟩

theorem exists_textual_of_url {url : Url} (read : ofUrl url = .ok r) :
    ∃ params, params.Textual ∧ parse (some url.dropQuery.dropFragment) params = .ok r := by
  obtain ⟨params, paramsRead, parsed⟩ := Outcome.bind_eq_ok.mp read
  exact ⟨params, Object.textual_ofQuery (Outcome.mapError_eq_ok.mp paramsRead), parsed⟩

/-- Tokens that were read from texts are words. -/
theorem worded_of_textual (textual : params.Textual) (fields : ReadFrom params r) : r.Worded where
  responseType := by
    obtain ⟨s, _, read⟩ := exists_text textual fields.responseType
    exact Parameter.worded_responseType read
  scope := by
    obtain ⟨s, _, read⟩ := exists_text textual fields.scope
    exact Parameter.worded_scope read
  prompt := by
    intro p here
    have found := fields.prompt
    rw [here] at found
    obtain ⟨s, _, read⟩ := exists_text textual found
    exact Parameter.worded_prompt read
  acrValues := by
    intro classes here
    have found := fields.acrValues
    rw [here] at found
    obtain ⟨s, _, read⟩ := exists_text textual found
    exact Parameter.worded_acrValues read

/-! ## Parameters of a request -/

theorem ReadFrom.apart (fields : ReadFrom params r) : r.Apart := by
  intro k registered
  rw [fields.custom, Object.get?_eraseAll, if_pos registered]

theorem read?_parameters (apart : r.Apart) {p : Parameter α} {value : Option α}
    (among : entry p value ∈ r.entries) :
    r.parameters.read? p = value.map fun a => p.read (p.write a) := by
  unfold Object.read?
  rw [get?_parameters apart among, Option.map_map]
  rfl

/-- A field that keeps its value has one that is read again. -/
theorem rereads_of_read? (apart : r.Apart) {p : Parameter α} {value : Option α}
    (among : entry p value ∈ r.entries) (found : r.parameters.read? p = value.map .ok) :
    ∀ a, value = some a → p.Rereads a := by
  rintro a rfl
  rw [read?_parameters apart among] at found
  exact Option.some.inj found

theorem eraseAll_parameters (apart : r.Apart) :
    r.parameters.eraseAll Parameter.registered = r.custom := by
  refine Object.ext_get? fun k => ?_
  rw [Object.get?_eraseAll]
  by_cases registered : k ∈ Parameter.registered
  · rw [if_pos registered, apart k registered]
  · rw [if_neg registered, get?_parameters_custom registered]

/-- A field whose value is read again keeps it. -/
theorem read?_field (apart : r.Apart) {p : Parameter α} (value : Option α)
    (among : entry p value ∈ r.entries) (rereads : ∀ a, value = some a → p.Rereads a) :
    r.parameters.read? p = value.map .ok := by
  rw [read?_parameters apart among]
  cases here : value with
  | none => rfl
  | some a => exact congrArg some (rereads a here)

theorem read?_text {name : String} (apart : r.Apart) (value : Option String)
    (among : entry (.text name) value ∈ r.entries) :
    r.parameters.read? (.text name) = value.map .ok :=
  read?_field apart value among fun a _ => Parameter.rereads_text name a

/-- A claims request that was read is read again as one for the same, unless it is empty. -/
theorem exists_read?_claims (apart : r.Apart)
    (wasRead : ∀ c, r.claims = some c → ∃ json, Parameter.claims.read json = .ok c) :
    ∃ again : Option Claims.Request, (again == r.said.claims) = true ∧
      r.parameters.read? .claims = again.map .ok := by
  have among : entry .claims r.said.claims ∈ r.entries := by
    simp [entries, said]
  have written := read?_parameters apart among
  cases asked : r.said.claims with
  | none =>
      rw [asked] at written
      exact ⟨none, rfl, written⟩
  | some c =>
      rw [asked] at written
      obtain ⟨json, read⟩ := wasRead c (Option.filter_eq_some_iff.mp asked).1
      obtain ⟨c', again, same⟩ := Parameter.exists_reread_claims read
      refine ⟨some c', same, ?_⟩
      rw [written, Option.map_some, again]
      rfl

/-- The values of a request were read, each of them by its parameter. -/
structure WasRead (r : AuthenticationRequest) : Prop where
  explicitMode : ∀ mode, r.explicitMode = some mode →
    ∃ json, Parameter.responseMode.read json = .ok mode
  uiLocales : ∀ tags, r.uiLocales = some tags → ∃ json, Parameter.uiLocales.read json = .ok tags
  claimsLocales : ∀ tags, r.claimsLocales = some tags →
    ∃ json, Parameter.claimsLocales.read json = .ok tags
  idTokenHint : ∀ hint, r.idTokenHint = some hint →
    ∃ json, Parameter.idTokenHint.read json = .ok hint
  claims : ∀ c, r.claims = some c → ∃ json, Parameter.claims.read json = .ok c
  explicitMethod : ∀ method, r.explicitMethod = some method →
    ∃ json, Parameter.codeChallengeMethod.read json = .ok method
  resource : ∀ u, r.resource = some u → ∃ json, Parameter.resource.read json = .ok u

theorem exists_json {p : Parameter α} {value : Option α}
    (found : params.read? p = value.map .ok) :
    ∀ a, value = some a → ∃ json, p.read json = .ok a := by
  rintro a rfl
  obtain ⟨json, _, read⟩ := Option.map_eq_some_iff.mp found
  exact ⟨json, read⟩

theorem ReadFrom.wasRead (fields : ReadFrom params r) : r.WasRead where
  explicitMode := exists_json fields.explicitMode
  uiLocales := exists_json fields.uiLocales
  claimsLocales := exists_json fields.claimsLocales
  idTokenHint := exists_json fields.idTokenHint
  claims := exists_json fields.claims
  explicitMethod := exists_json fields.explicitMethod
  resource := exists_json fields.resource

/-- The parameters are read as what the request says, with the claims request that is read. -/
theorem WasRead.readFrom (wasRead : r.WasRead) (apart : r.Apart) (addressed : r.Addressed)
    (worded : r.Worded) {again : Option Claims.Request}
    (claims : r.parameters.read? .claims = again.map .ok) :
    ReadFrom r.parameters { r.said with claims := again } where
  responseType := by
    refine read?_field apart (some r.responseType) (by simp [entries]) ?_
    rintro t ⟨⟩
    exact Parameter.rereads_responseType worded.responseType
  clientId := read?_text apart (some r.clientId) (by simp [entries, Parameter.clientId])
  redirectUri := by
    refine read?_field apart r.redirectUri (by simp [entries]) ?_
    exact fun u here => Parameter.rereads_url (addressed.redirectUri u here)
  scope := by
    refine read?_field apart (some r.scope) (by simp [entries]) ?_
    rintro s ⟨⟩
    exact Parameter.rereads_scope worded.scope
  state := read?_text apart r.state (by simp [entries, Parameter.state])
  explicitMode := by
    refine read?_field apart r.explicitMode (by simp [entries]) ?_
    intro mode here
    obtain ⟨json, read⟩ := wasRead.explicitMode mode here
    exact Parameter.rereads_responseMode read
  nonce := read?_text apart r.nonce (by simp [entries, Parameter.nonce])
  display := read?_field apart r.display (by simp [entries]) fun d _ => Parameter.rereads_display d
  prompt := by
    refine read?_field apart r.prompt (by simp [entries]) ?_
    exact fun p here => Parameter.rereads_prompt_iff.mpr (worded.prompt p here)
  maxAge := read?_field apart r.maxAge (by simp [entries]) fun n _ => Parameter.rereads_maxAge n
  uiLocales := by
    refine read?_field apart r.uiLocales (by simp [entries]) ?_
    intro tags here
    obtain ⟨json, read⟩ := wasRead.uiLocales tags here
    exact Parameter.rereads_locales read
  claimsLocales := by
    refine read?_field apart r.claimsLocales (by simp [entries]) ?_
    intro tags here
    obtain ⟨json, read⟩ := wasRead.claimsLocales tags here
    exact Parameter.rereads_locales read
  idTokenHint := by
    refine read?_field apart r.idTokenHint (by simp [entries]) ?_
    intro hint here
    obtain ⟨json, read⟩ := wasRead.idTokenHint hint here
    exact Parameter.rereads_idTokenHint read
  loginHint := read?_text apart r.loginHint (by simp [entries, Parameter.loginHint])
  acrValues := by
    refine read?_field apart r.acrValues (by simp [entries]) ?_
    exact fun classes here => Parameter.rereads_acrValues_iff.mpr (worded.acrValues classes here)
  claims := claims
  request := read?_text apart r.request (by simp [entries, Parameter.request])
  requestUri := by
    refine read?_field apart r.requestUri (by simp [entries]) ?_
    exact fun u here => Parameter.rereads_url (addressed.requestUri u here)
  codeChallenge := read?_text apart r.codeChallenge (by simp [entries, Parameter.codeChallenge])
  explicitMethod := by
    refine read?_field apart r.explicitMethod (by simp [entries]) ?_
    intro method here
    obtain ⟨json, read⟩ := wasRead.explicitMethod method here
    exact Parameter.rereads_codeChallengeMethod read
  resource := by
    refine read?_field apart r.resource (by simp [entries]) ?_
    intro u here
    obtain ⟨json, read⟩ := wasRead.resource u here
    exact Parameter.rereads_resource (addressed.resource u here) read
  grantedScopes := by
    refine read?_field apart r.grantedScopes (by simp [entries]) ?_
    exact fun b _ => Parameter.rereads_includeGrantedScopes b
  custom := (eraseAll_parameters apart).symm

/-- The parameters are read as what the request says. -/
theorem WasRead.exists_readFrom (wasRead : r.WasRead) (apart : r.Apart) (addressed : r.Addressed)
    (worded : r.Worded) :
    ∃ again : Option Claims.Request, (again == r.said.claims) = true ∧
      ReadFrom r.parameters { r.said with claims := again } := by
  obtain ⟨again, same, claims⟩ := exists_read?_claims apart wasRead.claims
  exact ⟨again, same, wasRead.readFrom apart addressed worded claims⟩

/-! ## Whole requests -/

/-- A request has the fields of another as it is written, and asks for the same claims. -/
def Restates (r' r : AuthenticationRequest) : Prop :=
  (r'.claims == r.said.claims) = true ∧ { r' with claims := r.said.claims } = r.said

theorem WasRead.exists_restated (wasRead : r.WasRead) (apart : r.Apart) (proper : r.Proper)
    (addressed : r.Addressed) (worded : r.Worded) :
    ∃ r', parse r.endpoint r.parameters = .ok r' ∧ Restates r' r := by
  obtain ⟨again, same, found⟩ := wasRead.exists_readFrom apart addressed worded
  refine ⟨{ r.said with claims := again }, ?_, same, rfl⟩
  refine parse_eq_ok_iff.mpr ⟨rfl, found, ?_⟩
  exact ⟨proper.single, proper.redirect, proper.openid, proper.nonce⟩

theorem exists_restated (read : parse endpoint params = .ok r) (addressed : r.Addressed)
    (worded : r.Worded) : ∃ r', parse endpoint r.parameters = .ok r' ∧ Restates r' r := by
  obtain ⟨rfl, fields, proper⟩ := parse_eq_ok_iff.mp read
  exact fields.wasRead.exists_restated fields.apart proper addressed worded

/-- A request that asks for the same claims, and else has the same fields, is the same. -/
theorem same_setClaims {claims : Option Claims.Request} (sameClaims : (claims == r.claims) = true) :
    ({ r with claims := claims } == r) = true := by
  change same _ _ = true
  unfold same
  simp [sameClaims]

theorem same_of_restates (restates : Restates r' r) : (r' == r.said) = true := by
  obtain ⟨sameClaims, whole⟩ := restates
  have form : r' = { r.said with claims := r'.claims } :=
    congrArg (fun x => { x with claims := r'.claims }) whole
  rw [form]
  exact same_setClaims sameClaims

/-- What is the same has the same tokens. -/
theorem tokens_of_same (same : (r' == r) = true) :
    (r'.responseType == r.responseType) = true ∧ r'.scope = r.scope ∧ r'.prompt = r.prompt ∧
      r'.acrValues = r.acrValues := by
  change AuthenticationRequest.same r' r = true at same
  unfold AuthenticationRequest.same at same
  simp only [Bool.and_eq_true, beq_iff_eq] at same
  tauto

theorem worded_of_same (read : parse endpoint params = .ok r)
    (again : parse endpoint r.parameters = .ok r') (same : (r' == r.said) = true) : r.Worded := by
  obtain ⟨_, fields, _⟩ := parse_eq_ok_iff.mp read
  obtain ⟨_, reread, _⟩ := parse_eq_ok_iff.mp again
  obtain ⟨responseType, scope, prompt, acrValues⟩ := tokens_of_same same
  exact {
    responseType := by
      have among : entry .responseType (some r.responseType) ∈ r.entries := by simp [entries]
      have found := reread.responseType
      rw [read?_parameters fields.apart among] at found
      exact Parameter.worded_of_same_reread (Option.some.inj found) responseType
    scope := by
      have among : entry .scope (some r.scope) ∈ r.entries := by simp [entries]
      have found := reread.scope
      rw [scope] at found
      exact Parameter.worded_of_rereads_scope (rereads_of_read? fields.apart among found _ rfl)
    prompt := by
      intro p here
      have found := reread.prompt
      rw [prompt] at found
      refine Parameter.rereads_prompt_iff.mp ?_
      exact rereads_of_read? fields.apart (by simp [entries, said]) found p here
    acrValues := by
      intro classes here
      have found := reread.acrValues
      rw [acrValues] at found
      refine Parameter.rereads_acrValues_iff.mp ?_
      exact rereads_of_read? fields.apart (by simp [entries, said]) found classes here }

/-- A request is read again as the same one exactly when all of its tokens are words. -/
theorem reread_iff_worded (read : parse endpoint params = .ok r) (addressed : r.Addressed) :
    (r.Worded → ∃ r', parse endpoint r.parameters = .ok r' ∧ Restates r' r) ∧
    ((∃ r', parse endpoint r.parameters = .ok r' ∧ (r' == r.said) = true) ↔ r.Worded) := by
  refine ⟨exists_restated read addressed, ?_⟩
  constructor
  · rintro ⟨r', again, same⟩
    exact worded_of_same read again same
  · intro worded
    obtain ⟨r', again, restates⟩ := exists_restated read addressed worded
    exact ⟨r', again, same_of_restates restates⟩

/-! ## Response types in a list -/

/-- Parameters of a request by client `a` with a response type in a list of strings. -/
def listed (responseType : List String) : Object :=
  (((Object.empty.insert "client_id" (.string "a")).insert "scope" (.string "openid")).insert
    "redirect_uri" (.string "https://c.example/cb")).insert "response_type"
      (.array (responseType.map .string))

/-- The request with a response type and no more than it has to say. -/
def listedRequest (responseType : ResponseType) : AuthenticationRequest :=
  plain responseType (Scope.ofList ["openid"]) "a" (some ⟨"https://c.example/cb", none, none⟩)

/-- One value of a response type that looks like two. -/
def hybridInOne : ResponseType :=
  ⟨[.other "code id_token"], by decide, by decide, by decide⟩

set_option maxRecDepth 20000 in
theorem parse_listed_code : parse none (listed ["code"]) = .ok (listedRequest .codeOnly) := by
  with_unfolding_all rfl

set_option maxRecDepth 20000 in
theorem parse_listed_hybridInOne :
    parse none (listed ["code id_token"]) = .ok (listedRequest hybridInOne) := by
  with_unfolding_all rfl

set_option maxRecDepth 20000 in
theorem addressed_listedRequest (responseType : ResponseType) :
    (listedRequest responseType).Addressed where
  redirectUri := by
    rintro u ⟨⟩
    decide +kernel
  requestUri := by rintro u ⟨⟩
  resource := by rintro u ⟨⟩

theorem worded_listedRequest_code : (listedRequest .codeOnly).Worded where
  responseType := Parameter.worded_responseType (s := "code") rfl
  scope := Parameter.worded_scope (s := "openid") rfl
  prompt := by rintro p ⟨⟩
  acrValues := by rintro classes ⟨⟩

theorem restated_listedRequest_code :
    ∃ r', parse none (listedRequest .codeOnly).parameters = .ok r' ∧
      Restates r' (listedRequest .codeOnly) :=
  (reread_iff_worded parse_listed_code (addressed_listedRequest _)).1 worded_listedRequest_code

/-- One value of a list that looks like two is two when it is read again: a request is lost. -/
theorem not_all_reread :
    ¬∀ (endpoint : Option Url) (params : Object) (r : AuthenticationRequest),
      parse endpoint params = .ok r → r.Addressed →
        ∃ r', parse endpoint r.parameters = .ok r' ∧ (r' == r.said) = true := by
  intro all
  obtain ⟨r', again, same⟩ :=
    all none (listed ["code id_token"]) _ parse_listed_hybridInOne (addressed_listedRequest _)
  have worded := (worded_of_same parse_listed_hybridInOne again same).responseType
  obtain ⟨word, isWord, written⟩ := worded _ (List.mem_singleton.mpr rfl)
  have spelled : word = "code id_token" := by
    rw [← Parameter.text_ofText_responseValue word, written]
    rfl
  have unbroken := isWord.unbroken ' '
  rw [spelled] at unbroken
  revert unbroken
  decide

end AuthenticationRequest

end OpenIdConnect
