import OpenIdConnect.Proofs.Parameter.Provider
import OpenIdConnect.Proofs.Provider.Metadata

/-!
# Which requests a provider accepts

A provider whose metadata was accepted refuses a request exactly for what the request uses and the
provider does not support.  Its metadata is never at fault then, and the refusal tells all that the
request says of its sender.
-/

namespace OpenIdConnect

namespace ProviderMetadata

variable {o : Object} {m : ProviderMetadata} {r : AuthenticationRequest}

/-! ## What is supported -/

/-- Is a response type with the same values listed, in whatever order? -/
def ListsResponseType (m : ProviderMetadata) (t : ResponseType) : Prop :=
  ∃ listed ∈ m.responseTypes, ∀ v, v ∈ listed.values ↔ v ∈ t.values

/-- The provider supports all that a request uses, as far as it publishes what it supports. -/
structure Supports (m : ProviderMetadata) (r : AuthenticationRequest) : Prop where
  responseType : m.ListsResponseType r.responseType
  claims : r.claims.isSome = true →
    m.members.get? "claims_parameter_supported" = some (.bool true)
  request : r.request.isSome = true →
    m.members.get? "request_parameter_supported" = some (.bool true)
  requestUri : r.requestUri.isSome = true →
    m.members.get? "request_uri_parameter_supported" ≠ some (.bool false)
  display : ∀ d, r.display = some d → m.members.get? "display_values_supported" = none ∨
    ∃ listed, m.members.get? "display_values_supported" = some (.array listed) ∧
      .string d.text ∈ listed

/-- What a request uses and the provider does not support, with the objection to it. -/
inductive Lacks (m : ProviderMetadata) (r : AuthenticationRequest) : Objection → Prop where
  | responseType (unlisted : ¬m.ListsResponseType r.responseType) :
      Lacks m r (.responseTypeUnsupported r.responseType)
  | claims (used : r.claims.isSome = true)
      (lacking : m.members.get? "claims_parameter_supported" ≠ some (.bool true)) :
      Lacks m r .claimsUnsupported
  | request (used : r.request.isSome = true)
      (lacking : m.members.get? "request_parameter_supported" ≠ some (.bool true)) :
      Lacks m r .requestUnsupported
  | requestUri (used : r.requestUri.isSome = true)
      (lacking : m.members.get? "request_uri_parameter_supported" = some (.bool false)) :
      Lacks m r .requestUriUnsupported
  | display {d : Display} (used : r.display = some d)
      (published : m.members.get? "display_values_supported" ≠ none)
      (lacking : ∀ listed, m.members.get? "display_values_supported" = some (.array listed) →
        .string d.text ∉ listed) : Lacks m r (.displayUnsupported d)

theorem supportsResponseType_iff {t : ResponseType} :
    m.supportsResponseType t = true ↔ m.ListsResponseType t := by
  rw [supportsResponseType, List.any_eq_true]
  exact exists_congr fun listed => and_congr_right fun _ => ResponseType.same_iff

namespace ReadFrom

/-- A feature differs from what is implied exactly when its member says so. -/
theorem exists_feature (fields : ReadFrom o m) {name : String} (implied : Bool)
    (among : (Parameter.flag name).member ∈ optionalMembers) :
    ∃ supported, m.feature (.flag name) implied = .ok supported ∧
      (supported = !implied ↔ m.members.get? name = some (.bool !implied)) := by
  obtain ⟨published, read⟩ := fields.exists_read? _ among
  have found := (Object.read?_eq_iff_get?_eq fun _ _ => Json.readBool_eq_ok_iff).mp read
  refine ⟨published.getD implied, Outcome.inContext_eq_ok.mpr ?_, ?_⟩
  · rw [Object.readOr, found]
    cases published <;> rfl
  · change m.members.get? name = _ at found
    rw [found]
    cases published <;> simp

theorem exists_supportsClaims (fields : ReadFrom o m) :
    ∃ supported, m.supportsClaims = .ok supported ∧ (supported = true ↔
      m.members.get? "claims_parameter_supported" = some (.bool true)) :=
  fields.exists_feature false
    (show Parameter.claimsParameterSupported.member ∈ _ by simp [optionalMembers])

theorem exists_supportsRequest (fields : ReadFrom o m) :
    ∃ supported, m.supportsRequest = .ok supported ∧ (supported = true ↔
      m.members.get? "request_parameter_supported" = some (.bool true)) :=
  fields.exists_feature false
    (show Parameter.requestParameterSupported.member ∈ _ by simp [optionalMembers])

theorem exists_supportsRequestUri (fields : ReadFrom o m) :
    ∃ supported, m.supportsRequestUri = .ok supported ∧ (supported = false ↔
      m.members.get? "request_uri_parameter_supported" = some (.bool false)) :=
  fields.exists_feature true
    (show Parameter.requestUriParameterSupported.member ∈ _ by simp [optionalMembers])

theorem exists_supportsDisplay (fields : ReadFrom o m) (d : Display) :
    ∃ supported, m.supportsDisplay d = .ok supported ∧ (supported = true ↔
      m.members.get? "display_values_supported" = none ∨
        ∃ listed, m.members.get? "display_values_supported" = some (.array listed) ∧
          .string d.text ∈ listed) := by
  obtain ⟨published, read⟩ := fields.exists_read? .displaysSupported (by simp [optionalMembers])
  have found : m.members.get? "display_values_supported" = published.map _ :=
    (Object.read?_eq_iff_get?_eq fun _ _ => Parameter.displaysSupported_read_iff).mp read
  rw [supportsDisplay, read, found]
  cases published with
  | none => exact ⟨true, rfl, by simp⟩
  | some displays =>
      refine ⟨displays.contains d, rfl, List.contains_iff_mem.trans ?_⟩
      constructor
      · intro listed
        exact .inr ⟨_, rfl, List.mem_map_of_mem listed⟩
      · rintro (impossible | ⟨_, ⟨⟩, among⟩)
        · cases impossible
        obtain ⟨d', listed, same⟩ := List.mem_map.mp among
        rwa [Display.eq_of_text_eq (Json.string.inj same)] at listed

end ReadFrom

/-! ## What is demanded -/

theorem demand_eq_ok_iff {used supported : Bool} {objection : Objection} :
    demand r used (.ok supported) objection = .ok () ↔ (used = true → supported = true) := by
  cases used <;> cases supported <;> simp [demand]

theorem demand_eq_error_iff {used supported : Bool} {objection : Objection} {refusal : Refusal} :
    demand r used (.ok supported) objection = .error refusal ↔
      used = true ∧ supported = false ∧ refusal = r.refuse objection := by
  cases used <;> cases supported <;> simp [demand, eq_comm]

theorem accept_eq_ok_iff (fields : ReadFrom o m) : m.accept r = .ok () ↔ m.Supports r := by
  obtain ⟨_, claimsAnswer, claims_iff⟩ := fields.exists_supportsClaims
  obtain ⟨_, requestAnswer, request_iff⟩ := fields.exists_supportsRequest
  obtain ⟨_, requestUriAnswer, requestUri_iff⟩ := fields.exists_supportsRequestUri
  rw [accept, claimsAnswer, requestAnswer, requestUriAnswer]
  constructor
  · intro accepted
    obtain ⟨_, responseType, accepted⟩ := Outcome.bind_eq_ok.mp accepted
    obtain ⟨_, claims, accepted⟩ := Outcome.bind_eq_ok.mp accepted
    obtain ⟨_, request, accepted⟩ := Outcome.bind_eq_ok.mp accepted
    obtain ⟨_, requestUri, accepted⟩ := Outcome.bind_eq_ok.mp accepted
    exact {
      responseType := supportsResponseType_iff.mp (demand_eq_ok_iff.mp responseType rfl)
      claims := fun used => claims_iff.mp (demand_eq_ok_iff.mp claims used)
      request := fun used => request_iff.mp (demand_eq_ok_iff.mp request used)
      requestUri := by
        intro used lacking
        exact Bool.false_ne_true
          ((requestUri_iff.mpr lacking).symm.trans (demand_eq_ok_iff.mp requestUri used))
      display := by
        intro d used
        obtain ⟨_, displayAnswer, display_iff⟩ := fields.exists_supportsDisplay d
        rw [used] at accepted
        dsimp only at accepted
        rw [displayAnswer] at accepted
        exact display_iff.mp (demand_eq_ok_iff.mp accepted rfl) }
  · rintro ⟨responseType, claims, request, requestUri, display⟩
    refine Outcome.bind_eq_ok.mpr ⟨(), demand_eq_ok_iff.mpr fun _ => ?_, ?_⟩
    · exact supportsResponseType_iff.mpr responseType
    refine Outcome.bind_eq_ok.mpr ⟨(), demand_eq_ok_iff.mpr fun used => ?_, ?_⟩
    · exact claims_iff.mpr (claims used)
    refine Outcome.bind_eq_ok.mpr ⟨(), demand_eq_ok_iff.mpr fun used => ?_, ?_⟩
    · exact request_iff.mpr (request used)
    refine Outcome.bind_eq_ok.mpr ⟨(), demand_eq_ok_iff.mpr fun used => ?_, ?_⟩
    · exact Bool.not_eq_false _ |>.mp (mt requestUri_iff.mp (requestUri used))
    cases used : r.display with
    | none => rfl
    | some d =>
        obtain ⟨_, displayAnswer, display_iff⟩ := fields.exists_supportsDisplay d
        dsimp only
        rw [displayAnswer]
        exact demand_eq_ok_iff.mpr fun _ => display_iff.mpr (display d used)

/-- A request is refused only for what the provider lacks. -/
theorem exists_lacks_of_accept (fields : ReadFrom o m) {refusal : Refusal}
    (refused : m.accept r = .error refusal) :
    ∃ objection, refusal = r.refuse objection ∧ m.Lacks r objection := by
  obtain ⟨_, claimsAnswer, claims_iff⟩ := fields.exists_supportsClaims
  obtain ⟨_, requestAnswer, request_iff⟩ := fields.exists_supportsRequest
  obtain ⟨_, requestUriAnswer, requestUri_iff⟩ := fields.exists_supportsRequestUri
  rw [accept, claimsAnswer, requestAnswer, requestUriAnswer] at refused
  -- each demand refuses the request itself, or leaves it to those behind
  rcases Outcome.bind_eq_error.mp refused with responseType | ⟨_, _, refused⟩
  · obtain ⟨_, lacking, same⟩ := demand_eq_error_iff.mp responseType
    refine ⟨_, same, .responseType ?_⟩
    rw [← supportsResponseType_iff, lacking]
    exact Bool.false_ne_true
  rcases Outcome.bind_eq_error.mp refused with claims | ⟨_, _, refused⟩
  · obtain ⟨used, lacking, same⟩ := demand_eq_error_iff.mp claims
    refine ⟨_, same, .claims used ?_⟩
    rw [ne_eq, ← claims_iff, lacking]
    exact Bool.false_ne_true
  rcases Outcome.bind_eq_error.mp refused with request | ⟨_, _, refused⟩
  · obtain ⟨used, lacking, same⟩ := demand_eq_error_iff.mp request
    refine ⟨_, same, .request used ?_⟩
    rw [ne_eq, ← request_iff, lacking]
    exact Bool.false_ne_true
  rcases Outcome.bind_eq_error.mp refused with requestUri | ⟨_, _, refused⟩
  · obtain ⟨used, lacking, same⟩ := demand_eq_error_iff.mp requestUri
    exact ⟨_, same, .requestUri used (requestUri_iff.mp lacking)⟩
  cases used : r.display with
  | none =>
      rw [used] at refused
      cases refused
  | some d =>
      obtain ⟨_, displayAnswer, display_iff⟩ := fields.exists_supportsDisplay d
      rw [used] at refused
      dsimp only at refused
      rw [displayAnswer] at refused
      obtain ⟨_, lacking, same⟩ := demand_eq_error_iff.mp refused
      rw [lacking, Bool.false_eq_true, false_iff, not_or] at display_iff
      refine ⟨_, same, .display used display_iff.1 ?_⟩
      intro listed published among
      exact display_iff.2 ⟨listed, published, among⟩

/-! ## What is accepted, and what is told of what is not -/

theorem Lacks.not_providerAtFault {objection : Objection} (lacks : m.Lacks r objection)
    (cause : Fault) : objection ≠ .providerAtFault cause := by
  cases lacks <;> exact Objection.noConfusion

theorem Lacks.code_ne_serverError {objection : Objection} (lacks : m.Lacks r objection) :
    objection.response.code ≠ .serverError := by
  cases lacks <;> exact ErrorCode.noConfusion

/--
Accepted metadata accepts a request exactly when all that the request uses is supported.  A refusal
names something that is not, never finds the metadata itself at fault, and tells what the request
says of its sender.
-/
theorem accepts_what_is_supported (read : ofObject o = .ok m) (r : AuthenticationRequest) :
    (m.accept r = .ok () ↔ m.Supports r) ∧
      ∀ refusal, m.accept r = .error refusal →
        m.Lacks r refusal.objection ∧
        refusal.response = refusal.objection.response ∧
        (∀ cause, refusal.objection ≠ .providerAtFault cause) ∧
        refusal.response.code ≠ .serverError ∧
        refusal.requester =
          ⟨some r.clientId, r.redirectUri, r.state,
            some (r.explicitMode.getD r.responseType.impliedMode)⟩ := by
  have fields := ofObject_eq_ok_iff.mp read
  refine ⟨accept_eq_ok_iff fields, ?_⟩
  intro refusal refused
  obtain ⟨objection, rfl, lacks⟩ := exists_lacks_of_accept fields refused
  exact ⟨lacks, rfl, lacks.not_providerAtFault, lacks.code_ne_serverError, rfl⟩

/-- A document that publishes one response type, and a single display. -/
def onePage : Object :=
  .ofList [("issuer", .string "https://op.example/"),
    ("authorization_endpoint", .string "https://op.example/a"),
    ("jwks_uri", .string "https://op.example/k"),
    ("response_types_supported", .array [.string "code token"]),
    ("subject_types_supported", .array [.string "public"]),
    ("id_token_signing_alg_values_supported", .array [.string "RS256"]),
    ("claims_parameter_supported", .bool true),
    ("display_values_supported", .array [.string "page"])]

/-- The response type of an authorization code beside an access token. -/
def codeAndToken : ResponseType :=
  ⟨[.code, .token], by decide, by decide, by decide⟩

/-- The provider that the document describes. -/
def onePageProvider : ProviderMetadata where
  members := onePage
  issuer := ⟨"https://op.example/", none, none⟩
  authorizationEndpoint := ⟨"https://op.example/a", none, none⟩
  jwksUri := ⟨"https://op.example/k", none, none⟩
  responseTypes := [codeAndToken]
  subjectTypes := [.shared]
  signingAlgorithms := ["RS256"]

set_option maxRecDepth 20000 in
theorem ofObject_onePage : ofObject onePage = .ok onePageProvider := by
  with_unfolding_all rfl

/-- A request for the same response type in the other order, with claims, to be shown on a page. -/
def pageRequest : AuthenticationRequest :=
  { AuthenticationRequest.plain ⟨[.token, .code], by decide, by decide, by decide⟩
      (.ofList ["openid"]) "a" (some ⟨"https://c.example/cb", none, none⟩) with
    state := some "s"
    display := some .page
    claims := some .empty }

theorem onePage_accepts :
    onePageProvider.accept pageRequest = .ok () ∧
      ∃ refusal,
        onePageProvider.accept { pageRequest with request := some "e30" } = .error refusal ∧
          refusal.requester = ⟨some "a", some ⟨"https://c.example/cb", none, none⟩, some "s",
            some .fragment⟩ := by
  constructor
  · refine (accepts_what_is_supported ofObject_onePage _).1.mpr ?_
    exact {
      responseType := ⟨codeAndToken, .head _, fun v => List.Perm.mem_iff (.swap _ _ _)⟩
      claims := fun _ => rfl
      request := fun used => nomatch used
      requestUri := fun used => nomatch used
      display := by
        rintro d ⟨⟩
        exact .inr ⟨[.string "page"], rfl, .head _⟩ }
  · obtain ⟨supported, told⟩ :=
      accepts_what_is_supported ofObject_onePage { pageRequest with request := some "e30" }
    cases answer : onePageProvider.accept { pageRequest with request := some "e30" } with
    | ok _ => cases (supported.mp answer).request rfl
    | error refusal => exact ⟨refusal, rfl, (told refusal answer).2.2.2.2⟩

end ProviderMetadata

end OpenIdConnect
