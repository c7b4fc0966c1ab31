import OpenIdConnect.Proofs.Parameter.Provider
import OpenIdConnect.Proofs.Provider.Metadata

/-!
# Metadata documents are preserved

The document of accepted metadata is the document it was read from, with its required members in
their written form.  It is accepted again, and since what was written is read as it was, the second
metadata has the same values, answers the same questions alike, and has the same document.
-/

namespace OpenIdConnect

namespace ProviderMetadata

variable {α : Type} {o : Object} {m : ProviderMetadata} {name : String}

/-- The names of the required members. -/
def requiredNames : List String :=
  [Parameter.issuer.name, Parameter.authorizationEndpoint.name, Parameter.jwksUri.name,
    Parameter.responseTypesSupported.name, Parameter.subjectTypesSupported.name,
    Parameter.signingAlgorithms.name]

/-- The texts of the URLs among the required members are read as these URLs. -/
structure Addressed (m : ProviderMetadata) : Prop where
  issuer : Url.parse m.issuer.text = .ok m.issuer
  authorizationEndpoint : Url.parse m.authorizationEndpoint.text = .ok m.authorizationEndpoint
  jwksUri : Url.parse m.jwksUri.text = .ok m.jwksUri

/-- Metadata answers every question about optional members as other metadata does. -/
structure AnswersLike (m' m : ProviderMetadata) : Prop where
  optional : ∀ {α : Type} (p : Parameter α),
    p.member ∈ optionalMembers → m'.members.read? p = m.members.read? p
  responseModes : m'.responseModes = m.responseModes
  claims : m'.supportsClaims = m.supportsClaims
  request : m'.supportsRequest = m.supportsRequest
  requestUri : m'.supportsRequestUri = m.supportsRequestUri
  verifiedClaims : m'.supportsVerifiedClaims = m.supportsVerifiedClaims
  backchannelLogout : m'.supportsBackchannelLogout = m.supportsBackchannelLogout
  display : ∀ d, m'.supportsDisplay d = m.supportsDisplay d

/-! ## The document -/

theorem get?_toObject (m : ProviderMetadata) (k : String) :
    m.toObject.get? k =
      if k = Parameter.signingAlgorithms.name then
        some (Parameter.signingAlgorithms.write m.signingAlgorithms)
      else if k = Parameter.subjectTypesSupported.name then
        some (Parameter.subjectTypesSupported.write m.subjectTypes)
      else if k = Parameter.responseTypesSupported.name then
        some (Parameter.responseTypesSupported.write m.responseTypes)
      else if k = Parameter.jwksUri.name then some (Parameter.jwksUri.write m.jwksUri)
      else if k = Parameter.authorizationEndpoint.name then
        some (Parameter.authorizationEndpoint.write m.authorizationEndpoint)
      else if k = Parameter.issuer.name then some (Parameter.issuer.write m.issuer)
      else m.members.get? k := by
  unfold toObject
  simp only [Object.get?_write]

theorem get?_toObject_of_other (other : name ∉ requiredNames) :
    m.toObject.get? name = m.members.get? name := by
  simp only [requiredNames, List.mem_cons, List.not_mem_nil, or_false, not_or] at other
  obtain ⟨issuer, endpoint, jwksUri, responseTypes, subjectTypes, algorithms⟩ := other
  rw [get?_toObject, if_neg algorithms, if_neg subjectTypes, if_neg responseTypes, if_neg jwksUri,
    if_neg endpoint, if_neg issuer]

theorem read?_toObject_of_other {p : Parameter α} (other : p.name ∉ requiredNames) :
    m.toObject.read? p = m.members.read? p := by
  rw [Object.read?, get?_toObject_of_other other, Object.read?]

theorem readOr_toObject_of_other {p : Parameter α} (other : p.name ∉ requiredNames) (a : α) :
    m.toObject.readOr p a = m.members.readOr p a := by
  rw [Object.readOr, get?_toObject_of_other other, Object.readOr]

/-- A required member is written as it is, whatever document it is written over. -/
theorem get?_toObject_of_required (required : name ∈ requiredNames) (members : Object) :
    ({ m with members }).toObject.get? name = m.toObject.get? name := by
  simp only [requiredNames, List.mem_cons, List.not_mem_nil, or_false] at required
  rcases required with rfl | rfl | rfl | rfl | rfl | rfl
  all_goals
    rw [get?_toObject, get?_toObject]
    rfl

theorem toObject_again (m : ProviderMetadata) :
    ({ m with members := m.toObject }).toObject = m.toObject := by
  apply Object.ext_get?
  intro k
  by_cases required : k ∈ requiredNames
  · exact get?_toObject_of_required required m.toObject
  · exact get?_toObject_of_other required

theorem ReadFrom.isSome_get? (fields : ReadFrom o m) (required : name ∈ requiredNames) :
    (o.get? name).isSome = true := by
  have present {β : Type} {p : Parameter β} {value : β} (read : o.read? p = some (.ok value)) :
      (o.get? p.name).isSome = true := by
    rw [← Object.isSome_read?, read]
    rfl
  simp only [requiredNames, List.mem_cons, List.not_mem_nil, or_false] at required
  rcases required with rfl | rfl | rfl | rfl | rfl | rfl
  · exact present fields.issuer
  · exact present fields.authorizationEndpoint
  · exact present fields.jwksUri
  · exact present fields.responseTypes
  · exact present fields.subjectTypes
  · exact present fields.signingAlgorithms

/-! ## Reading the document again -/

theorem other_of_mem {p : Member} (among : p ∈ optionalMembers) : p.name ∉ requiredNames := by
  have apart : ∀ name ∈ optionalMembers.map Member.name, name ∉ requiredNames := by decide
  exact apart p.name (List.mem_map_of_mem among)

/-- The response types of a document are written as strings. -/
def ListsStrings (o : Object) : Prop :=
  ∀ items, o.get? "response_types_supported" = some (.array items) → ∀ item ∈ items, item.IsText

theorem ReadFrom.rereads_responseTypes (fields : ReadFrom o m) (strings : ListsStrings o) :
    Parameter.responseTypesSupported.Rereads m.responseTypes := by
  obtain ⟨v, present, read⟩ := Option.map_eq_some_iff.mp fields.responseTypes
  obtain ⟨items, rfl, _⟩ := Json.readItems_eq_ok_iff.mp read
  exact Parameter.rereads_responseTypesSupported (strings items present) read

/-- What was read from a document is read again from the document that is written. -/
theorem ReadFrom.again (fields : ReadFrom o m) (strings : ListsStrings o)
    (addressed : m.Addressed) : ReadFrom m.toObject { m with members := m.toObject } := by
  obtain ⟨v, _, issuerRead⟩ := Option.map_eq_some_iff.mp fields.issuer
  obtain ⟨w, _, subjectTypesRead⟩ := Option.map_eq_some_iff.mp fields.subjectTypes
  exact {
    members := rfl
    issuer :=
      Object.read?_of_get? (get?_toObject m Parameter.issuer.name)
        (Parameter.rereads_issuer addressed.issuer issuerRead)
    authorizationEndpoint :=
      Object.read?_of_get? (get?_toObject m Parameter.authorizationEndpoint.name)
        (Parameter.rereads_url addressed.authorizationEndpoint)
    jwksUri :=
      Object.read?_of_get? (get?_toObject m Parameter.jwksUri.name)
        (Parameter.rereads_url addressed.jwksUri)
    responseTypes :=
      Object.read?_of_get? (get?_toObject m Parameter.responseTypesSupported.name)
        (fields.rereads_responseTypes strings)
    subjectTypes :=
      Object.read?_of_get? (get?_toObject m Parameter.subjectTypesSupported.name)
        (Parameter.rereads_subjectTypesSupported subjectTypesRead)
    signingAlgorithms :=
      Object.read?_of_get? (get?_toObject m Parameter.signingAlgorithms.name)
        (Parameter.rereads_texts _ _)
    others := by
      intro p among
      rw [Object.validate, get?_toObject_of_other (other_of_mem among), fields.members]
      exact fields.others p among }

theorem feature_toObject {p : Parameter Bool} (among : p.member ∈ optionalMembers)
    (implied : Bool) :
    ({ m with members := m.toObject }).feature p implied = m.feature p implied := by
  rw [feature, readOr_toObject_of_other (other_of_mem among), feature]

theorem answersLike_toObject (m : ProviderMetadata) :
    ({ m with members := m.toObject }).AnswersLike m where
  optional p among := read?_toObject_of_other (other_of_mem among)
  responseModes := by
    rw [responseModes, readOr_toObject_of_other (by decide), responseModes]
  claims := feature_toObject (by simp [optionalMembers]) _
  request := feature_toObject (by simp [optionalMembers]) _
  requestUri := feature_toObject (by simp [optionalMembers]) _
  verifiedClaims := feature_toObject (by simp [optionalMembers]) _
  backchannelLogout := feature_toObject (by simp [optionalMembers]) _
  display d := by
    rw [supportsDisplay, read?_toObject_of_other (by decide), supportsDisplay]

/--
The document of accepted metadata differs from the one it was read from in the required members
only.  It is accepted again with the same values, what is asked of it is answered alike, and it is
its own document.
-/
theorem document_preserved (read : ofObject o = .ok m) (strings : ListsStrings o)
    (addressed : m.Addressed) :
    (∀ k ∉ requiredNames, m.toObject.get? k = o.get? k) ∧
      (∀ k, (m.toObject.get? k).isSome = (o.get? k).isSome) ∧
      ofObject m.toObject = .ok { m with members := m.toObject } ∧
      ({ m with members := m.toObject }).AnswersLike m ∧
      ({ m with members := m.toObject }).toObject = m.toObject := by
  have fields := ofObject_eq_ok_iff.mp read
  have fieldsAgain := fields.again strings addressed
  have kept : ∀ k ∉ requiredNames, m.toObject.get? k = o.get? k := by
    intro k other
    rw [get?_toObject_of_other other, fields.members]
  refine ⟨kept, ?_, ofObject_eq_ok_iff.mpr fieldsAgain, answersLike_toObject m, toObject_again m⟩
  intro k
  by_cases required : k ∈ requiredNames
  · rw [fieldsAgain.isSome_get? required, fields.isSome_get? required]
  · rw [kept k required]

/-- A document with a member that nobody asks for, and with values that are not in written form. -/
def loosePage : Object :=
  .ofList [("issuer", .string "HTTPS://op.example"),
    ("authorization_endpoint", .string "https://op.example:443/a"),
    ("jwks_uri", .string "https://op.example/k"),
    ("response_types_supported", .array [.string "token  id_token"]),
    ("subject_types_supported", .array [.string "public"]),
    ("id_token_signing_alg_values_supported", .array [.string "RS256"]),
    ("display_values_supported", .array [.string "page"]),
    ("service_documentation", .string "https://OP.example/help")]

/-- The provider that the loose document describes. -/
def loosePageProvider : ProviderMetadata where
  members := loosePage
  issuer := ⟨"https://op.example/", none, none⟩
  authorizationEndpoint := ⟨"https://op.example/a", none, none⟩
  jwksUri := ⟨"https://op.example/k", none, none⟩
  responseTypes := [⟨[.token, .idToken], by decide, by decide, by decide⟩]
  subjectTypes := [.shared]
  signingAlgorithms := ["RS256"]

set_option maxRecDepth 20000 in
theorem ofObject_loosePage : ofObject loosePage = .ok loosePageProvider := by
  with_unfolding_all rfl

set_option maxRecDepth 20000 in
theorem addressed_loosePageProvider : loosePageProvider.Addressed := by
  constructor <;> decide +kernel

theorem loosePage_preserved :
    loosePageProvider.toObject.get? "issuer" = some (.string "https://op.example/") ∧
      loosePageProvider.toObject.get? "service_documentation" =
        some (.string "https://OP.example/help") ∧
      ofObject loosePageProvider.toObject =
        .ok { loosePageProvider with members := loosePageProvider.toObject } := by
  have strings : ListsStrings loosePage := by
    rintro items ⟨⟩ item among
    cases List.mem_singleton.mp among
    exact ⟨_, rfl⟩
  obtain ⟨kept, _, again, _⟩ :=
    document_preserved ofObject_loosePage strings addressed_loosePageProvider
  exact ⟨rfl, kept _ (by decide), again⟩

end ProviderMetadata

end OpenIdConnect
