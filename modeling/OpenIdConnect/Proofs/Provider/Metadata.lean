import OpenIdConnect.Proofs.Parameter.Access
import OpenIdConnect.Provider.Metadata

/-!
# Which provider metadata is accepted

A document is accepted exactly when its required members can be read, and the others as far as they
are there.  So nothing that is read from it later on turns out to be at fault.
-/

namespace OpenIdConnect

namespace Object

variable {α : Type} {o : Object} {p : Parameter α}

/-- A member is valid when it is absent or can be read. -/
theorem validate_eq_ok_iff :
    o.validate p.member = .ok () ↔ ∃ value : Option α, o.read? p = value.map .ok := by
  have name : p.member.name = p.name := rfl
  rw [validate, read?, name]
  cases o.get? p.name with
  | none => exact ⟨fun _ => ⟨none, rfl⟩, fun _ => rfl⟩
  | some json =>
      dsimp only
      rw [Outcome.inContext_eq_ok, Outcome.map_eq_ok]
      change (∃ written, (p.read json).map p.write = .ok written ∧ _) ↔ _
      constructor
      · rintro ⟨_, canonical, _⟩
        obtain ⟨a, read, _⟩ := Outcome.map_eq_ok.mp canonical
        exact ⟨some a, congrArg some read⟩
      · rintro ⟨value, read⟩
        cases value with
        | none => cases read
        | some a => exact ⟨p.write a, Outcome.map_eq_ok.mpr ⟨a, Option.some.inj read, rfl⟩, rfl⟩

end Object

namespace ProviderMetadata

/-- The parts of metadata are what a document reads as, and its other members are valid. -/
structure ReadFrom (o : Object) (m : ProviderMetadata) : Prop where
  members : m.members = o
  issuer : o.read? .issuer = some (.ok m.issuer)
  authorizationEndpoint : o.read? .authorizationEndpoint = some (.ok m.authorizationEndpoint)
  jwksUri : o.read? .jwksUri = some (.ok m.jwksUri)
  responseTypes : o.read? .responseTypesSupported = some (.ok m.responseTypes)
  subjectTypes : o.read? .subjectTypesSupported = some (.ok m.subjectTypes)
  signingAlgorithms : o.read? .signingAlgorithms = some (.ok m.signingAlgorithms)
  others : ∀ p ∈ optionalMembers, o.validate p = .ok ()

theorem ofObject_eq_ok_iff {o : Object} {m : ProviderMetadata} :
    ofObject o = .ok m ↔ ReadFrom o m := by
  unfold ofObject
  constructor
  · intro read
    obtain ⟨issuer, issuerRead, read⟩ := Outcome.bind_eq_ok.mp read
    obtain ⟨endpoint, endpointRead, read⟩ := Outcome.bind_eq_ok.mp read
    obtain ⟨jwksUri, jwksUriRead, read⟩ := Outcome.bind_eq_ok.mp read
    obtain ⟨responseTypes, responseTypesRead, read⟩ := Outcome.bind_eq_ok.mp read
    obtain ⟨subjectTypes, subjectTypesRead, read⟩ := Outcome.bind_eq_ok.mp read
    obtain ⟨algorithms, algorithmsRead, read⟩ := Outcome.bind_eq_ok.mp read
    obtain ⟨_, validated, done⟩ := Outcome.bind_eq_ok.mp read
    cases done
    exact {
      members := rfl
      issuer := Object.require_eq_ok_iff.mp issuerRead
      authorizationEndpoint := Object.require_eq_ok_iff.mp endpointRead
      jwksUri := Object.require_eq_ok_iff.mp jwksUriRead
      responseTypes := Object.require_eq_ok_iff.mp responseTypesRead
      subjectTypes := Object.require_eq_ok_iff.mp subjectTypesRead
      signingAlgorithms := Object.require_eq_ok_iff.mp algorithmsRead
      others := Outcome.forM_eq_ok.mp validated }
  · intro fields
    refine Outcome.bind_eq_ok.mpr ⟨_, Object.require_eq_ok_iff.mpr fields.issuer, ?_⟩
    refine Outcome.bind_eq_ok.mpr ⟨_, Object.require_eq_ok_iff.mpr fields.authorizationEndpoint, ?_⟩
    refine Outcome.bind_eq_ok.mpr ⟨_, Object.require_eq_ok_iff.mpr fields.jwksUri, ?_⟩
    refine Outcome.bind_eq_ok.mpr ⟨_, Object.require_eq_ok_iff.mpr fields.responseTypes, ?_⟩
    refine Outcome.bind_eq_ok.mpr ⟨_, Object.require_eq_ok_iff.mpr fields.subjectTypes, ?_⟩
    refine Outcome.bind_eq_ok.mpr ⟨_, Object.require_eq_ok_iff.mpr fields.signingAlgorithms, ?_⟩
    refine Outcome.bind_eq_ok.mpr ⟨_, Outcome.forM_eq_ok.mpr fields.others, ?_⟩
    rw [← fields.members]
    rfl

/-- An optional member of accepted metadata is absent or can be read. -/
theorem ReadFrom.exists_read? {α : Type} {o : Object} {m : ProviderMetadata}
    (fields : ReadFrom o m) (p : Parameter α) (among : p.member ∈ optionalMembers) :
    ∃ value : Option α, m.members.read? p = value.map .ok := by
  rw [fields.members]
  exact Object.validate_eq_ok_iff.mp (fields.others _ among)

end ProviderMetadata

end OpenIdConnect
