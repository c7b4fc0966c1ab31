import OpenIdConnect.Authentication.Request
import OpenIdConnect.Proofs.Parameter.Access

/-!
# What a request writes

The parameters of a request are its custom ones and, under the registered names, the values of its
fields.
-/

namespace OpenIdConnect

namespace AuthenticationRequest

variable {α : Type}

/-- A field under the name of its parameter. -/
def entry (p : Parameter α) (value : Option α) : String × Option Json :=
  (p.name, value.map p.write)

/-- The fields of a request, as they are written. -/
def entries (r : AuthenticationRequest) : List (String × Option Json) :=
  [entry .responseType (some r.responseType), entry .clientId (some r.clientId),
    entry .redirectUri r.redirectUri, entry .scope (some r.scope), entry .state r.state,
    entry .responseMode r.explicitMode, entry .nonce r.nonce, entry .display r.display,
    entry .prompt r.prompt, entry .maxAge r.maxAge, entry .uiLocales r.uiLocales,
    entry .claimsLocales r.claimsLocales, entry .idTokenHint r.idTokenHint,
    entry .loginHint r.loginHint, entry .acrValues r.acrValues,
    entry .claims (r.claims.filter fun claims => !claims.isEmpty), entry .request r.request,
    entry .requestUri r.requestUri, entry .codeChallenge r.codeChallenge,
    entry .codeChallengeMethod r.explicitMethod, entry .resource r.resource,
    entry .includeGrantedScopes r.grantedScopes]

theorem names_entries (r : AuthenticationRequest) :
    r.entries.map Prod.fst = Parameter.registered :=
  rfl

theorem nodup_registered : Parameter.registered.Nodup := by
  decide

theorem parameters_eq (r : AuthenticationRequest) :
    r.parameters = r.entries.foldl (fun o e => o.insert? e.1 e.2) r.custom := by
  unfold parameters
  simp only [Object.write?_eq]
  rfl

/-- Custom parameters stand beside the registered ones. -/
def Apart (r : AuthenticationRequest) : Prop :=
  ∀ k ∈ Parameter.registered, r.custom.get? k = none

theorem get?_parameters {r : AuthenticationRequest} (apart : r.Apart) {p : Parameter α}
    {value : Option α} (among : entry p value ∈ r.entries) :
    r.parameters.get? p.name = value.map p.write := by
  have different : (r.entries.map Prod.fst).Nodup := by
    rw [names_entries]
    exact nodup_registered
  have registered : p.name ∈ Parameter.registered := by
    rw [← names_entries r]
    exact List.mem_map_of_mem among
  rw [parameters_eq]
  exact Object.get?_foldl_insert?_of_mem different (apart _ registered) among

theorem get?_parameters_custom {r : AuthenticationRequest} {k : String}
    (unregistered : k ∉ Parameter.registered) : r.parameters.get? k = r.custom.get? k := by
  rw [← names_entries r] at unregistered
  rw [parameters_eq]
  exact Object.get?_foldl_insert?_of_new unregistered r.custom

end AuthenticationRequest

end OpenIdConnect
