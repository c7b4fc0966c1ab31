import OpenIdConnect.Proofs.Authentication.Rereading
import OpenIdConnect.Proofs.Claims.Stability
import OpenIdConnect.Proofs.Parameter.Subject
import OpenIdConnect.Provider.Settings

/-!
# Claims that settings define

A claim that a client asks for has a name, because what is read without one is refused.  What the
settings of a provider define for scope values is not checked like this: claims are resolved exactly
when no value of the scope is defined to stand for a claim without a name.
-/

namespace OpenIdConnect

namespace Settings

variable {written : Json} {settings : Settings}

/-- The value that settings write for the claims of scope values, if they write one. -/
def scopeClaims? : Json → Option Json
  | .object members => (Object.ofList members).get? "custom_claims"
  | .array items => items[0]?
  | _ => none

/-- Settings define a claim for a scope value, as they are written. -/
def Defines (written : Json) (value name : String) : Prop :=
  ∃ members items, scopeClaims? written = some (.object members) ∧
    (Object.ofList members).get? value = some (.array items) ∧ .string name ∈ items

/-- The names that are read for a scope value are those that are listed for it. -/
theorem lookup_of_read {members : List (String × Json)} {defined : Claims.ScopeClaims}
    (read : members.map (fun m => m.2.readStrings.map fun claims => (m.1, claims)) =
      defined.map .ok) (value name : String) :
    (∃ names, defined.lookup value = some names ∧ name ∈ names) ↔
      ∃ items, members.lookup value = some (.array items) ∧ .string name ∈ items := by
  induction members generalizing defined with
  | nil =>
      cases defined with
      | nil => simp
      | cons entry defined => cases read
  | cons m members ih =>
      cases defined with
      | nil => cases read
      | cons entry defined =>
          obtain ⟨here, others⟩ := List.cons.inj read
          obtain ⟨names, listed, rfl⟩ := Outcome.map_eq_ok.mp here
          obtain ⟨key, json⟩ := m
          rw [List.lookup_cons, List.lookup_cons]
          cases value == key with
          | false => exact ih others
          | true =>
              cases json with
              | array items =>
                  have texts : items = names.map .string := mapM_readString_eq_ok_iff.mp listed
                  simp [texts]
              | _ => cases listed

theorem lookup_of_readScopeClaims {defined : Claims.ScopeClaims}
    (read : readScopeClaims written = .ok defined) (value name : String) :
    (∃ names, defined.lookup value = some names ∧ name ∈ names) ↔
      ∃ members items, written = .object members ∧
        (Object.ofList members).get? value = some (.array items) ∧ .string name ∈ items := by
  obtain ⟨o, isMap, each⟩ := Outcome.bind_eq_ok.mp read
  cases written with
  | object members =>
      cases isMap
      rw [lookup_of_read (Outcome.mapM_eq_ok.mp each)]
      constructor
      · rintro ⟨items, found, among⟩
        exact ⟨members, items, rfl, found, among⟩
      · rintro ⟨_, items, ⟨⟩, found, among⟩
        exact ⟨items, found, among⟩
  | _ => cases isMap

/-- Settings that are read stand for the claims that they are written to define. -/
theorem lookup_iff_defines (read : Settings.read written = .ok settings) (value name : String) :
    (∃ names, settings.scopeClaims.lookup value = some names ∧ name ∈ names) ↔
      Defines written value name := by
  have part : ∀ {classes : Option Json} {settings : Settings},
      readParts (scopeClaims? written) classes = .ok settings →
        ((∃ names, settings.scopeClaims.lookup value = some names ∧ name ∈ names) ↔
          Defines written value name) := by
    intro classes settings made
    obtain ⟨defined, definedRead, made⟩ := Outcome.bind_eq_ok.mp made
    obtain ⟨_, _, done⟩ := Outcome.bind_eq_ok.mp made
    cases done
    rw [Defines]
    cases present : scopeClaims? written with
    | none =>
        rw [present] at definedRead
        cases definedRead
        simp
    | some json =>
        rw [present] at definedRead
        rw [lookup_of_readScopeClaims definedRead]
        simp
  cases written with
  | object members => exact part read
  | array items =>
      obtain ⟨found, made, checked⟩ := Outcome.bind_eq_ok.mp read
      obtain ⟨_, done⟩ := Outcome.refused_eq_ok.mp checked
      cases done
      exact part made
  | _ => cases read

end Settings

namespace Claims

namespace Selection

/-- Every claim of the selection has a name. -/
def Named (s : Selection) : Prop :=
  ∀ c ∈ s.claims, c.key.name ≠ ""

/-- The claims of a scope can be added unless one of them has no name. -/
theorem exists_ofScope?_iff {scope : Scope} {defined : ScopeClaims} :
    (∃ s, Selection.ofScope? scope defined = some s) ↔ ¬StandsFor scope defined "" := by
  constructor
  · rintro ⟨s, made⟩ nameless
    have found : s.get? ⟨"", none⟩ = some (.ofKey ⟨"", none⟩) := by
      rw [get?_insertNames? made]
      exact if_pos ⟨rfl, mem_claimsOf_iff.mpr nameless⟩
    have valid := (Valid.ofScope? made).claims _ (mem_of_get? found)
    exact valid.key.named rfl
  · intro named
    refine exists_insertNames? _ fun name member => ?_
    rintro rfl
    exact named (mem_claimsOf_iff.mp member)

end Selection

/-- The standard gives every claim a name, so one without a name is defined. -/
theorem standsFor_nameless_iff {scope : Scope} {defined : ScopeClaims} :
    StandsFor scope defined "" ↔
      ∃ value ∈ scope.values, ∃ names, defined.lookup value = some names ∧ "" ∈ names := by
  have standard : ∀ entry ∈ standardScopes, "" ∉ entry.2 := by decide
  refine exists_congr fun value => and_congr_right fun _ => or_iff_right ?_
  rintro ⟨names, found, among⟩
  exact standard _ (mem_of_lookup found) among

namespace Request

/-- Every claim of the request has a name. -/
structure Named (r : Request) : Prop where
  plain : ∀ place claims, (r.side place).plain = some claims → claims.Named
  verified : ∀ place, ∀ v ∈ (r.side place).verified, v.claims.Named

theorem Valid.named {r : Request} (valid : r.Valid) : r.Named := by
  constructor
  · intro place claims present c member
    exact (((valid.side place).plain claims present).1.claims c member).key.named
  · intro place v among c member
    exact (((valid.side place).verified v among).claims.claims c member).key.named

theorem exists_resolve?_iff {responseType : ResponseType} {scope : Option Scope}
    {explicit : Option Request} {defined : ScopeClaims} :
    (∃ r, resolve? responseType scope explicit defined = some r) ↔
      (Openid responseType scope → ¬StandsFor (scope.getD .empty) defined "") := by
  rw [resolve?, ← Selection.exists_ofScope?_iff, ← concernsOpenid_iff]
  cases concernsOpenid responseType scope with
  | false => simp
  | true => simp [ofScope?]

end Request

end Claims

namespace AuthenticationRequest

variable {written : Json} {settings : Settings} {endpoint : Option Url} {params : Object}
  {r : AuthenticationRequest}

/--
The claims of a request that was read are resolved with settings that were read exactly when the
settings define no claim without a name for a value of its scope, or no claims are asked for at all.
Every claim of what is resolved has a name.
-/
theorem exists_resolveClaims?_iff (parsed : parse endpoint params = .ok r)
    (read : Settings.read written = .ok settings) :
    ((∃ resolved, r.resolveClaims? settings.scopeClaims = some resolved) ↔
      (Claims.Request.Openid r.responseType (some r.scope) →
        ∀ value ∈ r.scope.values, ¬Settings.Defines written value "")) ∧
    ∀ resolved, r.resolveClaims? settings.scopeClaims = some resolved → resolved.Named := by
  constructor
  · rw [resolveClaims?, Claims.Request.exists_resolve?_iff, Option.getD_some,
      Claims.standsFor_nameless_iff]
    simp only [Settings.lookup_iff_defines read, not_exists, not_and]
  · intro resolved made
    have explicitValid : ∀ e, r.claims = some e → e.Valid := by
      intro e asked
      obtain ⟨json, claimsRead⟩ := (parse_eq_ok_iff.mp parsed).2.1.wasRead.claims e asked
      exact (Claims.Request.valid_of_parse (Outcome.mapError_eq_ok.mp claimsRead)).1
    exact (Claims.Request.Valid.resolve? explicitValid made).named

/-- Parameters of a request for the claims of the staff. -/
def staffParameters : Object :=
  (listed ["code"]).insert "scope" (.string "openid staff")

/-- The request for the claims of the staff. -/
def staffRequest : AuthenticationRequest :=
  { listedRequest .codeOnly with scope := .ofList ["openid", "staff"] }

/-- Settings that define a single claim for the staff, as they are written. -/
def staffSettings (name : String) : Json :=
  .object [("custom_claims", .object [("staff", .array [.string name])])]

set_option maxRecDepth 20000 in
theorem parse_staffParameters : parse none staffParameters = .ok staffRequest := by
  with_unfolding_all rfl

theorem read_staffSettings (name : String) :
    Settings.read (staffSettings name) = .ok ⟨[("staff", [name])], []⟩ :=
  rfl

theorem exists_resolveClaims?_badge :
    ∃ resolved, staffRequest.resolveClaims? [("staff", ["badge"])] = some resolved ∧
      resolved.Named := by
  obtain ⟨resolves, named⟩ :=
    exists_resolveClaims?_iff parse_staffParameters (read_staffSettings "badge")
  have noneNameless : ∀ entry ∈ [("staff", ["badge"])], "" ∉ entry.2 := by decide
  have defined : ∀ value ∈ staffRequest.scope.values,
      ¬Settings.Defines (staffSettings "badge") value "" := by
    intro value _
    rw [← Settings.lookup_iff_defines (read_staffSettings "badge")]
    rintro ⟨names, found, nameless⟩
    exact noneNameless _ (Claims.mem_of_lookup found) nameless
  obtain ⟨resolved, made⟩ := resolves.mpr fun _ => defined
  exact ⟨resolved, made, named resolved made⟩

/-- A claim without a name that is defined for a scope value leaves its claims unresolved. -/
theorem not_all_resolve :
    ¬∀ (endpoint : Option Url) (params : Object) (r : AuthenticationRequest) (written : Json)
      (settings : Settings), parse endpoint params = .ok r → Settings.read written = .ok settings →
        ∃ resolved, r.resolveClaims? settings.scopeClaims = some resolved := by
  intro all
  obtain ⟨resolved, made⟩ := all none staffParameters staffRequest (staffSettings "") _
    parse_staffParameters (read_staffSettings "")
  cases made

end AuthenticationRequest

end OpenIdConnect
