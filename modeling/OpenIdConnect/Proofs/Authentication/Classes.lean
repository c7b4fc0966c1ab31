import OpenIdConnect.Authentication.Classes
import OpenIdConnect.Proofs.Claims.Resolution
import OpenIdConnect.Proofs.Distinct

/-!
# Classes of authentication, asked for and enforced

Which classes a request asks for, and when it is denied for them.  Only the untagged entry for the
class among the plain claims of the ID token can make a class essential, so nothing else in a
request can cause a denial.
-/

namespace OpenIdConnect

/-- The string that a value is. -/
def Json.text? : Json → Option String
  | .string s => some s
  | _ => none

/-- The strings that a request for a claim names. -/
def Claims.Constraint.texts : Claims.Constraint → List String
  | .any => []
  | .value v => v.text?.toList
  | .values vs => vs.filterMap Json.text?

namespace AuthenticationRequest

/-- The untagged entry for the class among the plain claims of the ID token. -/
def classEntry? (r : AuthenticationRequest) : Option Claims.Individual :=
  r.claims.bind fun claims => claims.idToken.claim? ⟨"acr", none⟩

/-- Does the entry ask for an essential claim? -/
def demandsClass (r : AuthenticationRequest) : Bool :=
  r.classEntry?.any Claims.Individual.isEssential

/-- The classes that the entry names. -/
def namedClasses (r : AuthenticationRequest) : List String :=
  (r.classEntry?.map fun entry => entry.constraint.texts).getD []

/-- The classes of the parameter. -/
def preferredClasses (r : AuthenticationRequest) : List String :=
  (r.acrValues.map NonEmpty.toList).getD []

/-- The entry demands one of the classes it names, and none of them is supported. -/
structure DemandsUnsupported (r : AuthenticationRequest) (supported : List String) : Prop where
  demanded : r.demandsClass = true
  named : r.namedClasses ≠ []
  unsupported : ∀ name ∈ r.namedClasses, name ∉ supported

end AuthenticationRequest

namespace ClassRequest

variable {r : AuthenticationRequest}

/-! ## Classes asked for -/

theorem claim?_eq (r : AuthenticationRequest) : claim? r = r.classEntry? :=
  rfl

theorem classesOf_eq (claim : Claims.Individual) : classesOf claim = claim.constraint.texts := by
  obtain ⟨key, necessity, constraint, purpose, details⟩ := claim
  cases constraint with
  | any => rfl
  | value v => cases v <;> rfl
  | values vs => rfl

theorem ofRequest_of_none (absent : r.classEntry? = none) :
    ofRequest r = ⟨[], Distinct.ofList r.preferredClasses⟩ := by
  unfold ofRequest
  rw [claim?_eq, absent]
  rfl

theorem ofRequest_of_some {entry : Claims.Individual} (present : r.classEntry? = some entry) :
    ofRequest r =
      if entry.isEssential then
        ⟨Distinct.ofList (classesOf entry), Distinct.ofList r.preferredClasses⟩
      else ⟨[], Distinct.addAll (Distinct.ofList r.preferredClasses) (classesOf entry)⟩ := by
  unfold ofRequest
  rw [claim?_eq, present]
  rfl

/-- The classes of a demand are essential; all others are voluntary, those of the parameter first. -/
theorem ofRequest_eq (r : AuthenticationRequest) :
    ofRequest r =
      ⟨(if r.demandsClass then r.namedClasses else []).eraseDups,
        (r.preferredClasses ++ if r.demandsClass then [] else r.namedClasses).eraseDups⟩ := by
  unfold AuthenticationRequest.demandsClass AuthenticationRequest.namedClasses
  cases entry? : r.classEntry? with
  | none =>
      rw [ofRequest_of_none entry?, Distinct.ofList_eq_eraseDups]
      simp
  | some entry =>
      rw [ofRequest_of_some entry?, classesOf_eq, Distinct.addAll_ofList,
        Distinct.ofList_eq_eraseDups, Distinct.ofList_eq_eraseDups, Distinct.ofList_eq_eraseDups]
      cases essential : entry.isEssential <;> simp [essential]

/-! ## Classes enforced -/

theorem mem_essential_iff {name : String} :
    name ∈ (ofRequest r).essential ↔ r.demandsClass = true ∧ name ∈ r.namedClasses := by
  rw [ofRequest_eq, List.mem_eraseDups]
  cases r.demandsClass <;> simp

theorem isMet_eq_false_iff {c : ClassRequest} {supported : List String} :
    c.isMet supported = false ↔ c.essential ≠ [] ∧ ∀ name ∈ c.essential, name ∉ supported := by
  rw [isMet, Bool.or_eq_false_iff, List.isEmpty_eq_false_iff, List.any_eq_false]
  exact and_congr_right fun _ => forall₂_congr fun name _ => not_congr List.contains_iff_mem

/-- The classes asked for cannot be met when none of those demanded is supported. -/
theorem isMet_ofRequest_eq_false_iff {supported : List String} :
    (ofRequest r).isMet supported = false ↔ r.DemandsUnsupported supported := by
  rw [isMet_eq_false_iff]
  constructor
  · rintro ⟨several, unsupported⟩
    obtain ⟨name, asked⟩ := List.exists_mem_of_ne_nil _ several
    obtain ⟨demanded, member⟩ := mem_essential_iff.mp asked
    refine ⟨demanded, List.ne_nil_of_mem member, ?_⟩
    intro other named
    exact unsupported other (mem_essential_iff.mpr ⟨demanded, named⟩)
  · rintro ⟨demanded, named, unsupported⟩
    obtain ⟨name, member⟩ := List.exists_mem_of_ne_nil _ named
    refine ⟨List.ne_nil_of_mem (mem_essential_iff.mpr ⟨demanded, member⟩), ?_⟩
    intro other asked
    exact unsupported other (mem_essential_iff.mp asked).2

theorem ensure_eq_error_iff {supported : List String} {refusal : Refusal} :
    (ofRequest r).ensure r supported = .error refusal ↔
      r.DemandsUnsupported supported ∧ refusal = r.refuse .classesUnsupported := by
  rw [← isMet_ofRequest_eq_false_iff, ensure]
  cases (ofRequest r).isMet supported with
  | true => exact iff_of_false nofun fun denied => nomatch denied.1
  | false =>
      constructor
      · rintro ⟨⟩
        exact ⟨rfl, rfl⟩
      · rintro ⟨_, rfl⟩
        rfl

/-- Whether a demand is unsupported hangs on the entry alone. -/
theorem demandsUnsupported_of_same {r' : AuthenticationRequest} {supported : List String}
    (same : r'.classEntry? = r.classEntry?) (denied : r.DemandsUnsupported supported) :
    r'.DemandsUnsupported supported := by
  have demanded : r'.demandsClass = r.demandsClass :=
    congrArg (fun entry => entry.any Claims.Individual.isEssential) same
  have named : r'.namedClasses = r.namedClasses :=
    congrArg (fun entry => (entry.map fun e => e.constraint.texts).getD []) same
  exact ⟨demanded ▸ denied.demanded, named ▸ denied.named, named ▸ denied.unsupported⟩

/--
The classes of the untagged entry are essential when it is, and voluntary behind those of the
parameter otherwise, each once.  A request is denied exactly when the entry demands a class and none
that it names is supported, and the denial is for the client that asked.  Nothing but this entry can
make a difference.
-/
theorem asked_and_enforced (r : AuthenticationRequest) (supported : List String) :
    (ofRequest r).essential = (if r.demandsClass then r.namedClasses else []).eraseDups ∧
    (ofRequest r).voluntary =
      (r.preferredClasses ++ if r.demandsClass then [] else r.namedClasses).eraseDups ∧
    ((∃ refusal, (ofRequest r).ensure r supported = .error refusal) ↔
      r.DemandsUnsupported supported) ∧
    (∀ refusal, (ofRequest r).ensure r supported = .error refusal →
      refusal.response.code = .accessDenied ∧
        refusal.requester = ⟨some r.clientId, r.redirectUri, r.state, some r.responseMode⟩) ∧
    ∀ r', r'.classEntry? = r.classEntry? →
      ((∃ refusal, (ofRequest r').ensure r' supported = .error refusal) ↔
        ∃ refusal, (ofRequest r).ensure r supported = .error refusal) := by
  have denied_iff : ∀ r, (∃ refusal, (ofRequest r).ensure r supported = .error refusal) ↔
      r.DemandsUnsupported supported := by
    intro r
    simp only [ensure_eq_error_iff, exists_and_left, exists_eq, and_true]
  refine ⟨by rw [ofRequest_eq], by rw [ofRequest_eq], denied_iff r, ?_, ?_⟩
  · intro refusal denied
    obtain ⟨_, rfl⟩ := ensure_eq_error_iff.mp denied
    exact ⟨rfl, rfl⟩
  · intro r' same
    rw [denied_iff, denied_iff]
    exact ⟨demandsUnsupported_of_same same.symm, demandsUnsupported_of_same same⟩

/-- An entry for the class that names these values. -/
def entryFor (tag : Option LanguageTag) (values : List Json) : Claims.Individual :=
  ⟨⟨"acr", tag⟩, .essential, .values values, none, none⟩

/-- The entry that matters: two classes, one of them twice, and a value that is none. -/
def demand : Claims.Individual :=
  entryFor none [.string "gold", .null, .string "silver", .string "gold"]

/-- A request that asks for classes in every way. -/
def insistent : AuthenticationRequest :=
  { AuthenticationRequest.plain .codeOnly (.ofList ["openid"]) "a"
      (some ⟨"https://c.example/cb", none, none⟩) with
    state := some "s"
    acrValues := some ⟨"bronze", ["silver", "bronze"]⟩
    claims := some {
      idToken := ⟨some ⟨[entryFor (some ⟨"de"⟩) [.string "bronze"], demand]⟩, []⟩
      userinfo := ⟨some ⟨[entryFor none [.string "bronze"]]⟩, []⟩ } }

/-- The same demand and nothing else. -/
def terse : AuthenticationRequest :=
  { insistent with acrValues := none, claims := some ⟨⟨some ⟨[demand]⟩, []⟩, .empty⟩ }

theorem insistent_denied :
    (ofRequest insistent).essential = ["gold", "silver"] ∧
    (ofRequest insistent).voluntary = ["bronze", "silver"] ∧
    (∃ refusal, (ofRequest insistent).ensure insistent ["bronze"] = .error refusal ∧
      refusal.response.code = .accessDenied ∧
      refusal.requester = ⟨some "a", some ⟨"https://c.example/cb", none, none⟩, some "s",
        some .query⟩) ∧
    ∃ refusal, (ofRequest terse).ensure terse ["bronze"] = .error refusal := by
  obtain ⟨essential, voluntary, denied_iff, told, others⟩ := asked_and_enforced insistent ["bronze"]
  obtain ⟨refusal, denied⟩ := denied_iff.mpr ⟨rfl, by decide, by decide⟩
  refine ⟨essential.trans (by decide), voluntary.trans (by decide), ?_, ?_⟩
  · exact ⟨refusal, denied, told refusal denied⟩
  · exact (others terse rfl).mpr ⟨refusal, denied⟩

end ClassRequest

end OpenIdConnect
