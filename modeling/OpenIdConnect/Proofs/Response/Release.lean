import OpenIdConnect.Proofs.Claims.Key
import OpenIdConnect.Proofs.Json.Members
import OpenIdConnect.Response.UserInfo

/-!
# What the UserInfo endpoint releases

A member is requested when it is the subject, when a request is for just that claim, or when it
is a language variant of a claim that is requested without a tag.  Everything requested is
released; beyond that, a member is released whose name goes on behind a requested one with a
number sign and a text that is no language tag.
-/

namespace OpenIdConnect

namespace UserInfo

open Claims

/-- Is the member a language variant of a claim that is requested without a tag? -/
def VariantOf (requested : Selection) (member : String) : Prop :=
  ∃ c ∈ requested.claims, c.key.tag = none ∧
    ∃ suffix tag, member = c.key.name ++ "#" ++ suffix ∧ LanguageTag.parse suffix = .ok tag

/-- Is the member the subject, a requested claim, or a language variant of one? -/
def Requested (requested : Selection) (member : String) : Prop :=
  member = "sub" ∨ (∃ c ∈ requested.claims, member = c.key.text) ∨ VariantOf requested member

/-- Does the member go on behind an untagged requested claim with what is no language tag? -/
def Stray (requested : Selection) (member : String) : Prop :=
  ∃ c ∈ requested.claims, c.key.tag = none ∧
    ∃ suffix, member = c.key.name ++ "#" ++ suffix ∧ '#' ∉ suffix.toList ∧
      ∀ tag, LanguageTag.parse suffix ≠ .ok tag

/-! ## Names before a number sign -/

theorem untagged_append (name : String) {suffix : String} (last : '#' ∉ suffix.toList) :
    untagged (name ++ "#" ++ suffix) = name := by
  have cut : Text.cutAtLast? (· == '#') (name ++ "#" ++ suffix).toList
      = some (name.toList, suffix.toList) := by
    refine Key.cut_eq_some_iff.mpr ⟨?_, last⟩
    rw [String.toList_append, String.toList_append, List.append_assoc]
    rfl
  unfold untagged
  rw [cut]
  exact String.ofList_toList

/-- The name before a number sign is the whole of it, or a suffix stands behind the last one. -/
theorem eq_untagged_or (member : String) :
    untagged member = member ∨
      ∃ suffix : String, '#' ∉ suffix.toList ∧ member = untagged member ++ "#" ++ suffix := by
  cases cut : Text.cutAtLast? (· == '#') member.toList with
  | none =>
      left
      unfold untagged
      rw [cut]
  | some parts =>
      right
      obtain ⟨front, suffix⟩ := parts
      obtain ⟨shape, last⟩ := Key.cut_eq_some_iff.mp cut
      have name : untagged member = String.ofList front := by
        unfold untagged
        rw [cut]
      refine ⟨String.ofList suffix, by rwa [String.toList_ofList], ?_⟩
      rw [name, ← String.toList_inj, shape]
      simp

/-! ## Release -/

theorem covers_iff {c : Individual} {member : String} :
    covers c member = true ↔
      member = c.key.text ∨ (c.key.tag = none ∧ untagged member = c.key.name) := by
  unfold covers Key.text
  cases tag : c.key.tag with
  | some t =>
      dsimp only
      rw [beq_iff_eq, eq_comm]
      simp
  | none =>
      dsimp only
      rw [Bool.or_eq_true, beq_iff_eq, beq_iff_eq, or_comm, eq_comm, @eq_comm _ c.key.name]
      simp

theorem released_iff {requested : Selection} {member : String} :
    released requested member = true ↔
      Requested requested member ∨ Stray requested member := by
  unfold released
  rw [Bool.or_eq_true, beq_iff_eq, List.any_eq_true]
  constructor
  · rintro (subject | ⟨c, among, covered⟩)
    · exact .inl (.inl subject)
    · rcases covers_iff.mp covered with itself | ⟨untaggedKey, name⟩
      · exact .inl (.inr (.inl ⟨c, among, itself⟩))
      · rcases eq_untagged_or member with whole | ⟨suffix, last, shape⟩
        · have text : c.key.text = c.key.name := by
            unfold Key.text
            rw [untaggedKey]
          exact .inl (.inr (.inl ⟨c, among, by rw [text, ← name, whole]⟩))
        · rw [name] at shape
          by_cases read : ∃ tag, LanguageTag.parse suffix = .ok tag
          · obtain ⟨tag, read⟩ := read
            exact .inl (.inr (.inr ⟨c, among, untaggedKey, suffix, tag, shape, read⟩))
          · exact .inr ⟨c, among, untaggedKey, suffix, shape, last, not_exists.mp read⟩
  · rintro ((subject | ⟨c, among, itself⟩ | ⟨c, among, untaggedKey, suffix, tag, shape, read⟩) |
      ⟨c, among, untaggedKey, suffix, shape, last, _⟩)
    · exact .inl subject
    · exact .inr ⟨c, among, covers_iff.mpr (.inl itself)⟩
    · refine .inr ⟨c, among, covers_iff.mpr (.inr ⟨untaggedKey, ?_⟩)⟩
      rw [shape, untagged_append _ (LanguageTag.no_numberSign_of_parse read)]
    · refine .inr ⟨c, among, covers_iff.mpr (.inr ⟨untaggedKey, ?_⟩)⟩
      rw [shape, untagged_append _ last]

theorem get?_filter_eq_some_iff {u : UserInfo} {requested : Selection} {member : String}
    {value : Json} :
    (u.filter requested).members.get? member = some value ↔
      u.members.get? member = some value ∧
        (Requested requested member ∨ Stray requested member) := by
  change (u.members.filter _).get? member = some value ↔ _
  rw [Object.get?_filter, Option.filter_eq_some_iff, released_iff]

/--
A filtered response holds the requested members and the stray ones, unchanged, and no others.  So
it holds nothing that was not requested exactly when no stray member was in the response.
-/
theorem filter_releases (u : UserInfo) (requested : Selection) :
    (∀ member value, (u.filter requested).members.get? member = some value ↔
      u.members.get? member = some value ∧
        (Requested requested member ∨ Stray requested member)) ∧
    ((∀ member value, (u.filter requested).members.get? member = some value →
        Requested requested member) ↔
      ∀ member value, u.members.get? member = some value → Stray requested member →
        Requested requested member) := by
  refine ⟨fun member value => get?_filter_eq_some_iff, ?_⟩
  constructor
  · intro safe member value present stray
    exact safe member value (get?_filter_eq_some_iff.mpr ⟨present, .inr stray⟩)
  · intro clean member value kept
    obtain ⟨present, requestedMember | stray⟩ := get?_filter_eq_some_iff.mp kept
    · exact requestedMember
    · exact clean member value present stray

/-- A response with a member that goes on behind a requested claim with what is no tag. -/
def leaking : UserInfo :=
  ⟨((Object.empty.insert "sub" (.string "1")).insert "https://example.com/claims"
    (.bool true)).insert "https://example.com/claims#not a tag" (.string "x"), "1"⟩

/-- Not everything that is released was requested. -/
theorem not_all_released_requested :
    ¬∀ (u : UserInfo) (requested : Selection) (member : String) (value : Json),
      (u.filter requested).members.get? member = some value → Requested requested member := by
  intro safe
  have released := safe leaking ⟨[.ofKey ⟨"https://example.com/claims", none⟩]⟩
    "https://example.com/claims#not a tag" (.string "x") rfl
  rcases released with subject | ⟨c, among, itself⟩ | ⟨c, among, _, suffix, tag, shape, read⟩
  · revert subject
    decide
  · rw [List.mem_singleton.mp among] at itself
    revert itself
    decide
  · rw [List.mem_singleton.mp among] at shape
    have same : "not a tag" = suffix := by
      have whole : "https://example.com/claims" ++ "#" ++ "not a tag"
          = "https://example.com/claims" ++ "#" ++ suffix := shape
      exact (String.append_right_inj _).mp whole
    rw [← same] at read
    cases read

end UserInfo

end OpenIdConnect
