import OpenIdConnect.Proofs.Claims.Selection
import OpenIdConnect.Proofs.Parameter.Access
import OpenIdConnect.Proofs.Response.Release

/-!
# What the UserInfo endpoint does not withhold

Whether a member is released depends on the keys of the requests alone.  So merging requests
releases what either of them does, and releasing once more changes nothing.  The subject is told
whatever is requested.
-/

namespace OpenIdConnect

namespace UserInfo

open Claims

variable {u : UserInfo} {a b : Selection}

/-! ## Keys decide -/

/-- The requests for a claim are covered alike, whatever else they say. -/
theorem released_iff_keys {member : String} :
    released a member = true ↔
      member = "sub" ∨ ∃ k ∈ a.keys, covers (.ofKey k) member = true := by
  rw [released, Bool.or_eq_true, beq_iff_eq, List.any_eq_true]
  refine or_congr_right ⟨?_, ?_⟩
  · rintro ⟨c, among, covered⟩
    exact ⟨c.key, List.mem_map_of_mem among, covered⟩
  · rintro ⟨k, among, covered⟩
    obtain ⟨c, present, rfl⟩ := List.mem_map.mp among
    exact ⟨c, present, covered⟩

theorem released_merge (a b : Selection) (member : String) :
    released (a.merge b) member = (released a member || released b member) := by
  rw [Bool.eq_iff_iff, Bool.or_eq_true]
  iterate 3 rw [released_iff_keys]
  constructor
  · rintro (subject | ⟨k, among, covered⟩)
    · exact .inl (.inl subject)
    · rcases Selection.mem_keys_merge.mp among with first | second
      · exact .inl (.inr ⟨k, first, covered⟩)
      · exact .inr (.inr ⟨k, second, covered⟩)
  · rintro ((subject | ⟨k, among, covered⟩) | (subject | ⟨k, among, covered⟩))
    · exact .inl subject
    · exact .inr ⟨k, Selection.mem_keys_merge.mpr (.inl among), covered⟩
    · exact .inl subject
    · exact .inr ⟨k, Selection.mem_keys_merge.mpr (.inr among), covered⟩

theorem released_of_covers {c : Individual} (among : c ∈ a.claims) {member : String}
    (covered : covers c member = true) : released a member = true :=
  Bool.or_eq_true _ _ |>.mpr (.inr (List.any_eq_true.mpr ⟨c, among, covered⟩))

/-- A request without a tag covers the claim in every language. -/
theorem covers_variant {c : Individual} (untaggedKey : c.key.tag = none) {tag : LanguageTag}
    (last : '#' ∉ tag.text.toList) :
    covers c (Key.text ⟨c.key.name, some tag⟩) = true :=
  covers_iff.mpr (.inr ⟨untaggedKey, untagged_append _ last⟩)

/-! ## Lookups in what is released -/

theorem get?_filter (u : UserInfo) (a : Selection) (member : String) :
    (u.filter a).members.get? member =
      if released a member then u.members.get? member else none := by
  change (u.members.filter _).get? member = _
  rw [Object.get?_filter]
  cases released a member <;> cases u.members.get? member <;> rfl

theorem get?_filter_of_released {member : String} (isReleased : released a member = true) :
    (u.filter a).members.get? member = u.members.get? member := by
  rw [get?_filter, if_pos isReleased]

theorem members_filter_merge (u : UserInfo) (a b : Selection) :
    (u.filter (a.merge b)).members = (u.filter a).members.union (u.filter b).members := by
  refine Object.ext_get? fun member => ?_
  rw [Object.get?_union, get?_filter, get?_filter, get?_filter, released_merge]
  cases released a member <;> cases released b member <;> cases u.members.get? member <;> rfl

theorem filter_filter (u : UserInfo) (a : Selection) : (u.filter a).filter a = u.filter a := by
  have members : ((u.filter a).filter a).members = (u.filter a).members := by
    refine Object.ext_get? fun member => ?_
    rw [get?_filter, get?_filter]
    split <;> rfl
  exact congrArg (fun o => UserInfo.mk o u.subject) members

/-- The subject is told, and nothing else when nothing is requested. -/
theorem get?_toObject_filter_empty (u : UserInfo) (member : String) :
    (u.filter .empty).toObject.get? member =
      if member = "sub" then some (.string u.subject) else none := by
  rw [toObject, Object.get?_write]
  change (if member = "sub" then _ else _) = _
  split
  · rfl
  · next other =>
      have unreleased : released .empty member = false := by
        rw [← Bool.not_eq_true, released_iff_keys]
        rintro (subject | ⟨k, impossible, _⟩)
        · exact other subject
        · cases impossible
      rw [get?_filter, unreleased]
      rfl

/--
Every requested claim is released with the value it has, and with it its variants when it is
requested without a tag.  What merged requests release is what each of them releases, releasing
again changes nothing, and the subject is told in any case.
-/
theorem filter_withholds_nothing (u : UserInfo) (a b : Selection) :
    (∀ c ∈ a.claims, (u.filter a).claim? c.key = u.claim? c.key) ∧
      (∀ c ∈ a.claims, c.key.tag = none → ∀ tag : LanguageTag, '#' ∉ tag.text.toList →
        (u.filter a).claim? ⟨c.key.name, some tag⟩ = u.claim? ⟨c.key.name, some tag⟩) ∧
      (u.filter (a.merge b)).members = (u.filter a).members.union (u.filter b).members ∧
      (∀ member value, (u.filter (a.merge b)).members.get? member = some value →
        u.members.get? member = some value) ∧
      (u.filter a).filter a = u.filter a ∧
      (u.filter a).toObject.get? "sub" = u.toObject.get? "sub" ∧
      ∀ member, (u.filter .empty).toObject.get? member =
        if member = "sub" then u.toObject.get? "sub" else none := by
  have told (u : UserInfo) : u.toObject.get? "sub" = some (.string u.subject) :=
    (Object.get?_write _ _ _ _).trans (if_pos rfl)
  refine ⟨?_, ?_, members_filter_merge u a b, ?_, filter_filter u a, ?_, ?_⟩
  · intro c among
    exact get?_filter_of_released (released_of_covers among (covers_iff.mpr (.inl rfl)))
  · intro c among untaggedKey tag last
    exact get?_filter_of_released (released_of_covers among (covers_variant untaggedKey last))
  · intro member value kept
    exact (get?_filter_eq_some_iff.mp kept).1
  · rw [told, told]
    rfl
  · rw [told]
    exact get?_toObject_filter_empty u

/-- A response about a name in two languages, and about a telephone. -/
def twoNames : UserInfo :=
  ⟨.ofList [("name", .string "Jane"), ("name#de", .string "Johanna"), ("phone", .string "5"),
    ("sub", .string "1")], "1"⟩

/-- The request for a name. -/
def nameRequest : Selection :=
  ⟨[.ofKey ⟨"name", none⟩]⟩

theorem twoNames_released :
    (twoNames.filter nameRequest).claim? ⟨"name", some ⟨"de"⟩⟩ = some (.string "Johanna") ∧
      (twoNames.filter (nameRequest.merge ⟨[.ofKey ⟨"phone", none⟩]⟩)).members =
        twoNames.members ∧
      (twoNames.filter .empty).toObject.get? "sub" = some (.string "1") := by
  obtain ⟨_, variants, merged, _, _, _, nothing⟩ :=
    filter_withholds_nothing twoNames nameRequest ⟨[.ofKey ⟨"phone", none⟩]⟩
  refine ⟨?_, ?_, nothing "sub"⟩
  · exact variants _ (.head _) rfl ⟨"de"⟩ (by decide)
  · rw [merged]
    rfl

end UserInfo

end OpenIdConnect
