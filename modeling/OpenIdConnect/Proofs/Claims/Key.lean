import OpenIdConnect.Claims.Individual
import OpenIdConnect.Proofs.Language.Canonical

/-!
# Keys and their texts

A text is read as a variant of a claim exactly when its last number sign has a name in front of
it and a language tag behind it.  So the text of a key writes that key unless an untagged name
is itself the text of a variant.
-/

namespace OpenIdConnect

namespace Claims

/-- The text is a name, its last number sign, and a suffix that writes a language tag. -/
structure Variant (text front suffix : String) (tag : LanguageTag) : Prop where
  named : front ≠ ""
  last : '#' ∉ suffix.toList
  shape : text = front ++ "#" ++ suffix
  read : LanguageTag.parse suffix = .ok tag

/-- Is the text that of a variant of a claim in some language? -/
def IsVariant (text : String) : Prop :=
  ∃ front suffix tag, Variant text front suffix tag

namespace Key

theorem cut_eq_some_iff {text : String} {front suffix : List Char} :
    Text.cutAtLast? (· == '#') text.toList = some (front, suffix) ↔
      text.toList = front ++ '#' :: suffix ∧ '#' ∉ suffix := by
  rw [Text.cutAtLast?_eq_some_iff]
  constructor
  · rintro ⟨a, sign, shape, plain⟩
    rw [eq_of_beq sign] at shape
    refine ⟨shape, ?_⟩
    intro member
    cases plain '#' member
  · rintro ⟨shape, absent⟩
    refine ⟨'#', rfl, shape, ?_⟩
    intro b member
    have other : b ≠ '#' := fun same => absent (same ▸ member)
    simpa using other

theorem ofText_variant {text front suffix : String} {tag : LanguageTag}
    (variant : Variant text front suffix tag) : ofText text = ⟨front, some tag⟩ := by
  have cut : Text.cutAtLast? (· == '#') text.toList = some (front.toList, suffix.toList) := by
    refine cut_eq_some_iff.mpr ⟨?_, variant.last⟩
    rw [variant.shape, String.toList_append, String.toList_append, List.append_assoc]
    rfl
  have named : front.toList.isEmpty = false := by
    simpa using variant.named
  unfold ofText
  rw [cut]
  simp only [named, Bool.false_eq_true, if_false, String.ofList_toList, variant.read]

/-- A text that is no variant's is the name of an untagged claim. -/
theorem ofText_plain {text : String} (plain : ¬IsVariant text) : ofText text = ⟨text, none⟩ := by
  unfold ofText
  cases cut : Text.cutAtLast? (· == '#') text.toList with
  | none => rfl
  | some parts =>
      obtain ⟨front, suffix⟩ := parts
      obtain ⟨shape, absent⟩ := cut_eq_some_iff.mp cut
      dsimp only
      split
      · rfl
      · next named =>
          cases read : LanguageTag.parse (String.ofList suffix) with
          | error defect => rfl
          | ok tag =>
              refine absurd ⟨String.ofList front, String.ofList suffix, tag, ?_⟩ plain
              refine ⟨?_, ?_, ?_, read⟩
              · intro empty
                apply named
                rw [← String.toList_inj, String.toList_ofList] at empty
                rw [empty]
                rfl
              · rw [String.toList_ofList]
                exact absent
              · rw [← String.toList_inj, shape]
                simp

theorem not_isVariant_of_untagged {text : String} (untagged : (ofText text).tag = none) :
    ¬IsVariant text := by
  rintro ⟨front, suffix, tag, variant⟩
  rw [ofText_variant variant] at untagged
  cases untagged

/-- A key as the claims of a client have it: named, and with a tag that was read. -/
structure Valid (k : Key) : Prop where
  named : k.name ≠ ""
  canonical : ∀ tag, k.tag = some tag → tag.Canonical

theorem valid_ofText {text : String} (named : text ≠ "") : (ofText text).Valid := by
  by_cases variant : IsVariant text
  · obtain ⟨front, suffix, tag, variant⟩ := variant
    rw [ofText_variant variant]
    refine ⟨variant.named, ?_⟩
    intro tag' same
    cases same
    exact LanguageTag.canonical_of_parse variant.read
  · rw [ofText_plain variant]
    refine ⟨named, ?_⟩
    intro tag impossible
    cases impossible

theorem Valid.variant {name : String} {tag : LanguageTag} (valid : Valid ⟨name, some tag⟩) :
    Variant (text ⟨name, some tag⟩) name tag.text tag :=
  ⟨valid.named, (valid.canonical tag rfl).no_numberSign, rfl, valid.canonical tag rfl⟩

/-- The text of a key writes the key, unless it is untagged and named like a variant. -/
theorem Valid.ofText_text {k : Key} (valid : k.Valid)
    (plain : k.tag = none → ¬IsVariant k.name) : ofText k.text = k := by
  obtain ⟨name, tag⟩ := k
  cases tag with
  | none => exact ofText_plain (plain rfl)
  | some tag => exact ofText_variant valid.variant

theorem Valid.text_ne_empty {k : Key} (valid : k.Valid) : k.text ≠ "" := by
  obtain ⟨name, tag⟩ := k
  cases tag with
  | none => exact valid.named
  | some tag =>
      intro empty
      have characters := congrArg String.toList empty
      simp [text] at characters

/-- The text of a tagged key holds a number sign. -/
theorem numberSign_mem_text {name : String} {tag : LanguageTag} :
    '#' ∈ (text ⟨name, some tag⟩).toList := by
  simp [text]

end Key

end Claims

end OpenIdConnect
