import Mathlib
import OpenIdConnect.Language.Tag
import OpenIdConnect.Proofs.Outcome
import OpenIdConnect.Proofs.Text.Pieces

/-!
# Canonical language tags

The reader of language tags sees letters without their case, and the canonical form of a tag
differs from the text it was read from in nothing but the case of letters.  So a canonical form
is read as itself.  It holds letters, digits and dashes only.
-/

namespace OpenIdConnect

namespace LanguageTag

/-! ## Letters without their case -/

theorem toNat_toLower (c : Char) :
    c.toLower.toNat = if 65 ≤ c.toNat ∧ c.toNat ≤ 90 then c.toNat + 32 else c.toNat := by
  unfold Char.toLower
  split
  · next upper =>
      have bounds : 65 ≤ c.toNat ∧ c.toNat ≤ 90 := upper
      rw [if_pos bounds]
      change (c.val + 32).toNat = c.toNat + 32
      rw [UInt32.toNat_add]
      change (c.toNat + 32) % 4294967296 = c.toNat + 32
      omega
  · next other =>
      have bounds : ¬(65 ≤ c.toNat ∧ c.toNat ≤ 90) := other
      rw [if_neg bounds]

theorem isLetter_iff (c : Char) :
    isLetter c = true ↔
      (65 ≤ c.toNat ∧ c.toNat ≤ 90) ∨ (97 ≤ c.toNat ∧ c.toNat ≤ 122) := by
  simp [isLetter, Char.isAlpha, Char.isUpper, Char.isLower, UInt32.le_iff_toNat_le,
    ← Char.toNat_val]

theorem isDigit_iff (c : Char) : c.isDigit = true ↔ 48 ≤ c.toNat ∧ c.toNat ≤ 57 := by
  simp [Char.isDigit, UInt32.le_iff_toNat_le, ← Char.toNat_val]

theorem isLetter_toLower (c : Char) : isLetter c.toLower = isLetter c :=
  c.isAlpha_toLower_eq_isAlpha

theorem isDigit_toLower (c : Char) : c.toLower.isDigit = c.isDigit := by
  rw [Bool.eq_iff_iff, isDigit_iff, isDigit_iff, toNat_toLower]
  split <;> omega

theorem isAlphanumeric_toLower (c : Char) : isAlphanumeric c.toLower = isAlphanumeric c := by
  change (isLetter c.toLower || c.toLower.isDigit) = (isLetter c || c.isDigit)
  rw [isLetter_toLower, isDigit_toLower]

theorem toLower_eq_dash (c : Char) : (c.toLower == '-') = (c == '-') := by
  rw [Bool.eq_iff_iff, beq_iff_eq, beq_iff_eq, ← Char.toNat_inj, ← Char.toNat_inj, toNat_toLower]
  change _ = 45 ↔ _ = 45
  split <;> omega

theorem utf8Size_toLower (c : Char) : c.toLower.utf8Size = c.utf8Size := by
  unfold Char.utf8Size
  simp only [UInt32.le_iff_toNat_le, Char.toNat_val, toNat_toLower]
  grind

/-! ## Subtags without their case -/

theorem lower_append (s t : List Char) : lower (s ++ t) = lower s ++ lower t :=
  List.map_append

theorem length_lower (s : List Char) : (lower s).length = s.length :=
  List.length_map _

theorem lower_lower (s : List Char) : lower (lower s) = lower s := by
  simp [lower]

theorem lower_upper (s : List Char) : lower (upper s) = lower s := by
  simp [lower, upper]

theorem upper_lower (s : List Char) : upper (lower s) = upper s := by
  simp [lower, upper]

theorem lower_capitalised (s : List Char) : lower (capitalised s) = lower s := by
  cases s with
  | nil => rfl
  | cons c rest => simp [capitalised, lower]

theorem capitalised_lower (s : List Char) : capitalised (lower s) = capitalised s := by
  cases s with
  | nil => rfl
  | cons c rest => simp [capitalised, lower]

theorem all_lower {test : Char → Bool} (blind : ∀ c, test c.toLower = test c) (s : List Char) :
    (lower s).all test = s.all test := by
  simp [lower, List.all_map, Function.comp_def, blind]

theorem size_lower (s : List Char) : size (lower s) = size s := by
  induction s with
  | nil => rfl
  | cons c rest ih =>
      change c.toLower.utf8Size + size (lower rest) = c.utf8Size + size rest
      rw [utf8Size_toLower, ih]

theorem isVariant_lower (s : List Char) : isVariant (lower s) = isVariant s := by
  cases s with
  | nil => rfl
  | cons c rest =>
      unfold isVariant
      rw [all_lower isAlphanumeric_toLower, length_lower]
      simp [lower, isLetter_toLower, isDigit_toLower]

theorem isRegion_lower (s : List Char) : isRegion (lower s) = isRegion s := by
  unfold isRegion
  rw [all_lower isLetter_toLower, all_lower isDigit_toLower, length_lower]

theorem checkSize_lower (s : List Char) : checkSize (lower s) = checkSize s := by
  unfold checkSize
  rw [size_lower]
  simp [lower]

theorem subtag_other_lower (place : Place) (s : List Char) :
    subtag.other place (lower s) = subtag.other place s := by
  unfold subtag.other
  rw [length_lower, all_lower isLetter_toLower, isRegion_lower, isVariant_lower,
    capitalised_lower, upper_lower, lower_lower]

theorem subtag_lower (place : Place) (s : List Char) :
    subtag place (lower s) = subtag place s := by
  unfold subtag
  rw [length_lower, all_lower isAlphanumeric_toLower, all_lower isLetter_toLower, lower_lower]
  cases place <;> simp only [subtag_other_lower]

theorem subtags_lower (place : Place) (pieces : List (List Char)) :
    subtags place (pieces.map lower) = subtags place pieces := by
  induction pieces generalizing place with
  | nil => rfl
  | cons s rest ih =>
      simp only [List.map_cons, subtags, checkSize_lower, subtag_lower, ih]

theorem language_lower (s : List Char) : language (lower s) = language s := by
  unfold language
  rw [checkSize_lower, length_lower, all_lower isLetter_toLower, lower_lower]

/-- Is the character allowed in a tag of private use? -/
def isPrivate (c : Char) : Bool :=
  isAlphanumeric c || c == '-'

theorem isPrivate_toLower (c : Char) : isPrivate c.toLower = isPrivate c := by
  unfold isPrivate
  rw [isAlphanumeric_toLower, toLower_eq_dash]

theorem privateUse_lower (s : List Char) : privateUse (lower s) = privateUse s := by
  change (if !(lower s).all isPrivate then _ else _) = if !s.all isPrivate then _ else _
  rw [all_lower isPrivate_toLower, length_lower, lower_lower]

theorem pieces_lower (s : List Char) :
    Text.pieces (· == '-') (lower s) = (Text.pieces (· == '-') s).map lower := by
  induction s with
  | nil => rfl
  | cons c rest ih =>
      change Text.pieces _ (c.toLower :: lower rest) = _
      rw [Text.pieces, Text.pieces, toLower_eq_dash, ih]
      split
      · rfl
      · cases Text.pieces (· == '-') rest <;> rfl

/-! ## Tags without their case -/

/-- The canonical form of a tag that is formed by the rules. -/
def formed (s : List Char) : Except Defect (List Char) :=
  match Text.pieces (· == '-') s with
  | [] => .error .emptySubtag
  | first :: rest => do
    let (form, place) ← language first
    let more ← subtags place rest
    return form ++ more

/-- Does the tag, in lowercase, start as a tag of private use does? -/
def startsPrivately : List Char → Bool
  | 'x' :: '-' :: _ => true
  | _ => false

theorem eq_of_toLower_eq_x {c : Char} (same : c.toLower = 'x') : c = 'x' ∨ c = 'X' := by
  have code := congrArg Char.toNat same
  rw [toNat_toLower] at code
  rw [← Char.toNat_inj, ← Char.toNat_inj]
  change _ = 120 ∨ _ = 88
  change _ = 120 at code
  grind

theorem startsPrivately_lower {s : List Char} (starts : startsPrivately (lower s) = true) :
    ∃ rest, s = 'x' :: '-' :: rest ∨ s = 'X' :: '-' :: rest := by
  match s with
  | [] => cases starts
  | [c] => unfold startsPrivately at starts; simp [lower] at starts
  | c :: d :: rest =>
      unfold startsPrivately at starts
      split at starts
      · next form shape =>
          obtain ⟨first, shape⟩ := List.cons.inj shape
          obtain ⟨second, _⟩ := List.cons.inj shape
          have dash : (d == '-') = true := by
            rw [← toLower_eq_dash, second]
            rfl
          refine ⟨rest, ?_⟩
          rw [eq_of_beq dash]
          rcases eq_of_toLower_eq_x first with rfl | rfl
          · exact .inl rfl
          · exact .inr rfl
      · cases starts

theorem canonical_eq (s : List Char) :
    canonical s =
      match grandfathered.find? fun tag => lower tag.toList == lower s with
      | some tag => .ok tag.toList
      | none => if startsPrivately (lower s) then privateUse s else formed s := by
  unfold canonical
  cases grandfathered.find? fun tag => lower tag.toList == lower s with
  | some tag => rfl
  | none =>
      dsimp only
      split
      · rfl
      · rfl
      · next small large =>
          rw [if_neg]
          · rfl
          · intro starts
            obtain ⟨rest, shape | shape⟩ := startsPrivately_lower starts
            · exact small rest shape
            · exact large rest shape

theorem formed_lower (s : List Char) : formed (lower s) = formed s := by
  unfold formed
  rw [pieces_lower]
  cases Text.pieces (· == '-') s with
  | nil => rfl
  | cons first rest => simp only [List.map_cons, language_lower, subtags_lower]

theorem canonical_lower (s : List Char) : canonical (lower s) = canonical s := by
  rw [canonical_eq, canonical_eq, lower_lower, privateUse_lower, formed_lower]

/-! ## The canonical form -/

theorem lower_subtag_other {place next : Place} {s form : List Char}
    (read : subtag.other place s = .ok (form, next)) : lower form = lower s := by
  unfold subtag.other at read
  split at read
  · cases read
    exact lower_capitalised s
  · split at read
    · cases read
      exact lower_upper s
    · split at read
      · cases read
        exact lower_lower s
      · cases read

theorem lower_subtag {place next : Place} {s form : List Char}
    (read : subtag place s = .ok (form, next)) : lower form = lower s := by
  unfold subtag at read
  grind [lower_lower, lower_subtag_other]

theorem alphanumeric_of_letters {s : List Char} (letters : s.all isLetter = true) :
    s.all isAlphanumeric = true := by
  rw [List.all_eq_true] at letters ⊢
  intro c member
  have letter : c.isAlpha = true := letters c member
  simp [isAlphanumeric, letter]

theorem alphanumeric_of_digits {s : List Char} (digits : s.all Char.isDigit = true) :
    s.all isAlphanumeric = true := by
  rw [List.all_eq_true] at digits ⊢
  intro c member
  simp [isAlphanumeric, digits c member]

theorem alphanumeric_of_region {s : List Char} (region : isRegion s = true) :
    s.all isAlphanumeric = true := by
  unfold isRegion at region
  rw [Bool.or_eq_true, Bool.and_eq_true, Bool.and_eq_true] at region
  rcases region with ⟨_, letters⟩ | ⟨_, digits⟩
  · exact alphanumeric_of_letters letters
  · exact alphanumeric_of_digits digits

theorem alphanumeric_of_variant {s : List Char} (variant : isVariant s = true) :
    s.all isAlphanumeric = true := by
  unfold isVariant at variant
  exact (Bool.and_eq_true_iff.mp variant).1

theorem alphanumeric_of_subtag_other {place next : Place} {s form : List Char}
    (read : subtag.other place s = .ok (form, next)) : s.all isAlphanumeric = true := by
  unfold subtag.other at read
  split at read
  · next script => exact alphanumeric_of_letters script.2.2
  · split at read
    · next region => exact alphanumeric_of_region region.2
    · split at read
      · next variant => exact alphanumeric_of_variant variant.2
      · cases read

theorem alphanumeric_of_subtag {place next : Place} {s form : List Char}
    (read : subtag place s = .ok (form, next)) : s.all isAlphanumeric = true := by
  unfold subtag at read
  grind [alphanumeric_of_letters, alphanumeric_of_subtag_other]

theorem isPrivate_of_lower {s form : List Char} (same : lower form = lower s)
    (alphanumeric : s.all isAlphanumeric = true) : form.all isPrivate = true := by
  rw [← all_lower isAlphanumeric_toLower, ← same, all_lower isAlphanumeric_toLower,
    List.all_eq_true] at alphanumeric
  rw [List.all_eq_true]
  intro c member
  simp [isPrivate, alphanumeric c member]

/-- The subtags stand behind a dash each, in a case of their own. -/
theorem subtags_spec {place : Place} {pieces : List (List Char)} {form : List Char}
    (read : subtags place pieces = .ok form) :
    lower form = lower (pieces.flatMap fun piece => '-' :: piece) ∧
      form.all isPrivate = true := by
  induction pieces generalizing place form with
  | nil =>
      obtain ⟨_, _, done⟩ := Outcome.bind_eq_ok.mp read
      cases done
      exact ⟨rfl, rfl⟩
  | cons piece pieces ih =>
      obtain ⟨_, _, read⟩ := Outcome.bind_eq_ok.mp read
      obtain ⟨⟨first, next⟩, here, read⟩ := Outcome.bind_eq_ok.mp read
      obtain ⟨more, behind, done⟩ := Outcome.bind_eq_ok.mp read
      cases done
      obtain ⟨same, allowed⟩ := ih behind
      have firstSame := lower_subtag here
      have firstAllowed := isPrivate_of_lower firstSame (alphanumeric_of_subtag here)
      constructor
      · rw [List.flatMap_cons, ← List.cons_append, lower_append, lower_append, same]
        change '-' :: lower first ++ _ = '-' :: lower piece ++ _
        rw [firstSame]
      · have dash : isPrivate '-' = true := rfl
        simp [dash, firstAllowed, allowed]

theorem language_spec {s form : List Char} {place : Place}
    (read : language s = .ok (form, place)) :
    lower form = lower s ∧ form.all isPrivate = true := by
  obtain ⟨_, _, read⟩ := Outcome.bind_eq_ok.mp read
  obtain ⟨meets, done⟩ := Outcome.refused_eq_ok.mp read
  cases done
  have letters : s.all isLetter = true := by
    cases all : s.all isLetter with
    | true => rfl
    | false => exact absurd (.inr (by rw [all]; rfl)) meets
  exact ⟨lower_lower s, isPrivate_of_lower (lower_lower s) (alphanumeric_of_letters letters)⟩

theorem formed_spec {s form : List Char} (read : formed s = .ok form) :
    lower form = lower s ∧ form.all isPrivate = true := by
  unfold formed at read
  cases cut : Text.pieces (· == '-') s with
  | nil => exact absurd cut (Text.pieces_ne_nil _ s)
  | cons first rest =>
      rw [cut] at read
      obtain ⟨⟨head, place⟩, here, read⟩ := Outcome.bind_eq_ok.mp read
      obtain ⟨more, behind, done⟩ := Outcome.bind_eq_ok.mp read
      cases done
      obtain ⟨headSame, headAllowed⟩ := language_spec here
      obtain ⟨same, allowed⟩ := subtags_spec behind
      constructor
      · rw [lower_append, headSame, same, ← lower_append, Text.joined_pieces cut]
      · rw [List.all_append, headAllowed, allowed]
        rfl

theorem privateUse_spec {s form : List Char} (read : privateUse s = .ok form) :
    lower form = lower s ∧ form.all isPrivate = true := by
  change (if !s.all isPrivate then _ else _) = _ at read
  split at read
  · cases read
  · next allowed =>
      split at read
      · cases read
      · cases read
        refine ⟨lower_lower s, ?_⟩
        rw [all_lower isPrivate_toLower]
        simpa using allowed

/-- A canonical form is the text in a case of its own, of letters, digits and dashes. -/
theorem canonical_spec {s form : List Char} (read : canonical s = .ok form) :
    lower form = lower s ∧ form.all isPrivate = true := by
  rw [canonical_eq] at read
  cases found : grandfathered.find? fun tag => lower tag.toList == lower s with
  | some tag =>
      rw [found] at read
      cases read
      have registered : tag ∈ grandfathered := List.mem_of_find?_eq_some found
      have allowed : ∀ tag ∈ grandfathered, tag.toList.all isPrivate = true := by decide
      have same : (lower tag.toList == lower s) = true :=
        List.find?_some (p := fun tag : String => lower tag.toList == lower s) found
      exact ⟨eq_of_beq same, allowed tag registered⟩
  | none =>
      rw [found] at read
      dsimp only at read
      split at read
      · exact privateUse_spec read
      · exact formed_spec read

theorem canonical_canonical {s form : List Char} (read : canonical s = .ok form) :
    canonical form = .ok form := by
  rw [← canonical_lower, (canonical_spec read).1, canonical_lower]
  exact read

/-- A tag that its own text writes. -/
def Canonical (tag : LanguageTag) : Prop :=
  parse tag.text = .ok tag

/-- Every tag that a text writes is written by its own text. -/
theorem canonical_of_parse {s : String} {tag : LanguageTag} (read : parse s = .ok tag) :
    tag.Canonical := by
  obtain ⟨form, formRead, rfl⟩ := Outcome.map_eq_ok.mp read
  unfold Canonical parse
  rw [String.toList_ofList, canonical_canonical formRead]
  rfl

namespace Canonical

theorem isPrivate {tag : LanguageTag} (canonical : tag.Canonical) :
    ∀ c ∈ tag.text.toList, LanguageTag.isPrivate c = true := by
  obtain ⟨form, formRead, same⟩ := Outcome.map_eq_ok.mp canonical
  rw [← same, String.toList_ofList]
  exact List.all_eq_true.mp (canonical_spec formRead).2

theorem no_numberSign {tag : LanguageTag} (canonical : tag.Canonical) :
    '#' ∉ tag.text.toList := by
  intro member
  cases canonical.isPrivate '#' member

end Canonical

theorem no_numberSign_of_parse {s : String} {tag : LanguageTag} (read : parse s = .ok tag) :
    '#' ∉ s.toList := by
  obtain ⟨form, formRead, _⟩ := Outcome.map_eq_ok.mp read
  obtain ⟨same, allowed⟩ := canonical_spec formRead
  have characters : s.toList.all LanguageTag.isPrivate = true := by
    rw [← all_lower isPrivate_toLower, ← same, all_lower isPrivate_toLower, allowed]
  intro member
  cases List.all_eq_true.mp characters '#' member

end LanguageTag

end OpenIdConnect
