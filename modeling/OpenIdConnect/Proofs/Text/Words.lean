import OpenIdConnect.Proofs.Text.Pieces
import OpenIdConnect.Text.Blank

/-!
# Words and the spaces between them

A word is not empty and holds no blank.  Words with one space between each two are found again.
-/

namespace OpenIdConnect.Text

/-- A text that stands between blanks. -/
structure IsWord (s : String) : Prop where
  nonempty : s ≠ ""
  unbroken : ∀ c ∈ s.toList, isBlank c = false

theorem isWord_of_mem_words {s word : String} (member : word ∈ words s) : IsWord word := by
  obtain ⟨piece, kept, rfl⟩ := List.mem_map.mp member
  obtain ⟨among, filled⟩ := List.mem_filter.mp kept
  constructor
  · intro empty
    rw [← String.toList_inj, String.toList_ofList] at empty
    rw [empty] at filled
    cases filled
  · intro c inside
    rw [String.toList_ofList] at inside
    exact pieces_plain among c inside

theorem joined_ne_empty {separator word : String} {rest : List String} (filled : word ≠ "") :
    joined separator (word :: rest) ≠ "" := by
  cases rest with
  | nil => exact filled
  | cons next rest =>
      intro empty
      have characters := congrArg String.toList empty
      simp [joined, filled] at characters

theorem words_joined {list : List String} (areWords : ∀ word ∈ list, IsWord word) :
    words (joined " " list) = list := by
  have filled : ∀ word, IsWord word → (!word.toList.isEmpty) = true := by
    intro word isWord
    have nonempty := isWord.nonempty
    simp [nonempty]
  induction list with
  | nil => rfl
  | cons word rest ih =>
      obtain ⟨here, others⟩ := List.forall_mem_cons.mp areWords
      cases rest with
      | nil =>
          unfold words joined
          rw [pieces_eq_singleton here.unbroken, List.filter_cons, if_pos (filled word here)]
          simp
      | cons next rest =>
          have behind := ih others
          have characters : (joined " " (word :: next :: rest)).toList =
              word.toList ++ ' ' :: (joined " " (next :: rest)).toList := by
            simp [joined]
          unfold words at behind ⊢
          rw [characters, pieces_append_cons here.unbroken rfl, List.filter_cons,
            if_pos (filled word here), List.map_cons, behind, String.ofList_toList]

/-- Only words are found again. -/
theorem words_joined_iff {list : List String} :
    words (joined " " list) = list ↔ ∀ word ∈ list, IsWord word := by
  constructor
  · intro again word member
    rw [← again] at member
    exact isWord_of_mem_words member
  · exact words_joined

end OpenIdConnect.Text
