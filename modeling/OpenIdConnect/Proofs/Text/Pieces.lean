import OpenIdConnect.Text.Pieces

/-!
# Cutting and joining

Pieces joined by the separator they were cut at are the list again, and a list is cut at its
first or last separator exactly where the part that is given up holds none.
-/

namespace OpenIdConnect.Text

variable {α : Type}

theorem pieces_eq_singleton {isSeparator : α → Bool} {piece : List α}
    (plain : ∀ b ∈ piece, isSeparator b = false) : pieces isSeparator piece = [piece] := by
  induction piece with
  | nil => rfl
  | cons a rest ih =>
      have inner := ih fun b member => plain b (List.mem_cons_of_mem _ member)
      rw [pieces, plain a List.mem_cons_self, inner]
      rfl

theorem prependToFirst_append {first : List (List α)} (some : first ≠ []) (a : α)
    (rest : List (List α)) : prependToFirst a (first ++ rest) = prependToFirst a first ++ rest := by
  cases first with
  | nil => exact absurd rfl some
  | cons piece pieces => rfl

/-- What stands on the two sides of a separator is cut apart by itself. -/
theorem pieces_append_separator {isSeparator : α → Bool} {a : α} (separator : isSeparator a = true)
    (l behind : List α) :
    pieces isSeparator (l ++ a :: behind) = pieces isSeparator l ++ pieces isSeparator behind := by
  induction l with
  | nil => simp [pieces, separator]
  | cons b l ih =>
      rw [List.cons_append, pieces, pieces, ih]
      split
      · rfl
      · exact prependToFirst_append (pieces_ne_nil _ l) b _

/-- A separator between the first piece and each piece behind it makes the list again. -/
theorem joined_pieces [BEq α] [LawfulBEq α] {a : α} {l first : List α} {rest : List (List α)}
    (cut : pieces (· == a) l = first :: rest) :
    first ++ rest.flatMap (fun piece => a :: piece) = l := by
  induction l generalizing first rest with
  | nil =>
      cases cut
      rfl
  | cons b l ih =>
      rw [pieces] at cut
      split at cut
      · next separator =>
          cases inner : pieces (· == a) l with
          | nil => exact absurd inner (pieces_ne_nil _ l)
          | cons piece pieces =>
              rw [inner] at cut
              cases cut
              rw [List.flatMap_cons, List.nil_append, List.cons_append, ih inner,
                eq_of_beq separator]
      · cases inner : pieces (· == a) l with
        | nil => exact absurd inner (pieces_ne_nil _ l)
        | cons piece pieces =>
            rw [inner] at cut
            cases cut
            rw [List.cons_append, ih inner]

theorem pieces_plain {isSeparator : α → Bool} {l piece : List α}
    (member : piece ∈ pieces isSeparator l) : ∀ b ∈ piece, isSeparator b = false := by
  induction l generalizing piece with
  | nil =>
      cases List.mem_singleton.mp member
      intro b inside
      cases inside
  | cons a l ih =>
      rw [pieces] at member
      split at member
      · rcases List.mem_cons.mp member with rfl | behind
        · intro b inside
          cases inside
        · exact ih behind
      · next plain =>
          cases inner : pieces isSeparator l with
          | nil => exact absurd inner (pieces_ne_nil _ l)
          | cons first rest =>
              rw [inner] at member ih
              rcases List.mem_cons.mp member with rfl | behind
              · intro b inside
                rcases List.mem_cons.mp inside with rfl | inside
                · simpa using plain
                · exact ih List.mem_cons_self b inside
              · exact ih (List.mem_cons_of_mem _ behind)

theorem cutAtLast?_eq_none_iff {isSeparator : α → Bool} {l : List α} :
    cutAtLast? isSeparator l = none ↔ ∀ b ∈ l, isSeparator b = false := by
  induction l with
  | nil => simp [cutAtLast?]
  | cons a l ih =>
      rw [cutAtLast?, List.forall_mem_cons, ← ih]
      cases cutAtLast? isSeparator l with
      | none => cases isSeparator a <;> simp
      | some parts => simp

/-- The cut is at the last separator: it stands between the parts, and none behind it. -/
theorem cutAtLast?_eq_some_iff {isSeparator : α → Bool} {l front behind : List α} :
    cutAtLast? isSeparator l = some (front, behind) ↔
      ∃ a, isSeparator a = true ∧ l = front ++ a :: behind ∧
        ∀ b ∈ behind, isSeparator b = false := by
  induction l generalizing front with
  | nil => simp [cutAtLast?]
  | cons c l ih =>
      rw [cutAtLast?]
      cases inner : cutAtLast? isSeparator l with
      | some parts =>
          obtain ⟨start, tail⟩ := parts
          constructor
          · intro cut
            cases cut
            obtain ⟨a, separator, rfl, plain⟩ := ih.mp inner
            exact ⟨a, separator, rfl, plain⟩
          · rintro ⟨a, separator, shape, plain⟩
            cases front with
            | nil =>
                cases shape
                rw [cutAtLast?_eq_none_iff.mpr plain] at inner
                cases inner
            | cons d front =>
                cases shape
                have cut := ih.mpr ⟨a, separator, rfl, plain⟩
                rw [inner] at cut
                cases cut
                rfl
      | none =>
          have plain := cutAtLast?_eq_none_iff.mp inner
          constructor
          · intro cut
            cases separator : isSeparator c with
            | false => simp [separator] at cut
            | true =>
                simp only [separator, if_true] at cut
                cases cut
                exact ⟨c, separator, rfl, plain⟩
          · rintro ⟨a, separator, shape, _⟩
            cases front with
            | nil =>
                cases shape
                simp [separator]
            | cons d front =>
                cases shape
                have absent := plain a (by simp)
                rw [separator] at absent
                cases absent

end OpenIdConnect.Text
