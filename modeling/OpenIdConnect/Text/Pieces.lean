/-!
# Pieces between separators

A list cut at the elements that a test picks out.  There is always one piece more than
there are separators, so nothing but the separators is lost.
-/

namespace OpenIdConnect.Text

variable {α : Type}

/-- Put an element in front of the first piece. -/
def prependToFirst (a : α) : List (List α) → List (List α)
  | [] => [[a]]
  | piece :: pieces => (a :: piece) :: pieces

/-- The pieces between the separators, empty ones included. -/
def pieces (isSeparator : α → Bool) : List α → List (List α)
  | [] => [[]]
  | a :: rest =>
    if isSeparator a then [] :: pieces isSeparator rest
    else prependToFirst a (pieces isSeparator rest)

/-- The part before the first separator, and the part behind it if there is one. -/
def cutAtFirst (isSeparator : α → Bool) : List α → List α × Option (List α)
  | [] => ([], none)
  | a :: rest =>
    if isSeparator a then ([], some rest)
    else
      let (before, behind) := cutAtFirst isSeparator rest
      (a :: before, behind)

/-- The parts before and behind the last separator, if there is one. -/
def cutAtLast? (isSeparator : α → Bool) : List α → Option (List α × List α)
  | [] => none
  | a :: rest =>
    match cutAtLast? isSeparator rest with
    | some (before, behind) => some (a :: before, behind)
    | none => if isSeparator a then some ([], rest) else none

theorem pieces_ne_nil (isSeparator : α → Bool) (l : List α) : pieces isSeparator l ≠ [] := by
  cases l with
  | nil => simp [pieces]
  | cons a rest =>
    rw [pieces]
    split
    · simp
    · cases pieces isSeparator rest <;> simp [prependToFirst]

/-- A piece without separators in front of a separator is the first piece. -/
theorem pieces_append_cons {isSeparator : α → Bool} {piece : List α} {a : α}
    (plain : ∀ b ∈ piece, isSeparator b = false) (separator : isSeparator a = true)
    (rest : List α) :
    pieces isSeparator (piece ++ a :: rest) = piece :: pieces isSeparator rest := by
  induction piece with
  | nil => simp [pieces, separator]
  | cons b piece ih =>
    have hb := plain b List.mem_cons_self
    have hrest := ih fun c hc => plain c (List.mem_cons_of_mem _ hc)
    simp [pieces, hb, hrest, prependToFirst]

end OpenIdConnect.Text
