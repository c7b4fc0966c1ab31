/-!
# Lists without repetition

Lists that an element joins only when it is new, so that the order of first occurrences is
kept.
-/

namespace OpenIdConnect

namespace Distinct

variable {α : Type} [DecidableEq α]

/-- The list with an element behind it, unless it is there already. -/
def add (l : List α) (a : α) : List α :=
  if a ∈ l then l else l ++ [a]

/-- The list with several elements added in turn. -/
def addAll (l : List α) (more : List α) : List α :=
  more.foldl add l

/-- The elements of a list in the order of their first occurrences. -/
def ofList (l : List α) : List α :=
  addAll [] l

theorem nodup_add {l : List α} (h : l.Nodup) (a : α) : (add l a).Nodup := by
  rw [add]
  split
  · exact h
  · next hnew =>
    refine List.nodup_append.2 ⟨h, List.pairwise_singleton _ a, ?_⟩
    intro b hb c hc hbc
    exact hnew (List.mem_singleton.1 hc ▸ hbc ▸ hb)

theorem nodup_addAll {l : List α} (h : l.Nodup) (more : List α) : (addAll l more).Nodup := by
  induction more generalizing l with
  | nil => exact h
  | cons a more ih => exact ih (nodup_add h a)

theorem nodup_ofList (l : List α) : (ofList l).Nodup :=
  nodup_addAll .nil l

theorem mem_add {l : List α} {a b : α} : b ∈ add l a ↔ b ∈ l ∨ b = a := by
  rw [add]
  split
  · next h => exact ⟨.inl, fun hb => hb.elim id fun hba => hba ▸ h⟩
  · simp

theorem mem_addAll {l more : List α} {b : α} : b ∈ addAll l more ↔ b ∈ l ∨ b ∈ more := by
  induction more generalizing l with
  | nil => simp [addAll]
  | cons a more ih =>
    rw [addAll, List.foldl_cons]
    exact ih.trans (by rw [mem_add, List.mem_cons, or_assoc])

theorem mem_ofList {l : List α} {b : α} : b ∈ ofList l ↔ b ∈ l := by
  simp [ofList, mem_addAll]

end Distinct

end OpenIdConnect
