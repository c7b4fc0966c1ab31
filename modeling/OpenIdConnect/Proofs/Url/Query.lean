import Mathlib.Data.List.DropRight
import OpenIdConnect.Proofs.Text.Form
import OpenIdConnect.Url.Basic

/-!
# Queries of URLs

A form-encoded text is set as the query or the fragment of a URL as it is, and a URL that had
neither a query nor a fragment is restored when it is dropped again.  A form-encoded text behind a
query adds its pairs to those of the query.
-/

namespace OpenIdConnect

namespace Url

/-! ## Dropping -/

theorem query_trimmed (u : Url) : u.trimmed.query = u.query := by
  unfold trimmed
  split
  · next bare => exact bare.2.1.symm
  · rfl

theorem fragment_trimmed (u : Url) : u.trimmed.fragment = u.fragment := by
  unfold trimmed
  split
  · next bare => exact bare.2.2.symm
  · rfl

theorem trimmed_trimmed (u : Url) : u.trimmed.trimmed = u.trimmed := by
  by_cases bare : u.isFlat ∧ u.query = none ∧ u.fragment = none
  · have shape : u.trimmed =
        ⟨String.ofList (u.hierarchy.toList.reverse.dropWhile (· == ' ')).reverse, none, none⟩ :=
      if_pos bare
    rw [shape]
    unfold trimmed
    split
    · dsimp only
      rw [String.toList_ofList, List.reverse_reverse, List.dropWhile_idempotent]
    · rfl
  · have same : u.trimmed = u := if_neg bare
    rw [same, same]

/-- What remains of a URL when its query and its fragment are dropped. -/
def base (u : Url) : Url :=
  u.dropQuery.dropFragment

theorem query_base (u : Url) : u.base.query = none := by
  unfold base dropFragment dropQuery
  rw [query_trimmed]
  exact query_trimmed _

theorem fragment_base (u : Url) : u.base.fragment = none :=
  fragment_trimmed _

theorem trimmed_base (u : Url) : u.base.trimmed = u.base :=
  trimmed_trimmed _

/-- A base is its own, also behind a query. -/
theorem base_setQuery (u : Url) (query : String) : (u.base.setQuery query).base = u.base := by
  have bare : ({ u.base.setQuery query with query := none } : Url) = u.base := by
    have query := query_base u
    generalize u.base = e at query
    obtain ⟨hierarchy, _, fragment⟩ := e
    cases query
    rfl
  have whole : ({ u.base with fragment := none } : Url) = u.base := by
    have fragment := fragment_base u
    generalize u.base = e at fragment
    obtain ⟨hierarchy, query, _⟩ := e
    cases fragment
    rfl
  change (dropQuery (u.base.setQuery query)).dropFragment = u.base
  unfold dropQuery
  rw [bare, trimmed_base]
  unfold dropFragment
  rw [whole, trimmed_base]

/-! ## Setting -/

theorem plain_of_isWritten {c : Char} (written : Text.Form.isWritten c = true) :
    isDropped c = false ∧ inFragment c = false ∧ ∀ special, inQuery special c = false :=
  Text.Form.forall_written
    (P := fun c =>
      isDropped c = false ∧ inFragment c = false ∧ ∀ special, inQuery special c = false)
    (by decide +kernel) (by decide) (by decide) written

theorem encode_plain {picked : Char → Bool} {s : List Char}
    (plain : ∀ c ∈ s, picked c = false) : encode picked s = s := by
  unfold encode
  induction s with
  | nil => rfl
  | cons c s ih =>
      obtain ⟨here, others⟩ := List.forall_mem_cons.mp plain
      rw [List.flatMap_cons, here, ih others]
      rfl

/-- A form-encoded text is kept as it is where none of its characters are encoded once more. -/
theorem encode_kept_write {picked : Char → Bool}
    (plain : ∀ c, Text.Form.isWritten c = true → picked c = false)
    (pairs : List (String × String)) :
    String.ofList (encode picked (kept (Text.Form.write pairs).toList)) =
      Text.Form.write pairs := by
  have written := Text.Form.isWritten_write pairs
  have whole : kept (Text.Form.write pairs).toList = (Text.Form.write pairs).toList := by
    refine List.filter_eq_self.mpr fun c member => ?_
    rw [(plain_of_isWritten (written c member)).1]
    rfl
  rw [whole, encode_plain fun c member => plain c (written c member), String.ofList_toList]

theorem query_setQuery_write (u : Url) (pairs : List (String × String)) :
    (u.setQuery (Text.Form.write pairs)).query = some (Text.Form.write pairs) :=
  congrArg some (encode_kept_write (fun _ written => (plain_of_isWritten written).2.2 _) pairs)

theorem fragment_setFragment_write (u : Url) (pairs : List (String × String)) :
    (u.setFragment (Text.Form.write pairs)).fragment = some (Text.Form.write pairs) :=
  congrArg some (encode_kept_write (fun _ written => (plain_of_isWritten written).2.1) pairs)

/-! ## Pairs -/

/-- The pairs that the query of a URL stands for as a form. -/
def queryPairs (u : Url) : List (String × String) :=
  Text.Form.read (u.query.getD "")

/-- The pairs that the fragment of a URL stands for as a form. -/
def fragmentPairs (u : Url) : List (String × String) :=
  Text.Form.read (u.fragment.getD "")

/-- A form put behind a query adds its pairs to those that are there. -/
theorem queryPairs_appendQuery (u : Url) (form : String) :
    (u.appendQuery form).queryPairs = u.queryPairs ++ Text.Form.read form := by
  obtain ⟨hierarchy, query, fragment⟩ := u
  cases query with
  | none => rfl
  | some q =>
      unfold appendQuery queryPairs
      dsimp only
      split
      · next bare =>
          rcases bare with nothing | nothing
          · rw [String.isEmpty_iff.mp nothing, String.empty_append]
            rfl
          · rw [String.isEmpty_iff.mp nothing, String.append_empty]
            exact (List.append_nil _).symm
      · exact Text.Form.read_append q form

theorem hierarchy_appendQuery (u : Url) (form : String) :
    (u.appendQuery form).hierarchy = u.hierarchy := by
  rw [appendQuery]
  split
  · split <;> rfl
  · rfl

theorem fragment_appendQuery (u : Url) (form : String) :
    (u.appendQuery form).fragment = u.fragment := by
  rw [appendQuery]
  split
  · split <;> rfl
  · rfl

theorem fragmentPairs_setFragment_write (u : Url) (pairs : List (String × String)) :
    (u.setFragment (Text.Form.write pairs)).fragmentPairs = pairs := by
  rw [fragmentPairs, fragment_setFragment_write]
  exact Text.Form.read_write pairs

end Url

end OpenIdConnect
