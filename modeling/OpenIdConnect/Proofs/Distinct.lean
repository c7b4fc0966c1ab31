import Mathlib.Data.List.Induction
import OpenIdConnect.Distinct

/-!
# Elements in the order of their first occurrences

A list whose elements were added in turn holds each of them once, where it came first.
-/

namespace OpenIdConnect

namespace Distinct

variable {α : Type} [DecidableEq α]

theorem addAll_of_nodup {l more : List α} (distinct : (l ++ more).Nodup) :
    addAll l more = l ++ more := by
  induction more generalizing l with
  | nil => simp [addAll]
  | cons a more ih =>
      have new : a ∉ l := by
        intro member
        exact (List.nodup_append.mp distinct).2.2 a member a (by simp) rfl
      have added : add l a = l ++ [a] := if_neg new
      change addAll (add l a) more = _
      rw [added, ih, List.append_assoc]
      · rfl
      · rw [List.append_assoc]
        exact distinct

theorem ofList_of_nodup {l : List α} (distinct : l.Nodup) : ofList l = l :=
  addAll_of_nodup distinct

theorem addAll_ofList (l more : List α) : addAll (ofList l) more = ofList (l ++ more) := by
  unfold ofList addAll
  rw [List.foldl_append]

/-- Of equal elements the first one is kept. -/
theorem ofList_eq_eraseDups (l : List α) : ofList l = l.eraseDups := by
  induction l using List.reverseRecOn with
  | nil => rfl
  | append_singleton l a ih =>
      rw [← addAll_ofList, List.eraseDups_append, ← ih]
      change add (ofList l) a = _
      unfold add
      by_cases member : a ∈ l
      · rw [if_pos (mem_ofList.mpr member)]
        simp [List.removeAll, member]
      · rw [if_neg (mt mem_ofList.mp member)]
        simp [List.removeAll, member, List.eraseDups_cons]

end Distinct

end OpenIdConnect
