import Mathlib.Data.List.Count
import OpenIdConnect.Parameter.Basic
import OpenIdConnect.Proofs.Json.Members
import OpenIdConnect.Proofs.Text.Form

/-!
# Repeated parameters

A query string is refused exactly when a parameter occurs in it more than once with a value, and the
fault names such a parameter.  Otherwise the object holds each name that occurs with a value, and its
value.  So neither the order of the parts matters nor any part without a value.
-/

namespace OpenIdConnect

namespace Object

/-- How often a name occurs with a value. -/
def occurrences (name : String) (pairs : List (String × String)) : Nat :=
  pairs.countP fun pair => pair.1 == name && !pair.2.isEmpty

/-- How often a name counts as met before any pair is read. -/
def met (o : Object) (name : String) : Nat :=
  if o.contains name then 1 else 0

theorem met_insert (o : Object) (name : String) (value : Json) (k : String) :
    (o.insert name value).met k = if k = name then 1 else o.met k := by
  unfold met contains
  rw [get?_insert]
  by_cases same : k = name
  · rw [if_pos same, if_pos same]
    rfl
  · rw [if_neg same, if_neg same]

theorem occurrences_without_value {value : String} (empty : value.isEmpty = true) (k name : String)
    (rest : List (String × String)) :
    occurrences k ((name, value) :: rest) = occurrences k rest := by
  unfold occurrences
  rw [List.countP_cons_of_neg]
  simp [empty]

theorem occurrences_with_value {value : String} (filled : value.isEmpty = false) (k name : String)
    (rest : List (String × String)) :
    occurrences k ((name, value) :: rest) = occurrences k rest + if k = name then 1 else 0 := by
  unfold occurrences
  rw [List.countP_cons, filled, Bool.not_false, Bool.and_true]
  exact congrArg _ (if_congr (beq_iff_eq.trans eq_comm) rfl rfl)

theorem occurrences_le_count (name : String) (pairs : List (String × String)) :
    occurrences name pairs ≤ (pairs.map Prod.fst).count name := by
  rw [List.count, List.countP_map]
  refine List.countP_mono_left ?_
  intro pair _ both
  exact (Bool.and_eq_true_iff.mp both).1

/-- Reading a pair moves its name from those that are to come to those that were met. -/
theorem met_insert_add_occurrences {o : Object} {name value : String}
    (absent : ¬o.contains name = true) (filled : value.isEmpty = false) (k : String)
    (rest : List (String × String)) :
    (o.insert name (.string value)).met k + occurrences k rest =
      o.met k + occurrences k ((name, value) :: rest) := by
  rw [met_insert, occurrences_with_value filled]
  by_cases same : k = name
  · rw [if_pos same, if_pos same, same, met, if_neg absent]
    omega
  · rw [if_neg same, if_neg same, Nat.add_zero]

/-- What reading pairs into an object shows of the names that occur in them with a value. -/
def Shows (o : Object) (pairs : List (String × String)) : Except Fault Object → Prop
  | .ok _ => ∀ k, o.met k + occurrences k pairs ≤ 1
  | .error fault => ∃ name, fault = .repeated name ∧ 1 < o.met name + occurrences name pairs

/-- The pairs are read as long as no name is met twice. -/
theorem shows_insertPairs (o : Object) (pairs : List (String × String)) :
    Shows o pairs (o.insertPairs pairs) := by
  induction pairs generalizing o with
  | nil =>
      intro k
      unfold met
      split
      · exact Nat.le_refl 1
      · exact Nat.zero_le 1
  | cons pair rest ih =>
      obtain ⟨name, value⟩ := pair
      unfold insertPairs
      split
      · next empty =>
          have later := ih o
          unfold Shows at later ⊢
          simp only [occurrences_without_value empty]
          exact later
      · next filled =>
          have filled : value.isEmpty = false := Bool.eq_false_iff.mpr filled
          split
          · next here =>
              refine ⟨name, rfl, ?_⟩
              rw [met, if_pos here, occurrences_with_value filled, if_pos rfl]
              omega
          · next absent =>
              have later := ih (o.insert name (.string value))
              unfold Shows at later ⊢
              simpa only [met_insert_add_occurrences absent filled] using later

/-- A name occurs with this value, which is not empty. -/
def Gives (pairs : List (String × String)) (k : String) (value : Json) : Prop :=
  ∃ s, s ≠ "" ∧ (k, s) ∈ pairs ∧ value = .string s

theorem gives_cons {name text : String} {rest : List (String × String)} {k : String}
    {value : Json} :
    Gives ((name, text) :: rest) k value ↔
      text ≠ "" ∧ k = name ∧ value = .string text ∨ Gives rest k value := by
  constructor
  · rintro ⟨s, filled, member, given⟩
    rcases List.mem_cons.mp member with same | later
    · cases same
      exact .inl ⟨filled, rfl, given⟩
    · exact .inr ⟨s, filled, later, given⟩
  · rintro (⟨filled, rfl, given⟩ | ⟨s, filled, later, given⟩)
    · exact ⟨text, filled, List.mem_cons_self, given⟩
    · exact ⟨s, filled, List.mem_cons_of_mem _ later, given⟩

/-- The object that was read holds what was there and what the pairs give. -/
theorem get?_of_insertPairs {o o' : Object} {pairs : List (String × String)}
    (read : o.insertPairs pairs = .ok o') (k : String) (value : Json) :
    o'.get? k = some value ↔ o.get? k = some value ∨ Gives pairs k value := by
  induction pairs generalizing o with
  | nil =>
      cases read
      exact (or_iff_left fun ⟨s, _, impossible, _⟩ => List.not_mem_nil impossible).symm
  | cons pair rest ih =>
      obtain ⟨name, text⟩ := pair
      rw [gives_cons]
      unfold insertPairs at read
      split at read
      · next empty =>
          have lost : ¬(text ≠ "" ∧ k = name ∧ value = .string text) :=
            fun given => given.1 (String.isEmpty_iff.mp empty)
          rw [ih read, or_iff_right lost]
      · next filled =>
          have filled : text ≠ "" := fun empty => filled (String.isEmpty_iff.mpr empty)
          split at read
          · cases read
          · next absent =>
              rw [ih read, get?_insert]
              by_cases same : k = name
              · have new : o.get? k = none := by
                  rw [same]
                  exact Option.not_isSome_iff_eq_none.mp absent
                rw [if_pos same, new]
                simp [filled, same, eq_comm]
              · rw [if_neg same]
                simp [same]

/-! ## Query strings -/

/-- What is read from a query string is what its pairs give. -/
theorem get?_of_ofQuery {query : String} {o : Object} (read : ofQuery query = .ok o) (k : String)
    (value : Json) : o.get? k = some value ↔ Gives (Text.Form.read query) k value := by
  rw [get?_of_insertPairs read, get?_empty, or_iff_right nofun]

theorem met_empty (k : String) : empty.met k = 0 :=
  rfl

theorem shows_ofQuery (query : String) : Shows empty (Text.Form.read query) (ofQuery query) :=
  shows_insertPairs empty (Text.Form.read query)

/-- A query string that is refused has a parameter that the fault names and that is repeated. -/
theorem repeated_of_ofQuery {query : String} {fault : Fault}
    (refused : ofQuery query = .error fault) :
    ∃ name, fault = .repeated name ∧ 1 < occurrences name (Text.Form.read query) := by
  have shown := shows_ofQuery query
  rw [refused] at shown
  obtain ⟨name, told, twice⟩ := shown
  rw [met_empty, Nat.zero_add] at twice
  exact ⟨name, told, twice⟩

/-- A query string is read when no name occurs twice with a value. -/
theorem exists_ofQuery_iff {query : String} :
    (∃ o, ofQuery query = .ok o) ↔ ∀ k, occurrences k (Text.Form.read query) ≤ 1 := by
  cases result : ofQuery query with
  | ok o =>
      have shown := shows_ofQuery query
      rw [result] at shown
      refine iff_of_true ⟨o, rfl⟩ fun k => ?_
      have once := shown k
      rwa [met_empty, Nat.zero_add] at once
  | error fault =>
      obtain ⟨name, _, twice⟩ := repeated_of_ofQuery result
      exact iff_of_false nofun fun once => absurd (once name) (Nat.not_le.mpr twice)

/-- Two query strings are both read as one object, or both refused. -/
def Agree (query other : String) : Prop :=
  (∃ o, ofQuery query = .ok o ∧ ofQuery other = .ok o) ∨
    (∃ fault, ofQuery query = .error fault) ∧ ∃ fault, ofQuery other = .error fault

/-- The order of the pairs does not matter. -/
theorem agree_of_perm {query other : String}
    (perm : (Text.Form.read query).Perm (Text.Form.read other)) : Agree query other := by
  have once : (∃ o, ofQuery query = .ok o) ↔ ∃ o, ofQuery other = .ok o := by
    rw [exists_ofQuery_iff, exists_ofQuery_iff]
    exact forall_congr' fun k => by rw [occurrences, perm.countP_eq]; rfl
  cases result : ofQuery query with
  | ok o =>
      obtain ⟨o', result'⟩ := once.mp ⟨o, result⟩
      have same : o = o' := by
        refine ext_get? fun k => Option.ext fun value => ?_
        rw [get?_of_ofQuery result, get?_of_ofQuery result']
        exact exists_congr fun s => and_congr_right fun _ => and_congr_left fun _ => perm.mem_iff
      exact .inl ⟨o, result, same ▸ result'⟩
  | error fault =>
      cases result' : ofQuery other with
      | ok o' =>
          obtain ⟨o, impossible⟩ := once.mpr ⟨o', result'⟩
          cases impossible.symm.trans result
      | error fault' => exact .inr ⟨⟨fault, result⟩, fault', result'⟩

/-- Pairs without a value are passed over. -/
theorem insertPairs_filter (o : Object) (pairs : List (String × String)) :
    o.insertPairs (pairs.filter fun pair => !pair.2.isEmpty) = o.insertPairs pairs := by
  induction pairs generalizing o with
  | nil => rfl
  | cons pair rest ih =>
      obtain ⟨name, value⟩ := pair
      cases empty : value.isEmpty with
      | true =>
          rw [List.filter_cons_of_neg (by simp [empty]), ih, insertPairs, if_pos empty]
      | false =>
          rw [List.filter_cons_of_pos (by simp [empty])]
          unfold insertPairs
          rw [if_neg (Bool.eq_false_iff.mp empty), if_neg (Bool.eq_false_iff.mp empty), ih]

/-- Only the parts with a value matter. -/
theorem ofQuery_eq_of_filter {query other : String}
    (same : (Text.Form.parts query).filter Text.Form.hasValue =
      (Text.Form.parts other).filter Text.Form.hasValue) : ofQuery query = ofQuery other := by
  unfold ofQuery
  rw [← insertPairs_filter, Text.Form.filter_read, same, ← Text.Form.filter_read,
    insertPairs_filter]

/--
A query string is read unless a name occurs in it more than once with a value; the fault names such
a parameter, and otherwise the object holds just what the pairs give.  Whatever the order of the
parts, the object is the same, or all are refused, and parts without a value make no difference at
all.
-/
theorem ofQuery_refuses_repetition (query : String) :
    ((∃ o, ofQuery query = .ok o) ↔ ∀ k, occurrences k (Text.Form.read query) ≤ 1) ∧
    (∀ fault, ofQuery query = .error fault →
      ∃ name, fault = .repeated name ∧ 1 < occurrences name (Text.Form.read query)) ∧
    (∀ o, ofQuery query = .ok o → ∀ k value, o.get? k = some value ↔
      ∃ s, s ≠ "" ∧ (k, s) ∈ Text.Form.read query ∧ value = .string s) ∧
    (∀ other, (Text.Form.parts query).Perm (Text.Form.parts other) → Agree query other) ∧
    ∀ other, (Text.Form.parts query).filter Text.Form.hasValue =
      (Text.Form.parts other).filter Text.Form.hasValue → ofQuery query = ofQuery other := by
  refine ⟨exists_ofQuery_iff, fun _ => repeated_of_ofQuery, fun _ => get?_of_ofQuery, ?_,
    fun _ => ofQuery_eq_of_filter⟩
  intro other perm
  exact agree_of_perm ((perm.filter _).map _)

theorem spelledTwice_refused :
    (∃ name, ofQuery "a=1&b&%61=2" = .error (.repeated name) ∧
      1 < occurrences name (Text.Form.read "a=1&b&%61=2")) ∧
    Agree "a=1&b&%61=2" "%61=2&a=1&b" ∧ ofQuery "a=1&b&%61=2" = ofQuery "&a=1&%61=2&c=&a" ∧
    ∃ o, ofQuery "b=&c=%31&b" = .ok o ∧ o.get? "c" = some (.string "1") := by
  obtain ⟨read_iff, told, _, ordered, padded⟩ := ofQuery_refuses_repetition "a=1&b&%61=2"
  obtain ⟨read_iff', _, holds, _⟩ := ofQuery_refuses_repetition "b=&c=%31&b"
  refine ⟨?_, ordered _ (by decide +kernel), padded _ (by decide +kernel), ?_⟩
  · cases result : ofQuery "a=1&b&%61=2" with
    | ok o =>
        have twice : occurrences "a" (Text.Form.read "a=1&b&%61=2") = 2 := by decide +kernel
        exact absurd (read_iff.mp ⟨o, result⟩ "a") (twice ▸ by decide)
    | error fault =>
        obtain ⟨name, rfl, twice⟩ := told fault result
        exact ⟨name, rfl, twice⟩
  · have pairs : Text.Form.read "b=&c=%31&b" = [("b", ""), ("c", "1"), ("b", "")] := by
      decide +kernel
    have once : ∀ k, occurrences k (Text.Form.read "b=&c=%31&b") ≤ 1 := by
      intro k
      rw [pairs, occurrences_without_value rfl, occurrences_with_value rfl,
        occurrences_without_value rfl]
      change 0 + (if k = "c" then 1 else 0) ≤ 1
      split <;> decide
    obtain ⟨o, read⟩ := read_iff'.mpr once
    exact ⟨o, read, (holds o read "c" _).mpr ⟨"1", by decide, pairs ▸ by decide, rfl⟩⟩

end Object

end OpenIdConnect
