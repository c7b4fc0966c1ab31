import Mathlib.Data.List.Nodup
import OpenIdConnect.Proofs.Parameter.Repetition

/-!
# Objects as query strings

A query string keeps the texts of the members of an object: a string stands for itself, and any
other value for its compact text.  Null and empty texts are lost, since a parameter without a
value counts as absent.  So an object without such members, of texts alone, is read as it was
written, and every object that was read from a query string is one.
-/

namespace OpenIdConnect

namespace Json

/-! ## Texts of values -/

theorem positional_ne_nil (digits : List Char) (first : Int) : positional digits first ≠ [] := by
  cases first <;> simp [positional]

theorem scientific_ne_nil (digits : List Char) (first : Int) : scientific digits first ≠ [] := by
  simp [scientific]

theorem printNumber_ne_nil (n : Number) : printNumber n ≠ [] := by
  cases n with
  | integer value inRange =>
      cases value with
      | ofNat n => exact Nat.toDigits_ne_nil
      | negSucc n => exact List.cons_ne_nil _ _
  | float x =>
      unfold printNumber printFloat
      dsimp only
      split
      · exact List.cons_ne_nil _ _
      · split
        · exact positional_ne_nil _ _
        · exact scientific_ne_nil _ _

theorem print_ne_nil (v : Json) : print v ≠ [] := by
  cases v with
  | null => exact List.cons_ne_nil _ _
  | bool b => cases b <;> exact List.cons_ne_nil _ _
  | number n => exact printNumber_ne_nil n
  | string s => exact List.cons_ne_nil _ _
  | array items => cases items <;> exact List.cons_ne_nil _ _
  | object members => cases members <;> exact List.cons_ne_nil _ _

/-- Every value has a text. -/
theorem compact_ne_empty (v : Json) : v.compact ≠ "" := by
  unfold compact
  rw [Ne, ← String.toList_eq_nil_iff, String.toList_ofList]
  exact print_ne_nil v

end Json

/-- The text that stands for a value in a query string. -/
def Json.queryText : Json → Option String
  | .null => none
  | .string s => some s
  | value => some value.compact

namespace Object

/-- What is read for a value that was written into a query string. -/
def queried (value : Json) : Option Json :=
  (value.queryText.filter fun s => !s.isEmpty).map .string

theorem queried_eq_some_iff {value read : Json} :
    queried value = some read ↔ ∃ s, value.queryText = some s ∧ s ≠ "" ∧ read = .string s := by
  unfold queried
  simp only [Option.map_eq_some_iff, Option.filter_eq_some_iff, and_assoc]
  refine exists_congr fun s => and_congr_right fun _ => and_congr ?_ eq_comm
  simp

theorem queried_string {s : String} (filled : s ≠ "") : queried (.string s) = some (.string s) :=
  queried_eq_some_iff.mpr ⟨s, rfl, filled, rfl⟩

theorem queried_of_untextual {value : Json} (present : value ≠ .null)
    (untextual : ∀ s, value ≠ .string s) : queried value = some (.string value.compact) := by
  have text : value.queryText = some value.compact := by
    cases value with
    | null => exact absurd rfl present
    | string s => exact absurd rfl (untextual s)
    | _ => rfl
  exact queried_eq_some_iff.mpr ⟨value.compact, text, Json.compact_ne_empty value, rfl⟩

/-- Nothing is read for null and for the empty text, and something for every other value. -/
theorem isSome_queried_iff {value : Json} :
    (queried value).isSome = true ↔ value ≠ .null ∧ value ≠ .string "" := by
  constructor
  · intro read
    constructor
    · rintro rfl
      cases read
    · rintro rfl
      cases read
  · rintro ⟨present, filled⟩
    by_cases textual : ∃ s, value = .string s
    · obtain ⟨s, rfl⟩ := textual
      rw [queried_string fun empty => filled (congrArg Json.string empty)]
      rfl
    · rw [queried_of_untextual present (not_exists.mp textual)]
      rfl

/-! ## Pairs -/

/-- The pair that a member is written as. -/
def pairOf (m : String × Json) : Option (String × String) :=
  m.2.queryText.map fun s => (m.1, s)

theorem pairs_eq (o : Object) : o.pairs = o.members.filterMap pairOf := by
  unfold pairs
  congr 1
  funext m
  obtain ⟨name, value⟩ := m
  cases value <;> rfl

theorem pairOf_some {value : Json} {s : String} (text : value.queryText = some s)
    (name : String) : pairOf (name, value) = some (name, s) := by
  rw [pairOf, text]
  rfl

theorem mem_pairs_iff {o : Object} {k s : String} :
    (k, s) ∈ o.pairs ↔ ∃ value, o.get? k = some value ∧ value.queryText = some s := by
  rw [pairs_eq, List.mem_filterMap]
  constructor
  · rintro ⟨⟨name, value⟩, member, written⟩
    obtain ⟨text, queryText, same⟩ := Option.map_eq_some_iff.mp written
    cases same
    exact ⟨value, mem_members_iff.mp member, queryText⟩
  · rintro ⟨value, here, text⟩
    exact ⟨(k, value), mem_members_iff.mpr here, pairOf_some text k⟩

/-- The pairs of an object have different names, since its members have. -/
theorem nodup_names_pairs (o : Object) : (o.pairs.map Prod.fst).Nodup := by
  rw [pairs_eq, List.Nodup, List.pairwise_map, List.pairwise_filterMap]
  refine o.ascending.imp ?_
  intro a b less first written second written' same
  obtain ⟨_, _, rfl⟩ := Option.map_eq_some_iff.mp written
  obtain ⟨_, _, rfl⟩ := Option.map_eq_some_iff.mp written'
  exact String.lt_irrefl b.1 (same ▸ less)

theorem gives_pairs_iff {o : Object} {k : String} {value : Json} :
    Gives o.pairs k value ↔ (o.get? k).bind queried = some value := by
  rw [Option.bind_eq_some_iff]
  constructor
  · rintro ⟨s, filled, member, rfl⟩
    obtain ⟨written, here, text⟩ := mem_pairs_iff.mp member
    exact ⟨written, here, queried_eq_some_iff.mpr ⟨s, text, filled, rfl⟩⟩
  · rintro ⟨written, here, read⟩
    obtain ⟨s, text, filled, rfl⟩ := queried_eq_some_iff.mp read
    exact ⟨s, filled, mem_pairs_iff.mpr ⟨written, here, text⟩, rfl⟩

/-! ## Objects that are read again -/

/-- All members are texts, and none is empty. -/
def Textual (o : Object) : Prop :=
  ∀ k value, o.get? k = some value → ∃ s, s ≠ "" ∧ value = .string s

theorem textual_ofQuery {query : String} {o : Object} (read : ofQuery query = .ok o) :
    o.Textual := by
  intro k value here
  obtain ⟨s, filled, _, text⟩ := (get?_of_ofQuery read k value).mp here
  exact ⟨s, filled, text⟩

/-- An object is read from its query string as the texts of its members. -/
theorem ofQuery_query (o : Object) :
    ∃ o', ofQuery o.query = .ok o' ∧ ∀ k, o'.get? k = (o.get? k).bind queried := by
  have pairs : Text.Form.read o.query = o.pairs := Text.Form.read_write o.pairs
  have once : ∀ k, occurrences k (Text.Form.read o.query) ≤ 1 := by
    intro k
    rw [pairs]
    exact (occurrences_le_count k o.pairs).trans
      (List.nodup_iff_count_le_one.mp o.nodup_names_pairs k)
  obtain ⟨o', read⟩ := exists_ofQuery_iff.mpr once
  refine ⟨o', read, fun k => Option.ext fun value => ?_⟩
  rw [get?_of_ofQuery read, pairs, gives_pairs_iff]

/-- What an object becomes when it is written as a query string and read again. -/
structure Flattens (o flat : Object) : Prop where
  contains_iff : ∀ k, flat.contains k = true ↔
    ∃ value, o.get? k = some value ∧ value ≠ .null ∧ value ≠ .string ""
  text : ∀ k s, o.get? k = some (.string s) → s ≠ "" → flat.get? k = some (.string s)
  other : ∀ k value, o.get? k = some value → value ≠ .null → (∀ s, value ≠ .string s) →
    flat.get? k = some (.string value.compact)

theorem flattens_of_queried {o flat : Object}
    (lookup : ∀ k, flat.get? k = (o.get? k).bind queried) : Flattens o flat where
  contains_iff k := by
    unfold contains
    rw [lookup, Option.isSome_bind, Option.any_eq_true]
    exact exists_congr fun value => and_congr_right fun _ => isSome_queried_iff
  text k s here filled := by
    rw [lookup, here]
    exact queried_string filled
  other k value here present untextual := by
    rw [lookup, here]
    exact queried_of_untextual present untextual

/-- Texts that are not empty stay as they are. -/
theorem Textual.eq_of_queried {o flat : Object} (textual : o.Textual)
    (lookup : ∀ k, flat.get? k = (o.get? k).bind queried) : flat = o := by
  refine ext_get? fun k => ?_
  rw [lookup]
  cases here : o.get? k with
  | none => rfl
  | some value =>
      obtain ⟨s, filled, rfl⟩ := textual k value here
      exact queried_string filled

/--
An object is read again from its query string: null and empty texts are lost, other texts stay, and
any other value becomes its compact text.  An object that was read from a query string stays.
-/
theorem ofQuery_query_flattens (o : Object) :
    ∃ flat, ofQuery o.query = .ok flat ∧ Flattens o flat ∧
      ∀ query, ofQuery query = .ok o → flat = o := by
  obtain ⟨flat, read, lookup⟩ := ofQuery_query o
  refine ⟨flat, read, flattens_of_queried lookup, ?_⟩
  intro query made
  exact (textual_ofQuery made).eq_of_queried lookup

/-- Members without a name, without a value and with values that are no texts. -/
def motley : Object :=
  .ofList [("", .string "x&y=é +"), ("a&b", .array [.bool true, .null]), ("empty", .string ""),
    ("gone", .null), ("max_age", .number (.integer 3600 (by decide)))]

/-- The members of `motley` that a query string keeps, as it keeps them. -/
def motleyAgain : Object :=
  .ofList [("", .string "x&y=é +"), ("a&b", .string "[true,null]"), ("max_age", .string "3600")]

theorem ofQuery_motleyAgain : ofQuery "=x%26y%3D%C3%A9+%2B&a%26b=%5Btrue%2Cnull%5D&max_age=3600" =
    .ok motleyAgain := by
  with_unfolding_all rfl

theorem motley_flattened :
    (∃ flat, ofQuery motley.query = .ok flat ∧ flat.get? "" = some (.string "x&y=é +") ∧
      flat.get? "a&b" = some (.string "[true,null]") ∧ flat.contains "gone" = false) ∧
    ofQuery motleyAgain.query = .ok motleyAgain := by
  constructor
  · obtain ⟨flat, read, flattens, _⟩ := ofQuery_query_flattens motley
    refine ⟨flat, read, ?_, ?_, ?_⟩
    · exact flattens.text "" "x&y=é +" rfl (by decide)
    · exact flattens.other "a&b" (.array [.bool true, .null]) rfl nofun nofun
    · refine Bool.eq_false_iff.mpr fun kept => ?_
      obtain ⟨value, here, present, _⟩ := (flattens.contains_iff "gone").mp kept
      cases here
      exact present rfl
  · obtain ⟨flat, read, _, stays⟩ := ofQuery_query_flattens motleyAgain
    rw [read, stays _ ofQuery_motleyAgain]

end Object

end OpenIdConnect
