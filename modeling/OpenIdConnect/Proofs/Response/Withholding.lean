import OpenIdConnect.Proofs.Claims.Reading
import OpenIdConnect.Proofs.Response.Coverage

/-!
# Verified claims are withheld

The member for verified claims is released for the untagged request of its very name and for no
other.  Reading makes no such request, however the members of a claims object are called, and none
comes from merging and erasing what was read.  So plain claims never release verified ones.
-/

namespace OpenIdConnect

namespace Claims.Selection

/-! ## What is made of selections that were read -/

/-- The selections that were read, merged with each other and stripped of requests. -/
inductive Derived : Selection → Prop
  | parse {o : Object} {s : Selection} (made : Selection.parse o = .ok s) : Derived s
  | merge {s t : Selection} (first : Derived s) (second : Derived t) : Derived (s.merge t)
  | erase {s : Selection} (key : Key) (before : Derived s) : Derived (s.erase key)

theorem keys_erase_subset (s : Selection) (key : Key) : (s.erase key).keys ⊆ s.keys :=
  (List.filter_sublist.map Individual.key).subset

namespace Unambiguous

variable {s t : Selection}

theorem merge (first : s.Unambiguous) (second : t.Unambiguous) : (s.merge t).Unambiguous := by
  rw [unambiguous_iff_keys] at first second ⊢
  intro k among
  rcases mem_keys_merge.mp among with before | other
  · exact first k before
  · exact second k other

theorem erase (before : s.Unambiguous) (key : Key) : (s.erase key).Unambiguous := by
  rw [unambiguous_iff_keys] at before ⊢
  exact fun k among => before k (keys_erase_subset s key among)

end Unambiguous

/-- A key that reading does not make is made by no merging and erasing either. -/
theorem Derived.unambiguous {s : Selection} (derived : s.Derived) : s.Unambiguous := by
  induction derived with
  | parse made => exact (valid_of_parse made).2
  | merge _ _ first second => exact first.merge second
  | erase key _ before => exact before.erase key

theorem Unambiguous.verifiedMember_not_mem {s : Selection} (unambiguous : s.Unambiguous) :
    (⟨verifiedMember, none⟩ : Key) ∉ s.keys := by
  intro among
  exact (unambiguous_iff_keys.mp unambiguous _ among rfl).1 rfl

end Claims.Selection

namespace UserInfo

open Claims

variable {u : UserInfo} {requested : Selection}

/-! ## The member for verified claims -/

/-- No tag and no number sign in a name reaches the member for verified claims. -/
theorem covers_verifiedMember_iff {c : Individual} :
    covers c Selection.verifiedMember = true ↔ c.key = ⟨Selection.verifiedMember, none⟩ := by
  have whole : untagged Selection.verifiedMember = Selection.verifiedMember := by decide
  rw [covers_iff, whole, eq_comm, Key.text_eq_verifiedMember_iff]
  refine or_iff_left_of_imp ?_
  rintro ⟨untaggedKey, named⟩
  rw [named, ← untaggedKey]

theorem released_verifiedMember_iff :
    released requested Selection.verifiedMember = true ↔
      (⟨Selection.verifiedMember, none⟩ : Key) ∈ requested.keys := by
  rw [released_iff_keys]
  constructor
  · rintro (subject | ⟨k, among, covered⟩)
    · exact absurd subject (by decide)
    · rwa [← covers_verifiedMember_iff.mp covered]
  · intro among
    exact .inr ⟨_, among, covers_verifiedMember_iff.mpr rfl⟩

/--
Whatever the members of claims objects are called, and however the selections read from them are
merged and stripped, the verified claims of a response are not among what is released.
-/
theorem filter_withholds_verified (derived : requested.Derived) (u : UserInfo) :
    (u.filter requested).members.get? "verified_claims" = none ∧
      (u.filter requested).toObject.get? "verified_claims" = none := by
  have withheld : ¬released requested "verified_claims" = true := fun isReleased =>
    derived.unambiguous.verifiedMember_not_mem (released_verifiedMember_iff.mp isReleased)
  have absent : (u.filter requested).members.get? "verified_claims" = none := by
    rw [get?_filter, if_neg withheld]
  refine ⟨absent, ?_⟩
  rw [toObject, Object.get?_write]
  exact absent

/-- A claims object with the reserved member, variants of it, and a name that goes on behind it. -/
def reservedMembers : Object :=
  .ofList [("name", .null), ("verified_claims", .null), ("verified_claims#de", .null),
    ("verified_claims#x#y", .object [("essential", .bool true)])]

/-- What is read from it. -/
def besideReserved : Selection :=
  ⟨[.ofKey ⟨"name", none⟩, .ofKey ⟨"verified_claims", some ⟨"de"⟩⟩,
    (Individual.ofKey ⟨"verified_claims#x#y", none⟩).setNecessity .essential]⟩

/-- A response with verified claims, and with a member that is called like a variant of them. -/
def verifiedTwice : UserInfo :=
  ⟨.ofList [("name", .string "Jane"), ("sub", .string "1"), ("verified_claims", .object []),
    ("verified_claims#de", .string "x")], "1"⟩

theorem verifiedTwice_withheld :
    Selection.parse reservedMembers = .ok besideReserved ∧
      verifiedTwice.members.get? "verified_claims" = some (.object []) ∧
      (verifiedTwice.filter
        ((besideReserved.merge besideReserved).erase ⟨"name", none⟩)).members.get?
          "verified_claims" = none ∧
      (verifiedTwice.filter
        ((besideReserved.merge besideReserved).erase ⟨"name", none⟩)).members.get?
          "verified_claims#de" = some (.string "x") := by
  have read : Selection.parse reservedMembers = .ok besideReserved := rfl
  have derived : besideReserved.Derived := .parse read
  refine ⟨read, rfl, ?_, rfl⟩
  exact (filter_withholds_verified ((derived.merge derived).erase ⟨"name", none⟩) verifiedTwice).1

end UserInfo

end OpenIdConnect
