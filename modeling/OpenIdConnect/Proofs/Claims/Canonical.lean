import OpenIdConnect.Proofs.Claims.Specification

/-!
# The canonical form of a request for one claim

Of what a member says about a claim, only idle members are lost in reading: a remark that the claim
is not essential, and a value of null.  What is written again is what was read, without them.
-/

namespace OpenIdConnect

namespace Claims

namespace Individual

/-- Is a member as good as none? -/
def isIdle (name : String) : Json → Bool
  | .bool false => name == "essential"
  | .null => name == "value"
  | _ => false

/-- The members that are not idle. -/
def telling (o : Object) : Object :=
  o.filter fun name v => !isIdle name v

/-- A specification without idle members, which is null when there are no others. -/
def canonical : Json → Json
  | .object members =>
    let o := telling (.ofList members)
    if o.isEmpty then .null else o.toJson
  | spec => spec

/-! ## Members that are not idle -/

namespace Carries

variable {c : Individual} {o : Object}

theorem get?_telling_essential (carries : c.Carries o) :
    (telling o).get? "essential" = c.said "essential" := by
  rw [telling, Object.get?_filter, said, if_pos rfl]
  cases here : o.get? "essential" with
  | none =>
      have voluntary : ¬c.isEssential = true := by
        rw [← carries.essential, here]
        exact (Option.some_ne_none _).symm
      rw [if_neg voluntary]
      rfl
  | some v =>
      obtain ⟨b, rfl⟩ := carries.boolean v here
      have essential := carries.essential
      rw [here, Option.some.injEq, Json.bool.injEq] at essential
      cases b with
      | false =>
          rw [if_neg (mt essential.mpr Bool.false_ne_true)]
          rfl
      | true =>
          rw [if_pos (essential.mp rfl)]
          rfl

theorem get?_telling_value (carries : c.Carries o) :
    (telling o).get? "value" = c.said "value" := by
  rw [telling, Object.get?_filter]
  change _ = c.value?
  rw [← carries.value]
  congr 1
  funext v
  rcases v with _ | (_ | _) | _ | _ | _ | _ <;> rfl

end Carries

/-- Only two members can be idle. -/
theorem get?_telling_of_ne {name : String} (notEssential : name ≠ "essential")
    (notValue : name ≠ "value") (o : Object) : (telling o).get? name = o.get? name := by
  have kept : (fun v => !isIdle name v) = fun _ => true := by
    funext v
    rcases v with _ | (_ | _) | _ | _ | _ | _ <;> simp [isIdle, notEssential, notValue]
  rw [telling, Object.get?_filter, kept]
  cases o.get? name <;> rfl

/-! ## What is written -/

/-- A request is written with the members that it carries, the idle ones left out. -/
theorem Carries.members_eq {c : Individual} {o : Object} (carries : c.Carries o) :
    c.members = telling o := by
  refine Object.ext_get? fun name => ?_
  rw [get?_members, carries.details]
  by_cases isReserved : name ∈ reserved
  · rw [if_pos isReserved, Option.none_or]
    simp only [reserved, List.mem_cons, List.not_mem_nil, or_false] at isReserved
    rcases isReserved with rfl | rfl | rfl | rfl
    · exact carries.get?_telling_essential.symm
    · exact carries.get?_telling_value.symm
    · rw [get?_telling_of_ne (by decide) (by decide), carries.values]
      rfl
    · rw [get?_telling_of_ne (by decide) (by decide), carries.purpose]
      rfl
  · rw [if_neg isReserved]
    simp only [reserved, List.mem_cons, List.not_mem_nil, or_false, not_or] at isReserved
    rw [get?_telling_of_ne isReserved.1 isReserved.2.1]
    simp [said, isReserved]

/-- No member is written exactly for a request that says nothing. -/
theorem isEmpty_members {c : Individual}
    (nonempty : ∀ details, c.details = some details → details.isEmpty = false) :
    c.members.isEmpty = c.isPlain := by
  rw [Bool.eq_iff_iff]
  constructor
  · intro empty
    have silent (name : String) :
        (c.details.getD .empty).get? name = none ∧ c.said name = none := by
      rw [← Option.or_eq_none_iff, ← get?_members]
      exact Object.isEmpty_iff.mp empty name
    have voluntary : c.isEssential = false := by simpa [said] using (silent "essential").2
    have unvalued : c.value? = none := (silent "value").2
    have unlisted : c.values? = none := Option.map_eq_none_iff.mp (silent "values").2
    have unexplained : c.purpose = none := Option.map_eq_none_iff.mp (silent "purpose").2
    have unconstrained : c.constraint.isAny = true := by
      rw [value?] at unvalued
      rw [values?] at unlisted
      cases constraint : c.constraint with
      | any => rfl
      | value v => rw [constraint] at unvalued; cases unvalued
      | values vs => rw [constraint] at unlisted; cases unlisted
    have bare : c.details = none := by
      cases kept : c.details with
      | none => rfl
      | some details =>
          rw [kept] at silent
          have nothing := Object.isEmpty_iff.mpr fun name => (silent name).1
          cases (nonempty details kept).symm.trans nothing
    rw [isPlain, voluntary, unconstrained, unexplained, bare]
    rfl
  · intro plain
    rw [eq_ofKey_of_isPlain plain]
    rfl

theorem Carries.spec_eq {c : Individual} {o : Object} (carries : c.Carries o) :
    c.spec = if (telling o).isEmpty then .null else (telling o).toJson := by
  rw [spec, ← isEmpty_members carries.nonempty, carries.members_eq]

theorem spec_of_parse {key : String} {spec : Json} {c : Individual}
    (read : parse key spec = .ok c) : c.spec = canonical spec := by
  obtain ⟨_, o, specified, _, carries⟩ := parse_eq_ok_iff.mp read
  rw [carries.spec_eq]
  cases spec with
  | null =>
      cases specified
      rfl
  | object members =>
      cases specified
      rfl
  | _ => cases specified

/-! ## The text of the key -/

theorem text_of_parse_variant {key : String} {spec : Json} {c : Individual}
    (read : parse key spec = .ok c) {front suffix : String} {tag : LanguageTag}
    (variant : Variant key front suffix tag) : c.key.text = front ++ "#" ++ tag.text := by
  rw [(valid_of_parse read).2.2, Key.ofText_variant variant]
  rfl

theorem text_of_parse_plain {key : String} {spec : Json} {c : Individual}
    (read : parse key spec = .ok c) (plain : ¬IsVariant key) : c.key.text = key := by
  rw [(valid_of_parse read).2.2, Key.ofText_plain plain]
  rfl

/-- A key that was read from a text is read from its own text too. -/
theorem ofText_text_of_parse {key : String} {spec : Json} {c : Individual}
    (read : parse key spec = .ok c) : Key.ofText c.key.text = c.key := by
  obtain ⟨valid, _, named⟩ := valid_of_parse read
  refine valid.key.ofText_text fun untagged => ?_
  have plain : ¬IsVariant key := Key.not_isVariant_of_untagged (named ▸ untagged)
  rw [named, Key.ofText_plain plain]
  exact plain

/--
What was read of a claim is written in the canonical form of its specification, under the name with
its tag in canonical form, or else the very name it was read under; and it is read from there again.
-/
theorem written_canonically {key : String} {spec : Json} {c : Individual}
    (read : parse key spec = .ok c) :
    c.spec = canonical spec ∧
      (∀ front suffix tag, Variant key front suffix tag →
        c.key.text = front ++ "#" ++ tag.text) ∧
      (¬IsVariant key → c.key.text = key) ∧
      parse c.key.text c.spec = .ok c := by
  refine ⟨spec_of_parse read, fun _ _ _ => text_of_parse_variant read,
    text_of_parse_plain read, ?_⟩
  have valid := (valid_of_parse read).1
  rw [parse_spec valid valid.key.text_ne_empty, ofText_text_of_parse read]

/-- A specification with two idle members, and with a hint of null. -/
def idleButHint : Json :=
  .object [("essential", .bool false), ("hint", .null), ("value", .null)]

/-- The request for the German variant of a name, with the hint. -/
def hintedName : Individual :=
  ⟨⟨"name", some ⟨"de"⟩⟩, .voluntary, .any, none, some (.ofList [("hint", .null)])⟩

theorem parse_idleButHint : parse "name#DE" idleButHint = .ok hintedName :=
  rfl

theorem variant_upperCase : Variant "name#DE" "name" "DE" ⟨"de"⟩ :=
  ⟨by decide, by decide, rfl, rfl⟩

theorem idleButHint_canonical :
    hintedName.spec = .object [("hint", .null)] ∧ hintedName.key.text = "name#de" ∧
      parse "name#de" (.object [("hint", .null)]) = .ok hintedName := by
  obtain ⟨spec, variant, _, again⟩ := written_canonically parse_idleButHint
  have text : hintedName.key.text = "name#de" := variant _ _ _ variant_upperCase
  have canonicalSpec : hintedName.spec = .object [("hint", .null)] := spec
  rw [text, canonicalSpec] at again
  exact ⟨canonicalSpec, text, again⟩

end Individual

end Claims

end OpenIdConnect
