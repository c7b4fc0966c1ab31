import Mathlib.Data.List.Perm.Basic
import Mathlib.Data.Set.List

/-!
# Results that succeed

When a reading that is made of others succeeds, each of them has succeeded.
-/

namespace OpenIdConnect

namespace Outcome

variable {ε ε' α β : Type}

theorem bind_eq_ok {x : Except ε α} {f : α → Except ε β} {b : β} :
    x >>= f = .ok b ↔ ∃ a, x = .ok a ∧ f a = .ok b := by
  cases x with
  | error e =>
      constructor
      · intro impossible
        cases impossible
      · rintro ⟨a, impossible, _⟩
        cases impossible
  | ok a =>
      constructor
      · intro result
        exact ⟨a, rfl, result⟩
      · rintro ⟨a', same, result⟩
        cases same
        exact result

theorem bind_eq_error {x : Except ε α} {f : α → Except ε β} {e : ε} :
    x >>= f = .error e ↔ x = .error e ∨ ∃ a, x = .ok a ∧ f a = .error e := by
  cases x with
  | error e' =>
      constructor
      · rintro ⟨⟩
        exact .inl rfl
      · rintro (⟨⟨⟩⟩ | ⟨a, impossible, _⟩)
        · rfl
        · cases impossible
  | ok a =>
      constructor
      · intro failed
        exact .inr ⟨a, rfl, failed⟩
      · rintro (impossible | ⟨a', same, failed⟩)
        · cases impossible
        · cases same
          exact failed

theorem map_eq_ok {x : Except ε α} {f : α → β} {b : β} :
    x.map f = .ok b ↔ ∃ a, x = .ok a ∧ f a = b := by
  cases x <;> simp [Except.map]

theorem map_eq_error {x : Except ε α} {f : α → β} {e : ε} : x.map f = .error e ↔ x = .error e := by
  cases x <;> simp [Except.map]

theorem mapError_eq_ok {x : Except ε α} {f : ε → ε'} {a : α} :
    x.mapError f = .ok a ↔ x = .ok a := by
  cases x <;> simp [Except.mapError]

theorem mapError_eq_error {x : Except ε α} {f : ε → ε'} {e : ε'} :
    x.mapError f = .error e ↔ ∃ cause, x = .error cause ∧ f cause = e := by
  cases x <;> simp [Except.mapError]

/-- A reading goes on behind a condition only where that is not refused. -/
theorem refused_eq_ok {c : Prop} [Decidable c] {e : ε} {rest : PUnit → Except ε α} {a : α} :
    (if c then throw e >>= rest else rest ⟨⟩) = .ok a ↔ ¬c ∧ rest ⟨⟩ = .ok a := by
  by_cases refused : c
  · rw [if_pos refused]
    constructor
    · intro impossible
      cases impossible
    · intro done
      exact absurd refused done.1
  · rw [if_neg refused]
    exact ⟨fun result => ⟨refused, result⟩, fun done => done.2⟩

/-- A reading fails at a condition that is refused, or behind one that is not. -/
theorem refused_eq_error {c : Prop} [Decidable c] {e e' : ε} {rest : PUnit → Except ε α} :
    (if c then throw e >>= rest else rest ⟨⟩) = .error e' ↔
      c ∧ e = e' ∨ ¬c ∧ rest ⟨⟩ = .error e' := by
  by_cases refused : c
  · rw [if_pos refused]
    constructor
    · rintro ⟨⟩
      exact .inl ⟨refused, rfl⟩
    · rintro (⟨_, rfl⟩ | ⟨otherwise, _⟩)
      · rfl
      · exact absurd refused otherwise
  · rw [if_neg refused]
    constructor
    · intro failed
      exact .inr ⟨refused, failed⟩
    · rintro (⟨otherwise, _⟩ | ⟨_, failed⟩)
      · exact absurd otherwise refused
      · exact failed

/-- Each item is read, in order. -/
theorem mapM_eq_ok {f : α → Except ε β} {items : List α} {results : List β} :
    items.mapM f = .ok results ↔ items.map f = results.map .ok := by
  induction items generalizing results with
  | nil => cases results <;> simp [pure, Except.pure]
  | cons item items ih =>
      rw [List.mapM_cons, bind_eq_ok, List.map_cons]
      constructor
      · rintro ⟨b, first, others⟩
        obtain ⟨bs, rest, same⟩ := bind_eq_ok.mp others
        cases same
        rw [first, ih.mp rest]
        rfl
      · intro agree
        cases results with
        | nil => cases agree
        | cons b bs =>
            obtain ⟨first, others⟩ := List.cons.inj agree
            exact ⟨b, first, bind_eq_ok.mpr ⟨bs, ih.mpr others, rfl⟩⟩

/-- Items fail with the error of the first that is not read; those behind it do not count. -/
theorem mapM_eq_error {f : α → Except ε β} {items : List α} {e : ε} :
    items.mapM f = .error e ↔
      ∃ before item after, items = before ++ item :: after ∧
        (∀ a ∈ before, ∃ b, f a = .ok b) ∧ f item = .error e := by
  induction items with
  | nil =>
      constructor
      · intro impossible
        cases impossible
      · rintro ⟨before, item, after, impossible, _⟩
        cases before <;> cases impossible
  | cons head items ih =>
      rw [List.mapM_cons, bind_eq_error]
      constructor
      · rintro (failed | ⟨b, first, failed⟩)
        · exact ⟨[], head, items, rfl, List.forall_mem_nil _, failed⟩
        · rcases bind_eq_error.mp failed with failed | ⟨bs, _, impossible⟩
          · obtain ⟨before, item, after, rfl, each, failed⟩ := ih.mp failed
            exact ⟨head :: before, item, after, rfl,
              List.forall_mem_cons.mpr ⟨⟨b, first⟩, each⟩, failed⟩
          · cases impossible
      · rintro ⟨before, item, after, same, each, failed⟩
        cases before with
        | nil =>
            cases same
            exact .inl failed
        | cons a before =>
            cases same
            obtain ⟨⟨b, first⟩, others⟩ := List.forall_mem_cons.mp each
            refine .inr ⟨b, first, bind_eq_error.mpr (.inl ?_)⟩
            exact ih.mpr ⟨before, item, after, rfl, others, failed⟩

/-- Where each result is read from one item only, items are read that are written for results. -/
theorem map_eq_ok_iff_eq_map {f : α → Except ε β} {written : β → α}
    (only : ∀ a b, f a = .ok b ↔ a = written b) {items : List α} {results : List β} :
    items.map f = results.map .ok ↔ items = results.map written := by
  induction items generalizing results with
  | nil => cases results <;> simp
  | cons item items ih => cases results <;> simp [only, ih]

/-- A check of all items passes when each of them does. -/
theorem forM_eq_ok {check : α → Except ε Unit} {items : List α} :
    items.forM check = .ok () ↔ ∀ item ∈ items, check item = .ok () := by
  induction items with
  | nil => simp [pure, Except.pure]
  | cons item items ih =>
      change (check item >>= fun _ => items.forM check) = _ ↔ _
      rw [bind_eq_ok, List.forall_mem_cons, ← ih]
      constructor
      · rintro ⟨_, first, others⟩
        exact ⟨first, others⟩
      · rintro ⟨first, others⟩
        exact ⟨(), first, others⟩

/-- All items are read when each of them can be. -/
theorem exists_map_eq_ok_iff {f : α → Except ε β} {items : List α} :
    (∃ results : List β, items.map f = results.map .ok) ↔
      ∀ item ∈ items, ∃ b, f item = .ok b := by
  induction items with
  | nil =>
      refine ⟨?_, fun _ => ⟨[], rfl⟩⟩
      rintro _ item impossible
      cases impossible
  | cons item items ih =>
      rw [List.forall_mem_cons, ← ih]
      constructor
      · rintro ⟨results, agree⟩
        cases results with
        | nil => cases agree
        | cons b results =>
            obtain ⟨first, others⟩ := List.cons.inj agree
            exact ⟨⟨b, first⟩, results, others⟩
      · rintro ⟨⟨b, first⟩, results, others⟩
        refine ⟨b :: results, ?_⟩
        rw [List.map_cons, first, others]
        rfl

/-- Each result is read from an item. -/
theorem exists_item_of_mem {f : α → Except ε β} {items : List α} {results : List β}
    (agree : items.map f = results.map .ok) {b : β} (member : b ∈ results) :
    ∃ item ∈ items, f item = .ok b := by
  have result : Except.ok b ∈ results.map (Except.ok (ε := ε)) := List.mem_map_of_mem member
  rw [← agree] at result
  exact List.mem_map.mp result

/-- Results that are some values in another order have all succeeded. -/
theorem exists_ok_of_perm {results : List (Except ε α)} {values : List α}
    (perm : results.Perm (values.map .ok)) :
    ∃ read : List α, results = read.map .ok ∧ read.Perm values := by
  have succeeded : results ∈ Set.range (List.map Except.ok) := by
    rw [Set.range_list_map]
    intro result member
    obtain ⟨a, _, same⟩ := List.mem_map.mp (perm.subset member)
    exact ⟨a, same⟩
  obtain ⟨read, same⟩ := succeeded
  subst same
  refine ⟨read, rfl, ?_⟩
  exact (List.map_perm_map_iff (fun _ _ => Except.ok.inj)).mp perm

/-! ## Errors of one kind -/

/-- A reading has no errors but those of a kind. -/
def FailsWith (kind : ε → Prop) (x : Except ε α) : Prop :=
  ∀ e, x = .error e → kind e

section FailsWith

variable {kind : ε → Prop}

theorem failsWith_ok (a : α) : FailsWith kind (.ok a) := by
  intro e impossible
  cases impossible

theorem failsWith_error {e : ε} (ofKind : kind e) : FailsWith kind (.error e : Except ε α) := by
  rintro _ ⟨⟩
  exact ofKind

theorem failsWith_bind {x : Except ε α} {f : α → Except ε β} (first : FailsWith kind x)
    (rest : ∀ a, x = .ok a → FailsWith kind (f a)) : FailsWith kind (x >>= f) := by
  intro e failed
  rcases bind_eq_error.mp failed with failed | ⟨a, read, failed⟩
  · exact first e failed
  · exact rest a read e failed

theorem failsWith_refused {c : Prop} [Decidable c] {e : ε} {rest : PUnit → Except ε α}
    (ofKind : kind e) (go : FailsWith kind (rest ⟨⟩)) :
    FailsWith kind (if c then throw e >>= rest else rest ⟨⟩) := by
  intro e' failed
  rcases refused_eq_error.mp failed with ⟨_, rfl⟩ | ⟨_, failed⟩
  · exact ofKind
  · exact go e' failed

theorem FailsWith.mono {kind' : ε → Prop} {x : Except ε α} (fails : FailsWith kind x)
    (weaker : ∀ e, kind e → kind' e) : FailsWith kind' x :=
  fun e failed => weaker e (fails e failed)

end FailsWith

end Outcome

end OpenIdConnect
