import OpenIdConnect.Parameter.Provider
import OpenIdConnect.Proofs.Parameter.Subject

/-!
# Parameters of provider metadata, read

From which members features are read, and displays: each value is read from one form only.  The
required members are read again as they were, response types if they were strings.
-/

namespace OpenIdConnect

theorem Json.readBool_eq_ok_iff {v : Json} {b : Bool} : v.readBool = .ok b ↔ v = .bool b := by
  cases v <;> simp [readBool]

theorem Json.readItems_eq_ok_iff {α : Type} {item : Json → Except Fault α} {v : Json}
    {results : List α} :
    Json.readItems item v = .ok results ↔
      ∃ items, v = .array items ∧ items.map item = results.map .ok := by
  cases v <;> simp [readItems, Outcome.mapM_eq_ok]

theorem Display.read_eq_ok_iff {v : Json} {d : Display} :
    Display.read v = .ok d ↔ v = .string d.text := by
  constructor
  · intro found
    obtain ⟨s, text, written⟩ := Outcome.bind_eq_ok.mp found
    rw [Json.readString_eq_ok_iff.mp text]
    rw [ofText] at written
    split_ifs at written with page popup touch wap
    · cases written
      rw [page]
      rfl
    · cases written
      rw [popup]
      rfl
    · cases written
      rw [touch]
      rfl
    · cases written
      rw [wap]
      rfl
  · rintro rfl
    cases d <;> rfl

theorem Display.eq_of_text_eq {d d' : Display} (same : d.text = d'.text) : d = d' := by
  have read : Display.read (.string d.text) = .ok d := Display.read_eq_ok_iff.mpr rfl
  have read' : Display.read (.string d.text) = .ok d' := Display.read_eq_ok_iff.mpr (by rw [same])
  exact Except.ok.inj (read.symm.trans read')

namespace Parameter

theorem displaysSupported_read_iff {v : Json} {displays : List Display} :
    displaysSupported.read v = .ok displays ↔
      v = .array (displays.map fun d => .string d.text) := by
  apply Json.readItems_eq_ok_iff.trans
  constructor
  · rintro ⟨items, rfl, read⟩
    exact congrArg _ ((Outcome.map_eq_ok_iff_eq_map fun _ _ => Display.read_eq_ok_iff).mp read)
  · rintro rfl
    exact ⟨_, rfl, (Outcome.map_eq_ok_iff_eq_map fun _ _ => Display.read_eq_ok_iff).mpr rfl⟩

/-! ## Values that are read again -/

theorem rereads_issuer {value : Json} {u : Url} (again : Url.parse u.text = .ok u)
    (read : issuer.read value = .ok u) : Rereads issuer u := by
  obtain ⟨found, _, checked⟩ := Outcome.bind_eq_ok.mp read
  obtain ⟨bare, done⟩ := Outcome.refused_eq_ok.mp checked
  cases done
  refine Outcome.bind_eq_ok.mpr ⟨u, Outcome.mapError_eq_ok.mpr again, ?_⟩
  exact Outcome.refused_eq_ok.mpr ⟨bare, rfl⟩

/-- Response types that were read from strings are read again. -/
theorem rereads_responseTypesSupported {items : List Json} {types : List ResponseType}
    (strings : ∀ item ∈ items, item.IsText)
    (read : responseTypesSupported.read (.array items) = .ok types) :
    Rereads responseTypesSupported types := by
  have each : items.map ResponseType.read = types.map .ok := Outcome.mapM_eq_ok.mp read
  refine Json.readItems_eq_ok_iff.mpr ⟨types.map responseType.write, rfl, ?_⟩
  rw [List.map_map]
  refine List.map_congr_left fun t member => ?_
  obtain ⟨item, among, itemRead⟩ := Outcome.exists_item_of_mem each member
  obtain ⟨s, rfl⟩ := strings item among
  exact rereads_responseType (worded_responseType itemRead)

theorem text_ofText_subjectType (s : String) : (SubjectType.ofText s).text = s := by
  unfold SubjectType.ofText
  split_ifs <;> simp_all [SubjectType.text]

theorem rereads_subjectTypesSupported {value : Json} {types : List SubjectType}
    (read : subjectTypesSupported.read value = .ok types) :
    Rereads subjectTypesSupported types := by
  obtain ⟨texts, _, rfl⟩ := Outcome.map_eq_ok.mp read
  refine Outcome.map_eq_ok.mpr ⟨texts, mapM_readString_eq_ok_iff.mpr ?_, rfl⟩
  rw [List.map_map]
  exact List.map_congr_left fun s _ => congrArg Json.string (text_ofText_subjectType s)

theorem rereads_texts (name : String) (l : List String) : Rereads (texts name) l :=
  mapM_readString_eq_ok_iff.mpr rfl

end Parameter

end OpenIdConnect
