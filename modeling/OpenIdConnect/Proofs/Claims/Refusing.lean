import OpenIdConnect.Proofs.Claims.Grammar

/-!
# Where claims requests are refused

A claims request is refused for one cause, which stands inside at most two faults that tell where it
was found: inside the claims, and inside the verified claims of a side.  The second of them is there
exactly when reading stops in verified claims, unless what they lack is only a claim to ask for.
-/

namespace OpenIdConnect

namespace Claims

open Outcome

namespace Fault

/-- The fault says what is wrong, and not only where. -/
def IsCause : Fault → Prop
  | inClaims _ | inVerifiedClaims _ => False
  | _ => True

/-- The fault says what is wrong, and that is not that nothing is asked for. -/
def IsOrdinary : Fault → Prop
  | inClaims _ | inVerifiedClaims _ | nothingToVerify => False
  | _ => True

theorem root_of_isCause {f : Fault} (cause : f.IsCause) : f.root = f := by
  cases f with
  | inClaims f => cases cause
  | inVerifiedClaims f => cases cause
  | _ => rfl

theorem IsOrdinary.isCause {f : Fault} (ordinary : f.IsOrdinary) : f.IsCause := by
  cases f with
  | inClaims f => cases ordinary
  | inVerifiedClaims f => cases ordinary
  | _ => trivial

end Fault

/-! ## Single claims -/

namespace Individual

theorem failsWith_readNecessity (claim : String) (v : Option Json) :
    FailsWith Fault.IsOrdinary (readNecessity claim v) := by
  unfold readNecessity
  split
  · exact failsWith_ok _
  · exact failsWith_ok _
  · exact failsWith_ok _
  · exact failsWith_error trivial

theorem failsWith_readPurpose (claim : String) (v : Option Json) :
    FailsWith Fault.IsOrdinary (readPurpose claim v) := by
  unfold readPurpose
  split
  · exact failsWith_ok _
  · exact failsWith_ok _
  · exact failsWith_error trivial

theorem failsWith_readValues (claim : String) (v : Option Json) :
    FailsWith Fault.IsOrdinary (readValues claim v) := by
  unfold readValues
  split
  · exact failsWith_ok _
  · exact failsWith_ok _
  · exact failsWith_error trivial

theorem failsWith_readConstraint (claim : String) (v : Option Json) (vs : Option (List Json)) :
    FailsWith Fault.IsOrdinary (readConstraint claim v vs) := by
  unfold readConstraint
  split
  · exact failsWith_ok _
  · exact failsWith_ok _
  · exact failsWith_ok _
  · exact failsWith_error trivial

theorem failsWith_parse (key : String) (spec : Json) :
    FailsWith Fault.IsOrdinary (parse key spec) := by
  unfold parse
  refine failsWith_refused trivial ?_
  cases spec with
  | null => exact failsWith_ok _
  | object members =>
      refine failsWith_bind (failsWith_readNecessity _ _) fun necessity _ => ?_
      refine failsWith_bind (failsWith_readPurpose _ _) fun purpose _ => ?_
      refine failsWith_bind (failsWith_readValues _ _) fun values _ => ?_
      refine failsWith_bind (failsWith_readConstraint _ _ _) fun constraint _ => ?_
      exact failsWith_ok _
  | _ => exact failsWith_error trivial

end Individual

namespace Selection

theorem failsWith_parseMembers (s : Selection) (members : List (String × Json)) :
    FailsWith Fault.IsOrdinary (parseMembers s members) := by
  induction members generalizing s with
  | nil => exact failsWith_ok s
  | cons m rest ih =>
      obtain ⟨name, spec⟩ := m
      unfold parseMembers
      split
      · exact ih s
      · exact failsWith_bind (Individual.failsWith_parse name spec) fun c _ => ih (s.insert c)

theorem failsWith_parse (o : Object) : FailsWith Fault.IsOrdinary (parse o) :=
  failsWith_parseMembers empty o.members

end Selection

/-! ## Verified claims -/

/-- A verification without claims to ask for: they are missing, null or name no claim. -/
structure AsksNothing (o : Object) : Prop where
  verification : ∃ v, o.get? "verification" = some v ∧ ∃ p, v.object? = some p
  claims : ∀ v, o.get? "claims" = some v → v = .null ∨ ∃ p, v.object? = some p ∧ ¬AsksClaim p

/-- The first request for verified claims that is refused is one that asks for nothing. -/
inductive StopsAskingNothing : Json → Prop where
  | one {v : Json} {o : Object} (object : v.object? = some o) (nothing : AsksNothing o) :
      StopsAskingNothing v
  | list {before after : List Json} {v : Json} {o : Object}
      (each : ∀ w ∈ before, ∃ p, w.object? = some p ∧ IsVerified p)
      (object : v.object? = some o) (nothing : AsksNothing o) :
      StopsAskingNothing (.array (before ++ v :: after))

namespace Verified

theorem failsWith_readVerification (v : Option Json) :
    FailsWith Fault.IsOrdinary (readVerification v) := by
  unfold readVerification
  split
  · exact failsWith_ok _
  · exact failsWith_error trivial
  · exact failsWith_error trivial

theorem failsWith_readClaims (v : Option Json) : FailsWith Fault.IsOrdinary (readClaims v) := by
  unfold readClaims
  split
  · exact Selection.failsWith_parse _
  · exact failsWith_ok _
  · exact failsWith_ok _
  · exact failsWith_error trivial

theorem failsWith_parse (o : Object) : FailsWith Fault.IsCause (parse o) := by
  unfold parse
  refine failsWith_refused trivial ?_
  have verification := (failsWith_readVerification (o.get? "verification")).mono
    fun _ => Fault.IsOrdinary.isCause
  have claims := (failsWith_readClaims (o.get? "claims")).mono fun _ => Fault.IsOrdinary.isCause
  refine failsWith_bind verification fun p _ => ?_
  refine failsWith_bind claims fun s _ => ?_
  exact failsWith_refused trivial (failsWith_ok _)

/-- No claims are read where they are missing, null or name no claim. -/
theorem exists_readClaims_empty_iff {v : Option Json} :
    (∃ s, readClaims v = .ok s ∧ s.isEmpty = true) ↔
      ∀ w, v = some w → w = .null ∨ ∃ p, w.object? = some p ∧ ¬AsksClaim p := by
  constructor
  · rintro ⟨s, read, nothing⟩ w rfl
    cases w with
    | null => exact .inl rfl
    | object members =>
        refine .inr ⟨_, rfl, fun asks => ?_⟩
        rw [(Selection.isEmpty_of_parse read).mpr asks] at nothing
        cases nothing
    | _ => cases read
  · intro idle
    cases v with
    | none => exact ⟨.empty, rfl, rfl⟩
    | some w =>
        rcases idle w rfl with rfl | ⟨p, object, nothing⟩
        · exact ⟨.empty, rfl, rfl⟩
        · obtain ⟨members, rfl, rfl⟩ := Json.object?_eq_some_iff.mp object
          have isClaims : IsClaims (.ofList members) := fun name spec there other =>
            absurd ⟨name, spec, there, other⟩ nothing
          obtain ⟨s, read⟩ := Selection.exists_parse_iff.mpr isClaims
          refine ⟨s, read, ?_⟩
          rw [← Bool.not_eq_false, Selection.isEmpty_of_parse read]
          exact nothing

theorem parse_eq_nothing_iff {o : Object} : parse o = .error .nothingToVerify ↔ AsksNothing o := by
  unfold parse
  rw [refused_eq_error, bind_eq_error]
  constructor
  · rintro (⟨_, impossible⟩ | ⟨_, failed | ⟨p, verification, failed⟩⟩)
    · cases impossible
    · cases failsWith_readVerification _ _ failed
    · rcases bind_eq_error.mp failed with failed | ⟨s, claims, failed⟩
      · cases failsWith_readClaims _ _ failed
      · rcases refused_eq_error.mp failed with ⟨nothing, _⟩ | ⟨_, impossible⟩
        · obtain ⟨v, there, object⟩ := readVerification_eq_ok_iff.mp verification
          exact ⟨⟨v, there, p, object⟩, exists_readClaims_empty_iff.mp ⟨s, claims, nothing⟩⟩
        · cases impossible
  · rintro ⟨⟨v, there, p, object⟩, idle⟩
    obtain ⟨s, claims, nothing⟩ := exists_readClaims_empty_iff.mpr idle
    refine .inr ⟨?_, .inr ⟨p, readVerification_eq_ok_iff.mpr ⟨v, there, object⟩, ?_⟩⟩
    · rw [Object.isEmpty_iff]
      intro absent
      rw [absent] at there
      cases there
    · refine bind_eq_error.mpr (.inr ⟨s, claims, ?_⟩)
      exact refused_eq_error.mpr (.inl ⟨nothing, rfl⟩)

theorem failsWith_parseElement (v : Json) : FailsWith Fault.IsCause (parseElement v) := by
  cases v with
  | object members => exact failsWith_parse _
  | _ => exact failsWith_error trivial

theorem parseElement_eq_nothing_iff {v : Json} :
    parseElement v = .error .nothingToVerify ↔ ∃ o, v.object? = some o ∧ AsksNothing o := by
  cases v <;> simp [parseElement, Json.object?, parse_eq_nothing_iff]

theorem failsWith_parseAll (v : Json) : FailsWith Fault.IsCause (parseAll v) := by
  intro f failed
  unfold parseAll at failed
  split at failed
  · exact failsWith_parse _ f (map_eq_error.mp failed)
  · cases failed
    trivial
  · obtain ⟨_, v, _, _, _, failed⟩ := mapM_eq_error.mp failed
    exact failsWith_parseElement v f failed
  · cases failed
    trivial

theorem parseAll_eq_nothing_iff {v : Json} :
    parseAll v = .error .nothingToVerify ↔ StopsAskingNothing v := by
  constructor
  · intro failed
    unfold parseAll at failed
    split at failed
    · exact .one rfl (parse_eq_nothing_iff.mp (map_eq_error.mp failed))
    · cases failed
    · obtain ⟨before, v, after, rfl, each, failed⟩ := mapM_eq_error.mp failed
      obtain ⟨o, object, nothing⟩ := parseElement_eq_nothing_iff.mp failed
      exact .list (fun w member => exists_parseElement_iff.mp (each w member)) object nothing
    · cases failed
  · intro stops
    cases stops with
    | one object nothing =>
        obtain ⟨members, rfl, rfl⟩ := Json.object?_eq_some_iff.mp object
        exact map_eq_error.mpr (parse_eq_nothing_iff.mpr nothing)
    | @list before after v o each object nothing =>
        have failed : (before ++ v :: after).mapM parseElement = .error .nothingToVerify := by
          refine mapM_eq_error.mpr ⟨before, v, after, rfl, ?_, ?_⟩
          · exact fun w member => exists_parseElement_iff.mpr (each w member)
          · exact parseElement_eq_nothing_iff.mpr ⟨o, object, nothing⟩
        cases before <;> exact failed

/-- Verified claims that are refused tell where the cause is, unless they only ask for nothing. -/
theorem exists_parseList_eq_error {v : Json} (refused : ¬AreVerified v) :
    (StopsAskingNothing v ∧ parseList v = .error .nothingToVerify) ∨
      ¬StopsAskingNothing v ∧
        ∃ cause : Fault, cause.IsCause ∧ parseList v = .error (.inVerifiedClaims cause) := by
  cases result : parseAll v with
  | ok vs =>
      have read : parseList v = .ok vs := mapError_eq_ok.mpr result
      exact absurd (exists_parseList_iff.mp ⟨vs, read⟩) refused
  | error cause =>
      have located : parseList v = .error (located cause) :=
        mapError_eq_error.mpr ⟨cause, result, rfl⟩
      by_cases nothing : cause = .nothingToVerify
      · subst nothing
        exact .inl ⟨parseAll_eq_nothing_iff.mp result, located⟩
      · refine .inr ⟨fun stops => ?_, cause, failsWith_parseAll v cause result, ?_⟩
        · rw [parseAll_eq_nothing_iff.mpr stops] at result
          cases result
          exact nothing rfl
        · rw [located]
          cases cause with
          | nothingToVerify => exact absurd rfl nothing
          | _ => rfl

end Verified

/-! ## Where reading stops -/

/-- The claims of a side are fine, but its verified claims are refused. -/
structure Side.StopsAt (o : Object) (w : Json) : Prop where
  claims : IsClaims o
  there : o.get? Selection.verifiedMember = some w
  refused : ¬AreVerified w

/-- The side of a name stops at verified claims. -/
def Side.StopsIn (name : String) (o : Object) (w : Json) : Prop :=
  ∃ v, o.get? name = some v ∧ ∃ p, v.object? = some p ∧ Side.StopsAt p w

/-- Reading stops in the verified claims of the first side, or of the second when that is fine. -/
inductive Request.StopsAt (o : Object) (w : Json) : Prop where
  | idToken (stops : Side.StopsIn "id_token" o w)
  | userinfo (idToken : ∀ v, o.get? "id_token" = some v → ∃ p, v.object? = some p ∧ IsSide p)
      (stops : Side.StopsIn "userinfo" o w)

/-- Reading a value stops in these verified claims. -/
def Request.StopsIn (v w : Json) : Prop :=
  ∃ u, Denotes v u ∧ ∃ o, u.object? = some o ∧ Request.StopsAt o w

theorem Request.StopsIn.refused {v w : Json} (stops : Request.StopsIn v w) : ¬AreVerified w := by
  obtain ⟨_, _, _, _, ⟨_, _, _, _, side⟩ | ⟨_, _, _, _, _, side⟩⟩ := stops
  · exact side.refused
  · exact side.refused

namespace Side

theorem read_of_stopsIn {name : String} {o : Object} {w : Json} {f : Fault}
    (stops : StopsIn name o w) (failed : Verified.parseList w = .error f) :
    read name (o.get? name) = .error f := by
  obtain ⟨v, found, p, object, claims, there, _⟩ := stops
  obtain ⟨members, rfl, rfl⟩ := Json.object?_eq_some_iff.mp object
  obtain ⟨s, selected⟩ := Selection.exists_parse_iff.mpr claims
  rw [found]
  refine bind_eq_error.mpr (.inr ⟨s, selected, bind_eq_error.mpr (.inl ?_)⟩)
  rw [there]
  exact failed

theorem exists_refused_of_readVerified {v : Option Json} {f : Fault}
    (failed : readVerified v = .error f) : ∃ w, v = some w ∧ ¬AreVerified w := by
  cases v with
  | none => cases failed
  | some w =>
      refine ⟨w, rfl, fun verified => ?_⟩
      obtain ⟨vs, read⟩ := Verified.exists_parseList_iff.mpr verified
      exact nomatch failed.symm.trans read

theorem isOrdinary_or_stopsIn {name : String} {o : Object} {f : Fault}
    (failed : read name (o.get? name) = .error f) : f.IsOrdinary ∨ ∃ w, StopsIn name o w := by
  cases found : o.get? name with
  | none =>
      rw [found] at failed
      cases failed
  | some v =>
      rw [found] at failed
      cases v with
      | object members =>
          rcases bind_eq_error.mp failed with failed | ⟨s, selected, failed⟩
          · exact .inl (Selection.failsWith_parse _ f failed)
          · rcases bind_eq_error.mp failed with failed | ⟨vs, _, impossible⟩
            · obtain ⟨w, there, refused⟩ := exists_refused_of_readVerified failed
              have claims := Selection.exists_parse_iff.mp ⟨s, selected⟩
              exact .inr ⟨w, .object members, found, _, rfl, claims, there, refused⟩
            · cases impossible
      | _ =>
          cases failed
          exact .inl trivial

end Side

namespace Request

theorem parseObject_of_stopsAt {v w : Json} {o : Object} {f : Fault} (object : v.object? = some o)
    (stops : StopsAt o w) (failed : Verified.parseList w = .error f) :
    parseObject v = .error f := by
  obtain ⟨members, rfl, rfl⟩ := Json.object?_eq_some_iff.mp object
  refine bind_eq_error.mpr ?_
  cases stops with
  | idToken stops => exact .inl (Side.read_of_stopsIn stops failed)
  | userinfo fine stops =>
      obtain ⟨idToken, read⟩ := Side.exists_read_iff.mpr fine
      exact .inr ⟨idToken, read, bind_eq_error.mpr (.inl (Side.read_of_stopsIn stops failed))⟩

theorem isOrdinary_or_stopsAt {v : Json} {f : Fault} (failed : parseObject v = .error f) :
    f.IsOrdinary ∨ ∃ w o, v.object? = some o ∧ StopsAt o w := by
  cases v with
  | object members =>
      rcases bind_eq_error.mp failed with failed | ⟨idToken, read, failed⟩
      · rcases Side.isOrdinary_or_stopsIn failed with ordinary | ⟨w, stops⟩
        · exact .inl ordinary
        · exact .inr ⟨w, _, rfl, .idToken stops⟩
      · rcases bind_eq_error.mp failed with failed | ⟨userinfo, _, impossible⟩
        · rcases Side.isOrdinary_or_stopsIn failed with ordinary | ⟨w, stops⟩
          · exact .inl ordinary
          · exact .inr ⟨w, _, rfl, .userinfo (Side.exists_read_iff.mp ⟨idToken, read⟩) stops⟩
        · cases impossible
  | _ =>
      cases failed
      exact .inl trivial

theorem parse_of_stopsIn {v w : Json} {f : Fault} (stops : StopsIn v w)
    (failed : Verified.parseList w = .error f) : parse v = .error (.inClaims f) := by
  obtain ⟨u, denotes, o, object, stops⟩ := stops
  refine mapError_eq_error.mpr ⟨f, ?_, rfl⟩
  refine bind_eq_error.mpr (.inr ⟨u, unwrap_bound_eq_ok_iff.mpr denotes, ?_⟩)
  exact parseObject_of_stopsAt object stops failed

/-- A fault that is not an ordinary one has been found in verified claims. -/
theorem isOrdinary_or_stopsIn {v : Json} {f : Fault} (failed : parse v = .error f) :
    ∃ g, f = .inClaims g ∧ (g.IsOrdinary ∨ ∃ w, StopsIn v w) := by
  obtain ⟨n, u, outcome, unwraps, ends, made⟩ := exists_outcome v
  rw [made] at failed
  obtain ⟨g, answered, rfl⟩ := mapError_eq_error.mp failed
  refine ⟨g, rfl, ?_⟩
  cases ends with
  | value plain =>
      rcases isOrdinary_or_stopsAt answered with ordinary | ⟨w, o, object, stops⟩
      · exact .inl ordinary
      · exact .inr ⟨w, u, unwraps.denotes plain, o, object, stops⟩
  | text read =>
      cases answered
      exact .inl trivial

/-- What is told of verified claims that reading stops in. -/
theorem fault_of_stopsIn {v w : Json} {f : Fault} (stops : StopsIn v w)
    (failed : parse v = .error f) :
    (StopsAskingNothing w ∧ f = .inClaims .nothingToVerify) ∨
      ¬StopsAskingNothing w ∧
        ∃ cause : Fault, cause.IsCause ∧ f = .inClaims (.inVerifiedClaims cause) := by
  rcases Verified.exists_parseList_eq_error stops.refused with
    ⟨nothing, located⟩ | ⟨something, cause, isCause, located⟩
  · rw [parse_of_stopsIn stops located] at failed
    cases failed
    exact .inl ⟨nothing, rfl⟩
  · rw [parse_of_stopsIn stops located] at failed
    cases failed
    exact .inr ⟨something, cause, isCause, rfl⟩

/--
A refusal tells one cause, inside the claims and at most once more inside verified claims.  It tells
of verified claims when reading stops in them, but for those that only ask for nothing.
-/
theorem refused_where_it_stops {v : Json} {f : Fault} (refused : parse v = .error f) :
    f.root.IsCause ∧
    (f = .inClaims f.root ∨ f = .inClaims (.inVerifiedClaims f.root)) ∧
    (f = .inClaims (.inVerifiedClaims f.root) ↔ ∃ w, StopsIn v w ∧ ¬StopsAskingNothing w) ∧
    (f = .inClaims .nothingToVerify ↔ ∃ w, StopsIn v w ∧ StopsAskingNothing w) := by
  have told := fun w (stops : StopsIn v w) => fault_of_stopsIn stops refused
  obtain ⟨g, rfl, ordinary | ⟨w, stops⟩⟩ := isOrdinary_or_stopsIn refused
  · have elsewhere : ∀ w, ¬StopsIn v w := by
      intro w stops
      rcases told w stops with ⟨_, ⟨⟩⟩ | ⟨_, cause, _, ⟨⟩⟩
      · exact ordinary
      · exact ordinary
    have root : (Fault.inClaims g).root = g := Fault.root_of_isCause ordinary.isCause
    rw [root]
    refine ⟨ordinary.isCause, .inl rfl, iff_of_false ?_ ?_, iff_of_false ?_ ?_⟩
    · rintro ⟨⟩
    · rintro ⟨w, stops, _⟩
      exact elsewhere w stops
    · rintro ⟨⟩
      exact ordinary
    · rintro ⟨w, stops, _⟩
      exact elsewhere w stops
  · rcases told w stops with ⟨nothing, ⟨⟩⟩ | ⟨something, cause, isCause, ⟨⟩⟩
    · refine ⟨trivial, .inl rfl, iff_of_false ?_ ?_, iff_of_true rfl ⟨w, stops, nothing⟩⟩
      · rintro ⟨⟩
      · rintro ⟨w', stops', something⟩
        rcases told w' stops' with ⟨nothing', _⟩ | ⟨_, cause, _, ⟨⟩⟩
        exact something nothing'
    · have root : (Fault.inClaims (.inVerifiedClaims cause)).root = cause :=
        Fault.root_of_isCause isCause
      rw [root]
      refine ⟨isCause, .inr rfl, iff_of_true rfl ⟨w, stops, something⟩, iff_of_false ?_ ?_⟩
      · rintro ⟨⟩
      · rintro ⟨w', stops', nothing⟩
        rcases told w' stops' with ⟨_, ⟨⟩⟩ | ⟨something', _⟩
        exact something' nothing

/-- Verified claims requested from one side. -/
def fromSide (side : String) (verified : Json) : Json :=
  .object [(side, .object [(Selection.verifiedMember, verified)])]

/-- A value written as a string. -/
def quoted (v : Json) : Json :=
  .string v.compact

/-- The second of two requests for verified claims is empty. -/
def emptySecond : Json :=
  .array [.object [("claims", .object [("email", .null)]), ("verification", .object [])],
    .object []]

/-- The only claims asked for are verified claims once more. -/
def nestedOnly : Json :=
  .object [("claims", .object [(Selection.verifiedMember, .null)]), ("verification", .object [])]

set_option maxRecDepth 20000 in
theorem parse_emptySecond :
    parse (quoted (quoted (fromSide "userinfo" emptySecond))) =
      .error (.inClaims (.inVerifiedClaims .emptyVerifiedClaims)) := by
  with_unfolding_all rfl

theorem parse_nestedOnly :
    parse (fromSide "id_token" nestedOnly) = .error (.inClaims .nothingToVerify) := by
  with_unfolding_all rfl

theorem emptySecond_and_nestedOnly_located :
    (parse (quoted (quoted (fromSide "userinfo" emptySecond))) =
        .error (.inClaims (.inVerifiedClaims .emptyVerifiedClaims)) ∧
      ∃ w, StopsIn (quoted (quoted (fromSide "userinfo" emptySecond))) w ∧
        ¬StopsAskingNothing w) ∧
    parse (fromSide "id_token" nestedOnly) = .error (.inClaims .nothingToVerify) ∧
      ∃ w, StopsIn (fromSide "id_token" nestedOnly) w ∧ StopsAskingNothing w := by
  obtain ⟨_, _, inVerified, _⟩ := refused_where_it_stops parse_emptySecond
  obtain ⟨_, _, _, idle⟩ := refused_where_it_stops parse_nestedOnly
  exact ⟨⟨parse_emptySecond, inVerified.mp rfl⟩, parse_nestedOnly, idle.mp rfl⟩

end Request

end Claims

end OpenIdConnect
