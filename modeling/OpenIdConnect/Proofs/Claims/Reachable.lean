import OpenIdConnect.Proofs.Claims.Grammar

/-!
# Claims requests as they are made

The requests that clients and readers can make, one operation after the other.  Each of them is
valid: a selection holds one request for each key, and a side holds no selection that asks for
nothing.
-/

namespace OpenIdConnect

namespace Claims

/-! ## Making requests -/

/-- The requests for single claims that can be made. -/
inductive Individual.Reachable : Individual → Prop
  | named {name : String} {c : Individual} (made : Individual.named? name = some c) : Reachable c
  | setTag {c : Individual} {tag : Option LanguageTag} (before : Reachable c)
      (read : ∀ t, tag = some t → ∃ text, LanguageTag.parse text = .ok t) :
      Reachable (c.setTag tag)
  | setNecessity {c : Individual} (necessity : Necessity) (before : Reachable c) :
      Reachable (c.setNecessity necessity)
  | setValue {c : Individual} (v : Json) (before : Reachable c) : Reachable (c.setValue v)
  | setValues {c : Individual} (vs : List Json) (before : Reachable c) :
      Reachable (c.setValues vs)
  | setPurpose {c d : Individual} {purpose : String} (before : Reachable c)
      (made : c.setPurpose purpose = .ok d) : Reachable d
  | setDetails {c d : Individual} {details : Object} (before : Reachable c)
      (made : c.setDetails details = .ok d) : Reachable d
  | merge {c d : Individual} (first : Reachable c) (second : Reachable d) :
      Reachable (c.merge d)
  | parse {key : String} {spec : Json} {c : Individual}
      (made : Individual.parse key spec = .ok c) : Reachable c

theorem Individual.Reachable.ofName {name : String} (named : name ≠ "") :
    (ofKey ⟨name, none⟩).Reachable :=
  .named (named?_eq_some_iff.mpr ⟨named, rfl⟩)

/-- The selections that can be made. -/
inductive Selection.Reachable : Selection → Prop
  | empty : Reachable .empty
  | insert {s : Selection} {c : Individual} (before : Reachable s) (claim : c.Reachable) :
      Reachable (s.insert c)
  | erase {s : Selection} (key : Key) (before : Reachable s) : Reachable (s.erase key)
  | insertNames {s t : Selection} {names : List String} (before : Reachable s)
      (made : s.insertNames? names = some t) : Reachable t
  | merge {s t : Selection} (first : Reachable s) (second : Reachable t) : Reachable (s.merge t)
  | ofScope {scope : Scope} {defined : ScopeClaims} {s : Selection}
      (made : Selection.ofScope? scope defined = some s) : Reachable s
  | parse {o : Object} {s : Selection} (made : Selection.parse o = .ok s) : Reachable s

/-- The claims requests that can be made. -/
inductive Request.Reachable : Request → Prop
  | empty : Reachable .empty
  | setIdToken {r : Request} {claims : Selection} (before : Reachable r)
      (selection : claims.Reachable) : Reachable (r.setIdToken claims)
  | setUserinfo {r : Request} {claims : Selection} (before : Reachable r)
      (selection : claims.Reachable) : Reachable (r.setUserinfo claims)
  | addIdTokenVerified {r r' : Request} {v : Verified} (before : Reachable r)
      (selection : v.claims.Reachable) (made : r.addIdTokenVerified v = .ok r') : Reachable r'
  | addUserinfoVerified {r r' : Request} {v : Verified} (before : Reachable r)
      (selection : v.claims.Reachable) (made : r.addUserinfoVerified v = .ok r') : Reachable r'
  | add {r other : Request} (first : Reachable r) (second : Reachable other) :
      Reachable (r.add other)
  | parse {v : Json} {r : Request} (made : Request.parse v = .ok r) : Reachable r
  | resolve {responseType : ResponseType} {scope : Option Scope} {explicit : Option Request}
      {defined : ScopeClaims} {r : Request} (before : ∀ e, explicit = some e → Reachable e)
      (made : Request.resolve? responseType scope explicit defined = some r) : Reachable r

/-! ## Single claims and selections -/

theorem Individual.Reachable.valid {c : Individual} (reachable : c.Reachable) : c.Valid := by
  induction reachable with
  | named made => exact Individual.valid_named? made
  | setTag _ read valid =>
      refine valid.setTag ?_
      intro t isTag
      obtain ⟨text, parsed⟩ := read t isTag
      exact LanguageTag.canonical_of_parse parsed
  | setNecessity necessity _ valid => exact valid.setNecessity necessity
  | setValue v _ valid => exact valid.setValue v
  | setValues vs _ valid => exact valid.setValues vs
  | setPurpose _ made valid => exact valid.setPurpose made
  | setDetails _ made valid => exact valid.setDetails made
  | merge _ _ first second => exact first.merge second
  | parse made => exact (Individual.valid_of_parse made).1

theorem Selection.Reachable.valid {s : Selection} (reachable : s.Reachable) : s.Valid := by
  induction reachable with
  | empty => exact Selection.valid_empty
  | insert _ claim valid => exact valid.insert claim.valid
  | erase key _ valid => exact valid.erase key
  | insertNames _ made valid => exact valid.insertNames? made
  | merge _ _ first second => exact first.merge second
  | ofScope made => exact Selection.Valid.ofScope? made
  | parse made => exact (Selection.valid_of_parse made).1

/-- Requests that can be made, listed in any order, make a selection. -/
theorem Selection.Reachable.foldl_insert {s : Selection} {claims : List Individual}
    (reachable : s.Reachable) (each : ∀ c ∈ claims, c.Reachable) :
    (claims.foldl Selection.insert s).Reachable := by
  induction claims generalizing s with
  | nil => exact reachable
  | cons c claims ih =>
      obtain ⟨here, others⟩ := List.forall_mem_cons.mp each
      exact ih (.insert reachable here) others

/-! ## Verified claims -/

namespace Verified

/-- A request for verified claims that asks for some claim. -/
structure Valid (v : Verified) : Prop where
  claims : v.claims.Valid
  asks : v.claims.isEmpty = false

theorem get?_members_claims (v : Verified) :
    v.members.get? "claims" = some v.claims.toObject.toJson := by
  rw [members, Object.get?_insert, if_pos rfl]

/-- What is read as a request for verified claims asks for a selection that was read. -/
theorem exists_selection_of_parse {o : Object} {v : Verified} (read : parse o = .ok v) :
    (∃ p, Selection.parse p = .ok v.claims) ∧ v.claims.isEmpty = false := by
  obtain ⟨_, claimsRead, asks⟩ := parse_eq_ok_iff.mp read
  obtain ⟨_, _, p, _, selected⟩ := (readClaims_eq_ok_iff asks).mp claimsRead
  exact ⟨⟨p, selected⟩, asks⟩

theorem valid_of_parse {o : Object} {v : Verified} (read : parse o = .ok v) :
    v.Valid ∧ v.claims.Unambiguous := by
  obtain ⟨⟨p, selected⟩, asks⟩ := exists_selection_of_parse read
  obtain ⟨valid, unambiguous⟩ := Selection.valid_of_parse selected
  exact ⟨⟨valid, asks⟩, unambiguous⟩

theorem exists_parse_of_parseElement {value : Json} {v : Verified}
    (read : parseElement value = .ok v) : ∃ o, parse o = .ok v := by
  cases value with
  | object members => exact ⟨.ofList members, read⟩
  | null => cases read
  | bool b => cases read
  | number n => cases read
  | string s => cases read
  | array items => cases read

/-- Each request for verified claims is read from an object of its own. -/
theorem exists_parse_of_parseList {value : Json} {vs : List Verified}
    (read : parseList value = .ok vs) : ∀ v ∈ vs, ∃ o, parse o = .ok v := by
  have all := Outcome.mapError_eq_ok.mp read
  intro v member
  cases value with
  | object members =>
      obtain ⟨w, parsed, rfl⟩ := Outcome.map_eq_ok.mp all
      rw [List.mem_singleton.mp member]
      exact ⟨.ofList members, parsed⟩
  | array items =>
      cases items with
      | nil => cases all
      | cons first others =>
          have results := Outcome.mapM_eq_ok.mp all
          obtain ⟨element, _, parsed⟩ := Outcome.exists_item_of_mem results member
          exact exists_parse_of_parseElement parsed
  | null => cases all
  | bool b => cases all
  | number n => cases all
  | string s => cases all

theorem valid_of_parseList {value : Json} {vs : List Verified} (read : parseList value = .ok vs) :
    ∀ v ∈ vs, v.Valid ∧ v.claims.Unambiguous := by
  intro v member
  obtain ⟨o, parsed⟩ := exists_parse_of_parseList read v member
  exact valid_of_parse parsed

end Verified

/-! ## Sides -/

namespace Side

/-- A side whose selections all ask for some claim. -/
structure Valid (s : Side) : Prop where
  plain : ∀ claims, s.plain = some claims → claims.Valid ∧ claims.isEmpty = false
  verified : ∀ v ∈ s.verified, v.Valid

/-- Every key of the side can be told from its text. -/
structure Unambiguous (s : Side) : Prop where
  plain : ∀ claims, s.plain = some claims → claims.Unambiguous
  verified : ∀ v ∈ s.verified, v.claims.Unambiguous

theorem valid_empty : empty.Valid := by
  constructor
  · intro claims impossible
    cases impossible
  · intro v impossible
    cases impossible

theorem unambiguous_empty : empty.Unambiguous := by
  constructor
  · intro claims impossible
    cases impossible
  · intro v impossible
    cases impossible

theorem plain_setPlain {s : Side} {claims kept : Selection}
    (present : (s.setPlain claims).plain = some kept) :
    kept = claims ∧ claims.isEmpty = false := by
  change (if claims.isEmpty then none else some claims) = some kept at present
  split at present
  · cases present
  · next asks =>
      cases present
      exact ⟨rfl, by simpa using asks⟩

namespace Valid

variable {s other : Side}

theorem setPlain (valid : s.Valid) {claims : Selection} (claimsValid : claims.Valid) :
    (s.setPlain claims).Valid := by
  refine ⟨?_, valid.verified⟩
  intro kept present
  obtain ⟨rfl, asks⟩ := plain_setPlain present
  exact ⟨claimsValid, asks⟩

theorem addVerified (valid : s.Valid) {v : Verified} (claimsValid : v.claims.Valid)
    (made : s.addVerified v = .ok other) : other.Valid := by
  unfold Side.addVerified at made
  split at made
  · cases made
  · next asks =>
      cases made
      refine ⟨valid.plain, ?_⟩
      intro w member
      rcases List.mem_append.mp member with old | new
      · exact valid.verified w old
      · rw [List.mem_singleton.mp new]
        exact ⟨claimsValid, by simpa using asks⟩

theorem add (valid : s.Valid) (otherValid : other.Valid) : (s.add other).Valid := by
  constructor
  · intro claims present
    change mergePlain s.plain other.plain = some claims at present
    cases first : s.plain with
    | none =>
        cases second : other.plain with
        | none =>
            rw [first, second] at present
            cases present
        | some more =>
            rw [first, second] at present
            cases present
            exact otherValid.plain _ second
    | some base =>
        cases second : other.plain with
        | none =>
            rw [first, second] at present
            cases present
            exact valid.plain _ first
        | some more =>
            rw [first, second] at present
            cases present
            obtain ⟨baseValid, asks⟩ := valid.plain base first
            refine ⟨baseValid.merge (otherValid.plain more second).1, ?_⟩
            exact Selection.isEmpty_merge asks more
  · intro v member
    rcases List.mem_append.mp member with old | new
    · exact valid.verified v old
    · exact otherValid.verified v new

end Valid

theorem valid_of_parse {name : String} {value : Json} {s : Side}
    (read : parse name value = .ok s) : s.Valid ∧ s.Unambiguous := by
  cases value with
  | object members =>
      obtain ⟨claims, claimsRead, read⟩ := Outcome.bind_eq_ok.mp read
      obtain ⟨verified, verifiedRead, done⟩ := Outcome.bind_eq_ok.mp read
      cases done
      obtain ⟨claimsValid, claimsUnambiguous⟩ := Selection.valid_of_parse claimsRead
      have each : ∀ v ∈ verified, v.Valid ∧ v.claims.Unambiguous := by
        cases member : (Object.ofList members).get? Selection.verifiedMember with
        | none =>
            rw [member] at verifiedRead
            cases verifiedRead
            intro v impossible
            cases impossible
        | some value =>
            rw [member] at verifiedRead
            exact Verified.valid_of_parseList verifiedRead
      refine ⟨⟨?_, fun v member => (each v member).1⟩, ⟨?_, fun v member => (each v member).2⟩⟩
      · intro kept present
        obtain ⟨rfl, asks⟩ := plain_setPlain (s := .empty) present
        exact ⟨claimsValid, asks⟩
      · intro kept present
        obtain ⟨rfl, _⟩ := plain_setPlain (s := .empty) present
        exact claimsUnambiguous
  | null => cases read
  | bool b => cases read
  | number n => cases read
  | string s => cases read
  | array items => cases read

theorem valid_of_read {name : String} {value : Option Json} {s : Side}
    (read : Side.read name value = .ok s) : s.Valid ∧ s.Unambiguous := by
  cases value with
  | none =>
      cases read
      exact ⟨valid_empty, unambiguous_empty⟩
  | some value => exact valid_of_parse read

end Side

/-! ## Requests -/

namespace Request

/-- A request whose sides are valid. -/
structure Valid (r : Request) : Prop where
  idToken : r.idToken.Valid
  userinfo : r.userinfo.Valid

/-- Every key of the request can be told from its text. -/
structure Unambiguous (r : Request) : Prop where
  idToken : r.idToken.Unambiguous
  userinfo : r.userinfo.Unambiguous

theorem valid_empty : empty.Valid :=
  ⟨Side.valid_empty, Side.valid_empty⟩

/-- What is read is valid, and can be told from its written form. -/
theorem valid_of_parse {v : Json} {r : Request} (read : parse v = .ok r) :
    r.Valid ∧ r.Unambiguous := by
  obtain ⟨value, _, read⟩ := Outcome.bind_eq_ok.mp (Outcome.mapError_eq_ok.mp read)
  cases value with
  | object members =>
      obtain ⟨idToken, idTokenRead, read⟩ := Outcome.bind_eq_ok.mp read
      obtain ⟨userinfo, userinfoRead, done⟩ := Outcome.bind_eq_ok.mp read
      cases done
      obtain ⟨firstValid, firstUnambiguous⟩ := Side.valid_of_read idTokenRead
      obtain ⟨secondValid, secondUnambiguous⟩ := Side.valid_of_read userinfoRead
      exact ⟨⟨firstValid, secondValid⟩, ⟨firstUnambiguous, secondUnambiguous⟩⟩
  | null => cases read
  | bool b => cases read
  | number n => cases read
  | string s => cases read
  | array items => cases read

namespace Valid

variable {r other : Request}

theorem add (valid : r.Valid) (otherValid : other.Valid) : (r.add other).Valid :=
  ⟨valid.idToken.add otherValid.idToken, valid.userinfo.add otherValid.userinfo⟩

theorem setIdToken (valid : r.Valid) {claims : Selection} (claimsValid : claims.Valid) :
    (r.setIdToken claims).Valid :=
  ⟨valid.idToken.setPlain claimsValid, valid.userinfo⟩

theorem setUserinfo (valid : r.Valid) {claims : Selection} (claimsValid : claims.Valid) :
    (r.setUserinfo claims).Valid :=
  ⟨valid.idToken, valid.userinfo.setPlain claimsValid⟩

theorem ofScope? {responseType : ResponseType} {scope : Scope} {defined : ScopeClaims}
    (made : Request.ofScope? responseType scope defined = some r) : r.Valid := by
  obtain ⟨claims, selected, rfl⟩ := Option.map_eq_some_iff.mp made
  have claimsValid := Selection.Valid.ofScope? selected
  split
  · exact valid_empty.setIdToken claimsValid
  · exact valid_empty.setUserinfo claimsValid

theorem resolve? {responseType : ResponseType} {scope : Option Scope}
    {explicit : Option Request} {defined : ScopeClaims}
    (explicitValid : ∀ e, explicit = some e → e.Valid)
    (made : Request.resolve? responseType scope explicit defined = some r) : r.Valid := by
  unfold Request.resolve? at made
  split at made
  · obtain ⟨implied, selected, rfl⟩ := Option.map_eq_some_iff.mp made
    have impliedValid := Valid.ofScope? selected
    cases explicit with
    | none => exact impliedValid
    | some e => exact impliedValid.add (explicitValid e rfl)
  · cases made
    exact valid_empty

end Valid

theorem Reachable.valid {r : Request} (reachable : r.Reachable) : r.Valid := by
  induction reachable with
  | empty => exact valid_empty
  | setIdToken _ selection valid => exact valid.setIdToken selection.valid
  | setUserinfo _ selection valid => exact valid.setUserinfo selection.valid
  | addIdTokenVerified _ selection made valid =>
      obtain ⟨side, added, rfl⟩ := Outcome.map_eq_ok.mp made
      exact ⟨valid.idToken.addVerified selection.valid added, valid.userinfo⟩
  | addUserinfoVerified _ selection made valid =>
      obtain ⟨side, added, rfl⟩ := Outcome.map_eq_ok.mp made
      exact ⟨valid.idToken, valid.userinfo.addVerified selection.valid added⟩
  | add _ _ first second => exact first.add second
  | parse made => exact (valid_of_parse made).1
  | resolve _ made valid => exact Valid.resolve? valid made

end Request

end Claims

end OpenIdConnect
