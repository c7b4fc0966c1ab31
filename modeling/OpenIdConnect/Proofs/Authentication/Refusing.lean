import OpenIdConnect.Proofs.Authentication.Reading

/-!
# What refusals tell

Parameters are refused as a request that is not well-formed, wherever reading them stops, and the
refusal tells all that they say of the client.  So it can be returned to the client as soon as
the parameters say where to and how.
-/

namespace OpenIdConnect

namespace Object

variable {α : Type} {o : Object} {p : Parameter α}

/-- The value of a parameter, if it is there and can be read. -/
def value? (o : Object) (p : Parameter α) : Option α :=
  match o.read? p with
  | some (.ok value) => some value
  | _ => none

/-- Is a parameter there that cannot be read? -/
def isGarbled (o : Object) (p : Parameter α) : Bool :=
  match o.read? p with
  | some (.error _) => true
  | _ => false

theorem value?_of_read {value : Option α} (read : o.read? p = value.map .ok) :
    o.value? p = value := by
  rw [value?, read]
  cases value <;> rfl

theorem isGarbled_of_read {value : Option α} (read : o.read? p = value.map .ok) :
    o.isGarbled p = false := by
  rw [isGarbled, read]
  cases value <;> rfl

theorem value?_of_garbled (garbled : o.isGarbled p = true) : o.value? p = none := by
  rw [isGarbled] at garbled
  rw [value?]
  cases read : o.read? p with
  | none => rfl
  | some result =>
      cases result with
      | error cause => rfl
      | ok value =>
          rw [read] at garbled
          cases garbled

end Object

namespace Requester

variable {α β : Type} {known : Requester} {params : Object}

/--
What parameters say of the client.  Its state counts once its name is known, the address to
return to once the state is not garbled, and the way to answer once nothing before it is.
-/
def toldBy (params : Object) : Requester :=
  let isNamed := (params.value? .clientId).isSome
  let isAddressed := isNamed && !params.isGarbled .state
  let isAnswered := isAddressed && !params.isGarbled .redirectUri && !params.isGarbled .responseMode
  { clientId := params.value? .clientId
    redirectUri := if isAddressed then params.value? .redirectUri else none
    state := if isNamed then params.value? .state else none
    responseMode :=
      if isAnswered then
        (params.value? .responseMode).or
          ((params.value? .responseType).map ResponseType.impliedMode)
      else none }

/-! ## Readings that refuse -/

/-- Whatever a reading refuses is not well-formed, and the refusal tells of this requester. -/
def Refuses (known : Requester) (x : Except Refusal α) : Prop :=
  ∀ refusal, x = .error refusal → refusal.requester = known ∧
    refusal.response = ErrorResponse.invalidRequest.detail refusal.message

theorem refuses_ok (a : α) : known.Refuses (.ok a) :=
  Outcome.failsWith_ok a

theorem refuses_bind {x : Except Refusal α} {f : α → Except Refusal β} (first : known.Refuses x)
    (rest : ∀ a, x = .ok a → known.Refuses (f a)) : known.Refuses (x >>= f) :=
  Outcome.failsWith_bind first rest

theorem refuses_unless {c : Prop} [Decidable c] {objection : Objection}
    {rest : PUnit → Except Refusal α}
    (stated : objection.response = ErrorResponse.invalidRequest.detail objection.message)
    (go : known.Refuses (rest ⟨⟩)) :
    known.Refuses (if c then throw (known.refuse objection) >>= rest else rest ⟨⟩) :=
  Outcome.failsWith_refused ⟨rfl, stated⟩ go

/-- A parameter that may be absent is refused when it is garbled. -/
theorem refuses_optional {r : Requester} {p : Parameter α}
    (agree : params.isGarbled p = true → known = r) : known.Refuses (r.optional params p) := by
  intro refusal refused
  rw [optional] at refused
  cases read : params.read? p with
  | none =>
      rw [read] at refused
      cases refused
  | some result =>
      cases result with
      | ok value =>
          rw [read] at refused
          cases refused
      | error cause =>
          have garbled : params.isGarbled p = true := by rw [Object.isGarbled, read]
          rw [read] at refused
          cases refused
          exact ⟨(agree garbled).symm, rfl⟩

/-- A parameter that has to be there is refused when it has no value. -/
theorem refuses_required {r : Requester} {p : Parameter α}
    (agree : params.value? p = none → known = r) : known.Refuses (r.required params p) := by
  refine refuses_bind (refuses_optional ?_) ?_
  · intro garbled
    exact agree (Object.value?_of_garbled garbled)
  · intro value read
    cases value with
    | some a => exact refuses_ok a
    | none =>
        rintro _ ⟨⟩
        have nothing := Object.value?_of_read (optional_eq_ok_iff.mp read)
        exact ⟨(agree nothing).symm, rfl⟩

end Requester

namespace AuthenticationRequest

open Requester

variable {params : Object} {known : Requester}

/-! ## The steps of the reader -/

theorem refuses_heading : (toldBy params).Refuses (Heading.read params) := by
  rw [Heading.read]
  -- Each step refuses with what the steps before it have read, so these have to amount to all that
  -- the parameters tell once the step itself has failed.
  refine refuses_bind (refuses_required ?_) ?_
  · intro nameless
    simp [toldBy, nameless, unknown]
  intro clientId clientIdRead
  have named : params.value? .clientId = some clientId :=
    Object.value?_of_read (required_eq_ok_iff.mp clientIdRead)
  refine refuses_bind (refuses_optional ?_) ?_
  · intro garbled
    simp [toldBy, named, garbled, Object.value?_of_garbled garbled, unknown]
  intro state stateRead
  have stateTold := Object.value?_of_read (optional_eq_ok_iff.mp stateRead)
  have stateClear := Object.isGarbled_of_read (optional_eq_ok_iff.mp stateRead)
  refine refuses_bind (refuses_optional ?_) ?_
  · intro garbled
    simp [toldBy, named, stateTold, stateClear, garbled, Object.value?_of_garbled garbled, unknown]
  intro redirectUri redirectUriRead
  have redirectUriTold := Object.value?_of_read (optional_eq_ok_iff.mp redirectUriRead)
  have redirectUriClear := Object.isGarbled_of_read (optional_eq_ok_iff.mp redirectUriRead)
  refine refuses_bind (refuses_optional ?_) ?_
  · intro garbled
    simp [toldBy, named, stateTold, stateClear, redirectUriTold, redirectUriClear, garbled, unknown]
  intro mode modeRead
  have modeTold := Object.value?_of_read (optional_eq_ok_iff.mp modeRead)
  have modeClear := Object.isGarbled_of_read (optional_eq_ok_iff.mp modeRead)
  refine refuses_bind (refuses_required ?_) fun responseType _ => refuses_ok _
  intro untyped
  simp [toldBy, named, stateTold, stateClear, redirectUriTold, redirectUriClear, modeTold,
    modeClear, untyped]

/-- Once the heading is read, the parameters have told all of the client that they do. -/
theorem requester_of_heading {heading : Heading} (read : Heading.read params = .ok heading) :
    heading.requester = toldBy params := by
  obtain ⟨clientId, state, redirectUri, mode, responseType⟩ := readHeading_eq_ok_iff.mp read
  have named : params.value? .clientId = some heading.clientId := Object.value?_of_read clientId
  have typed : params.value? .responseType = some heading.responseType :=
    Object.value?_of_read responseType
  simp [Heading.requester, toldBy, named, typed, Object.value?_of_read state,
    Object.isGarbled_of_read state, Object.value?_of_read redirectUri,
    Object.isGarbled_of_read redirectUri, Object.value?_of_read mode,
    Object.isGarbled_of_read mode]

theorem refuses_requestObject : known.Refuses (readRequestObject known params) := by
  rw [readRequestObject]
  refine refuses_bind (refuses_optional fun _ => rfl) fun request _ => ?_
  refine refuses_bind (refuses_optional fun _ => rfl) fun requestUri _ => ?_
  exact refuses_unless rfl (refuses_ok _)

theorem refuses_scope : known.Refuses (readScope known params) := by
  rw [readScope]
  refine refuses_bind (refuses_required fun _ => rfl) fun scope _ => ?_
  exact refuses_unless rfl (refuses_ok _)

theorem refuses_nonce {needed : Bool} : known.Refuses (readNonce known needed params) := by
  rw [readNonce]
  refine refuses_bind (refuses_optional fun _ => rfl) fun nonce _ => ?_
  exact refuses_unless rfl (refuses_ok _)

/-! ## Whole requests -/

theorem refuses_parse (endpoint : Option Url) :
    (toldBy params).Refuses (parse endpoint params) := by
  rw [parse]
  refine refuses_bind refuses_heading ?_
  intro heading headingRead
  -- From here on every exit tells of the same requester.
  rw [requester_of_heading headingRead]
  refine refuses_bind refuses_requestObject ?_
  rintro ⟨request, requestUri⟩ _
  refine refuses_unless rfl ?_
  refine refuses_bind refuses_scope fun scope _ => ?_
  refine refuses_bind refuses_nonce fun nonce _ => ?_
  refine refuses_bind (refuses_optional fun _ => rfl) fun claims _ => ?_
  refine refuses_bind (refuses_optional fun _ => rfl) fun display _ => ?_
  refine refuses_bind (refuses_optional fun _ => rfl) fun prompt _ => ?_
  refine refuses_bind (refuses_optional fun _ => rfl) fun maxAge _ => ?_
  refine refuses_bind (refuses_optional fun _ => rfl) fun uiLocales _ => ?_
  refine refuses_bind (refuses_optional fun _ => rfl) fun claimsLocales _ => ?_
  refine refuses_bind (refuses_optional fun _ => rfl) fun idTokenHint _ => ?_
  refine refuses_bind (refuses_optional fun _ => rfl) fun loginHint _ => ?_
  refine refuses_bind (refuses_optional fun _ => rfl) fun acrValues _ => ?_
  refine refuses_bind (refuses_optional fun _ => rfl) fun codeChallenge _ => ?_
  refine refuses_bind (refuses_optional fun _ => rfl) fun explicitMethod _ => ?_
  refine refuses_bind (refuses_optional fun _ => rfl) fun resource _ => ?_
  refine refuses_bind (refuses_optional fun _ => rfl) fun grantedScopes _ => ?_
  exact refuses_ok _

/-- Parameters that say where to return to and how, whatever else is wrong with them. -/
structure IsAnswerable (params : Object) : Prop where
  clientId : (params.value? .clientId).isSome
  state : params.isGarbled .state = false
  redirectUri : (params.value? .redirectUri).isSome
  responseMode : params.isGarbled .responseMode = false
  responseType : (params.value? .responseType).isSome

theorem IsAnswerable.told (answerable : IsAnswerable params) :
    (toldBy params).redirectUri.isSome ∧ (toldBy params).responseMode.isSome := by
  have clear : params.isGarbled .redirectUri = false := by
    rw [← Bool.not_eq_true]
    intro garbled
    have found := answerable.redirectUri
    rw [Object.value?_of_garbled garbled] at found
    cases found
  simp [toldBy, answerable.clientId, answerable.state, answerable.redirectUri, clear,
    answerable.responseMode, answerable.responseType]

/-- A refusal of parameters tells all that they say of the client, and can be returned if it can. -/
theorem refused_as_told {endpoint : Option Url} {refusal : Refusal}
    (refused : parse endpoint params = .error refusal) :
    refusal.response = ⟨.invalidRequest, some ("Invalid request: " ++ refusal.message), none⟩ ∧
    refusal.requester = toldBy params ∧
    (IsAnswerable params → refusal.redirect?.isSome) := by
  obtain ⟨requester, response⟩ := refuses_parse endpoint refusal refused
  refine ⟨response, requester, ?_⟩
  intro answerable
  obtain ⟨target, mode⟩ := answerable.told
  rw [← requester] at target mode
  obtain ⟨u, here⟩ := Option.isSome_iff_exists.mp target
  obtain ⟨m, way⟩ := Option.isSome_iff_exists.mp mode
  rw [Refusal.redirect?, here, way]
  rfl

/-- Parameters that ask for an e-mail address without making it a request of OpenID Connect. -/
def emailAlone : Object :=
  .ofList [("client_id", .string "a"), ("redirect_uri", .string "https://c.example/cb"),
    ("response_type", .string "code"), ("scope", .string "email"), ("state", .string "s")]

/-- The client that asks for an e-mail address alone. -/
def emailClient : Requester :=
  ⟨some "a", some ⟨"https://c.example/cb", none, none⟩, some "s", some .query⟩

set_option maxRecDepth 20000 in
theorem parse_emailAlone :
    parse none emailAlone = .error (emailClient.refuse .openidMissing) := by
  with_unfolding_all rfl

set_option maxRecDepth 20000 in
theorem isAnswerable_emailAlone : IsAnswerable emailAlone := by
  constructor <;> with_unfolding_all rfl

theorem emailAlone_returned :
    toldBy emailAlone = emailClient ∧
      (emailClient.refuse .openidMissing).redirect?.isSome := by
  obtain ⟨_, told, returned⟩ := refused_as_told parse_emailAlone
  exact ⟨told.symm, returned isAnswerable_emailAlone⟩

end AuthenticationRequest

end OpenIdConnect
