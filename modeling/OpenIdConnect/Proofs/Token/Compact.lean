import OpenIdConnect.Token.Compact
import OpenIdConnect.Proofs.Authentication.Runs
import OpenIdConnect.Proofs.Text.Base64Url
import OpenIdConnect.Proofs.Text.Pieces

/-!
# Unsecured tokens

An unsecured token is cut into the segments that it was made of, because no encoded text
holds a point, and each segment gives back the object that was written into it, because
padding is not part of an encoding.  A request object that is passed as such a token
therefore counts for what its claims say.
-/

namespace OpenIdConnect

namespace Token

/-- The unsecured token that carries claims, with padding behind its header and its claims. -/
def padded (claims : Object) (behindHeader behindClaims : Nat) : String :=
  Text.Base64Url.encodeText unsecuredHeader.compact ++ String.ofList (.replicate behindHeader '=')
    ++ "." ++ Text.Base64Url.encodeText claims.compact
    ++ String.ofList (.replicate behindClaims '=') ++ "."

theorem padded_zero (claims : Object) : padded claims 0 0 = unsecured claims := by
  simp [padded, unsecured]

/-! ## Segments -/

/-- The segment of a text, with padding. -/
def paddedSegment (text : String) (padding : Nat) : List Char :=
  (Text.Base64Url.encodeText text).toList ++ .replicate padding '='

theorem toList_padded (claims : Object) (m n : Nat) :
    (padded claims m n).toList =
      paddedSegment unsecuredHeader.compact m ++ '.' :: (paddedSegment claims.compact n ++ ['.']) := by
  simp [padded, paddedSegment]

theorem paddedSegment_plain (text : String) (padding : Nat) :
    ∀ c ∈ paddedSegment text padding, (c == '.') = false := by
  intro c member
  rcases List.mem_append.mp member with encoded | equals
  · exact beq_eq_false_iff_ne.mpr (Text.Base64Url.plain_of_mem_encodeText encoded).2.1
  · rw [List.eq_of_mem_replicate equals]
    rfl

theorem segments_padded (claims : Object) (m n : Nat) :
    segments (padded claims m n) =
      .ok [paddedSegment unsecuredHeader.compact m, paddedSegment claims.compact n, []] := by
  have cut : Text.pieces (· == '.') (padded claims m n).toList =
      [paddedSegment unsecuredHeader.compact m, paddedSegment claims.compact n, []] := by
    rw [toList_padded, Text.pieces_append_cons (paddedSegment_plain _ m) rfl,
      Text.pieces_append_cons (paddedSegment_plain _ n) rfl]
    rfl
  rw [segments, cut]
  rfl

theorem unpadded_append {segment : List Char} (plain : ∀ c ∈ segment, c ≠ '=') (padding : Nat) :
    unpadded (segment ++ .replicate padding '=') = segment := by
  have padding_dropped : (List.replicate padding '=' ++ segment.reverse).dropWhile (· == '=') =
      segment.reverse.dropWhile (· == '=') := by
    apply List.dropWhile_append_of_pos
    intro c member
    exact beq_of_eq (List.eq_of_mem_replicate member)
  have rest_kept : segment.reverse.dropWhile (· == '=') = segment.reverse := by
    cases reversed : segment.reverse with
    | nil => rfl
    | cons c rest =>
        have member : c ∈ segment := by
          rw [← List.mem_reverse, reversed]
          exact List.mem_cons_self
        exact List.dropWhile_cons_of_neg (by simpa using plain c member)
  rw [unpadded, List.reverse_append, List.reverse_replicate, padding_dropped, rest_kept,
    List.reverse_reverse]

/-- A segment gives back the object whose text it encodes, if that text can be read. -/
theorem segmentObject_paddedSegment {o : Object} (legible : Json.read o.compact = .ok o.toJson)
    (padding : Nat) : segmentObject (paddedSegment o.compact padding) = .ok o := by
  have bare : unpadded (paddedSegment o.compact padding) =
      (Text.Base64Url.encodeText o.compact).toList :=
    unpadded_append (fun c member => (Text.Base64Url.plain_of_mem_encodeText member).2.2) padding
  have document : Json.readBytes (Text.Utf8.bytes o.compact) = .ok (.object o.members) := legible
  rw [segmentObject, bare, String.ofList_toList, Text.Base64Url.bytes_encodeText,
    Text.Base64Url.decode_encode]
  change (Json.readBytes (Text.Utf8.bytes o.compact)).mapError Fault.json >>= _ = _
  rw [document]
  exact congrArg Except.ok (Object.ofList_members o)

/-! ## Tokens -/

set_option maxRecDepth 20000 in
theorem legible_unsecuredHeader :
    Json.read unsecuredHeader.compact = .ok unsecuredHeader.toJson := by
  with_unfolding_all rfl

theorem header_padded (c : Object) (m n : Nat) :
    header (padded c m n) = .ok unsecuredHeader := by
  rw [header, segments_padded]
  dsimp only [bind, Except.bind]
  rw [segmentObject_paddedSegment legible_unsecuredHeader]
  rfl

theorem claims_padded {c : Object} (legible : Json.read c.compact = .ok c.toJson) (m n : Nat) :
    claims (padded c m n) = .ok c := by
  rw [claims, segments_padded]
  dsimp only [bind, Except.bind]
  rw [segmentObject_paddedSegment legible]
  rfl

end Token

namespace AuthenticationRequest

/-- A request object that is passed as an unsecured token is merged like its claims, and fails
like them. -/
theorem resolve_unsecured {c : Object} (legible : Json.read c.compact = .ok c.toJson) :
    Token.padded c 0 0 = Token.unsecured c ∧
      ∀ behindHeader behindClaims : Nat,
        Token.claims (Token.padded c behindHeader behindClaims) = .ok c ∧
          Token.header (Token.padded c behindHeader behindClaims) = .ok Token.unsecuredHeader ∧
          ∀ r : AuthenticationRequest,
            r.request = some (Token.padded c behindHeader behindClaims) →
              r.resolve = r.assemble c := by
  refine ⟨Token.padded_zero c, fun m n => ?_⟩
  have read := Token.claims_padded legible m n
  refine ⟨read, Token.header_padded c m n, ?_⟩
  intro r passed
  rw [resolve, resolveWith, passed]
  dsimp only
  rw [read]

/-- The request with a request object by value that says no more than a state. -/
def withStateToken : AuthenticationRequest :=
  { listedRequest .codeOnly with request := some (Token.padded stateObject 2 3) }

set_option maxRecDepth 20000 in
theorem legible_stateObject : Json.read stateObject.compact = .ok stateObject.toJson := by
  with_unfolding_all rfl

set_option maxRecDepth 20000 in
theorem assemble_withStateToken :
    withStateToken.assemble stateObject = .ok { listedRequest .codeOnly with state := some "x" } := by
  with_unfolding_all rfl

theorem resolve_withStateToken :
    Token.claims (Token.unsecured stateObject) = .ok stateObject ∧
      withStateToken.resolve = .ok { listedRequest .codeOnly with state := some "x" } := by
  obtain ⟨bare, padded⟩ := resolve_unsecured legible_stateObject
  constructor
  · rw [← bare]
    exact (padded 0 0).1
  · rw [(padded 2 3).2.2 withStateToken rfl]
    exact assemble_withStateToken

end AuthenticationRequest

end OpenIdConnect
