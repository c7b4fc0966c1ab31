import OpenIdConnect.Json.Reader
import OpenIdConnect.Proofs.Outcome
import OpenIdConnect.Proofs.Text.Utf8

/-!
# Strings are shorter than their JSON text

An escape takes at least as many bytes as the character it stands for, and a string stands between
two quotation marks.  So a text that denotes a string is longer than the string, and to read the
string as a text in turn can only be repeated as often as the first text has bytes.
-/

namespace OpenIdConnect

namespace Json

namespace Reader

/-! ## Escapes -/

theorem length_of_hexEscape {input rest : List UInt8} {n : Nat}
    (read : hexEscape input = .ok (n, rest)) : input.length = rest.length + 4 := by
  match input with
  | a :: b :: c :: d :: input =>
      unfold hexEscape at read
      dsimp only at read
      cases quad : hexQuad? a b c d with
      | none =>
          rw [quad] at read
          cases read
      | some m =>
          rw [quad] at read
          cases read
          rfl
  | [] => cases read
  | [_] => cases read
  | [_, _] => cases read
  | [_, _, _] => cases read

theorem length_codeBytes_le (n : Nat) : (codeBytes n).length ≤ 4 := by
  unfold codeBytes
  rw [String.length_utf8EncodeChar]
  exact Char.utf8Size_le_four _

theorem length_of_unicodeEscape {input rest piece : List UInt8}
    (read : unicodeEscape input = .ok (piece, rest)) :
    piece.length + rest.length ≤ input.length := by
  unfold unicodeEscape at read
  obtain ⟨⟨high, behind⟩, first, read⟩ := Outcome.bind_eq_ok.mp read
  have four := length_of_hexEscape first
  dsimp only at read
  split at read
  · cases read
  · split at read
    · obtain ⟨rfl, rfl⟩ := Prod.mk.inj (Except.ok.inj read)
      have size := length_codeBytes_le high
      omega
    · -- the pair needs no more bytes than its second half
      split at read
      · cases read
      · split at read
        · cases read
        · split at read
          · cases read
          · split at read
            · cases read
            · obtain ⟨⟨low, after⟩, second, read⟩ := Outcome.bind_eq_ok.mp read
              have fourMore := length_of_hexEscape second
              dsimp only at read
              split at read
              · cases read
              · obtain ⟨rfl, rfl⟩ := Prod.mk.inj (Except.ok.inj read)
                have size := length_codeBytes_le
                  (0x10000 + (high - 0xD800) * 0x400 + (low - 0xDC00))
                simp only [List.length_cons] at four
                omega

theorem length_of_escape {input rest piece : List UInt8}
    (read : escape input = .ok (piece, rest)) : piece.length + rest.length ≤ input.length := by
  cases input with
  | nil => cases read
  | cons b input =>
      have single : ∀ c : UInt8, (Except.ok ([c], input) : Except Stop _) = .ok (piece, rest) →
          piece.length + rest.length ≤ (b :: input).length := by
        intro c same
        obtain ⟨rfl, rfl⟩ := Prod.mk.inj (Except.ok.inj same)
        exact Nat.le_of_eq (Nat.add_comm 1 input.length)
      unfold escape at read
      dsimp only at read
      split at read
      · exact single b read
      · repeat' split at read
        all_goals first | exact single _ read | skip
        · exact Nat.le_succ_of_le (length_of_unicodeEscape read)
        · cases read

/-! ## Strings -/

theorem length_of_stringBytes {fuel : Nat} {input rest bytes : List UInt8}
    (read : stringBytes fuel input = .ok (bytes, rest)) :
    bytes.length + rest.length < input.length := by
  induction fuel generalizing input bytes rest with
  | zero => cases read
  | succ fuel ih =>
      cases input with
      | nil => cases read
      | cons b input =>
          unfold stringBytes at read
          split at read
          · cases read
            rw [List.length_nil, Nat.zero_add]
            exact Nat.lt_succ_self _
          · split at read
            · obtain ⟨⟨piece, behind⟩, escaped, read⟩ := Outcome.bind_eq_ok.mp read
              obtain ⟨⟨more, after⟩, others, done⟩ := Outcome.bind_eq_ok.mp read
              cases done
              have here := length_of_escape escaped
              have there := ih others
              rw [List.length_append, List.length_cons]
              omega
            · split at read
              · cases read
              · obtain ⟨⟨more, after⟩, others, done⟩ := Outcome.bind_eq_ok.mp read
                cases done
                have there := ih others
                rw [List.length_cons, List.length_cons]
                omega

theorem utf8ByteSize_of_string {input rest : List UInt8} {s : String}
    (read : string input = .ok (s, rest)) : s.utf8ByteSize < input.length := by
  unfold string at read
  obtain ⟨⟨bytes, behind⟩, bytesRead, read⟩ := Outcome.bind_eq_ok.mp read
  have size := length_of_stringBytes bytesRead
  dsimp only at read
  cases decoded : Text.Utf8.decode? bytes with
  | none =>
      rw [decoded] at read
      cases read
  | some t =>
      rw [decoded] at read
      cases read
      have needed := Text.Utf8.utf8ByteSize_le_of_decode? decoded
      omega

/-! ## Values -/

theorem eq_of_literal {v w : Json} {expected input rest : List UInt8}
    (read : literal v expected input = .ok (w, rest)) : w = v := by
  induction expected generalizing input with
  | nil =>
      cases read
      rfl
  | cons e expected ih =>
      cases input with
      | nil => cases read
      | cons b input =>
          unfold literal at read
          split at read
          · exact ih read
          · cases read

/-- Only what stands between quotation marks is read as a string. -/
theorem utf8ByteSize_of_value {fuel depth : Nat} {input rest : List UInt8} {s : String}
    (read : value fuel depth input = .ok (.string s, rest)) : s.utf8ByteSize < input.length := by
  cases fuel with
  | zero =>
      unfold value at read
      cases read
  | succ fuel =>
      have blanks : (skipBlanks input).length ≤ input.length :=
        (List.dropWhile_sublist isBlank).length_le
      unfold value at read
      dsimp only at read
      split at read
      · cases read
      · next b behind skipped =>
          rw [skipped, List.length_cons] at blanks
          split at read
          · cases eq_of_literal read
          split at read
          · cases eq_of_literal read
          split at read
          · cases eq_of_literal read
          split at read
          · obtain ⟨n, _, made⟩ := Outcome.bind_eq_ok.mp read
            cases made
          split at read
          · obtain ⟨n, _, made⟩ := Outcome.bind_eq_ok.mp read
            cases made
          split at read
          · obtain ⟨⟨t, after⟩, inside, made⟩ := Outcome.bind_eq_ok.mp read
            cases made
            have size : t.utf8ByteSize < behind.length := utf8ByteSize_of_string inside
            exact Nat.lt_of_lt_of_le size (Nat.le_of_succ_le blanks)
          split at read
          · split at read
            · cases read
            · obtain ⟨items, _, made⟩ := Outcome.bind_eq_ok.mp read
              cases made
          split at read
          · split at read
            · cases read
            · obtain ⟨members, _, made⟩ := Outcome.bind_eq_ok.mp read
              cases made
          · cases read

theorem utf8ByteSize_of_document {input : List UInt8} {s : String}
    (read : document input = .ok (.string s)) : s.utf8ByteSize < input.length := by
  unfold document at read
  obtain ⟨⟨v, rest⟩, valueRead, done⟩ := Outcome.bind_eq_ok.mp read
  dsimp only at done
  split at done
  · cases done
    exact utf8ByteSize_of_value valueRead
  · cases done

end Reader

/-- A string is shorter than every text that denotes it. -/
theorem utf8ByteSize_lt_of_read {text s : String} (denotes : read text = .ok (.string s)) :
    s.utf8ByteSize < text.utf8ByteSize := by
  unfold read readBytes at denotes
  split at denotes
  · next v document =>
      cases denotes
      have size := Reader.utf8ByteSize_of_document document
      rw [Text.Utf8.length_bytes] at size
      exact size
  · cases denotes

/-- The empty text denotes nothing. -/
theorem utf8ByteSize_pos_of_read {text : String} {v : Json} (denotes : read text = .ok v) :
    0 < text.utf8ByteSize := by
  refine Nat.pos_of_ne_zero fun empty => ?_
  rw [String.utf8ByteSize_eq_zero_iff] at empty
  subst empty
  have nothing : read "" = .error ⟨.endInValue, 1, 0⟩ := by with_unfolding_all rfl
  rw [nothing] at denotes
  cases denotes

end Json

end OpenIdConnect
