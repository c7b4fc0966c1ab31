import OpenIdConnect.Claims.Request
import OpenIdConnect.Proofs.Json.Shrinking

/-!
# Unwrapping ends

A claims request may be written as a string, which stands for the value that its text denotes, and
this value may again be a string.  Each such step leaves less to unwrap, so a value goes through at
most as many of them as its text has bytes, whatever the text looks like.  The answer to a value is
the answer to the one that its steps end at: the reader's own bound is never what stops it.
-/

namespace OpenIdConnect

namespace Claims

/--
The value that a value denotes: a string denotes what its text does, and so on.

What a text denotes is what `Json.read` makes of it, within the limits of the reader: arrays and
objects nest at most 127 deep, numbers are within binary64, and no string has a lone surrogate.
A text that is refused denotes nothing, even where the grammar of JSON allows for it.
-/
inductive Denotes : Json → Json → Prop where
  | value {v : Json} (plain : ∀ s, v ≠ .string s) : Denotes v v
  | text {s : String} {v w : Json} (read : Json.read s = .ok v) (denotes : Denotes v w) :
      Denotes (.string s) w

namespace Request

/-- How many bytes there are to unwrap: those of the text, which only a string has. -/
def textSize : Json → Nat
  | .string s => s.utf8ByteSize
  | _ => 0

/-- A string is replaced by the value that its text denotes. -/
inductive Unwraps : Json → Json → Prop where
  | text {s : String} {v : Json} (read : Json.read s = .ok v) : Unwraps (.string s) v

/-- So many replacements lead from one value to another. -/
inductive UnwrapsIn : Nat → Json → Json → Prop where
  | done {v : Json} : UnwrapsIn 0 v v
  | step {n : Nat} {u v w : Json} (first : Unwraps u v) (others : UnwrapsIn n v w) :
      UnwrapsIn (n + 1) u w

/-- A value that is not replaced: it is not a string, or its text is not JSON. -/
inductive Ends : Json → Except Fault Json → Prop where
  | value {v : Json} (plain : ∀ s, v ≠ .string s) : Ends v (.ok v)
  | text {s : String} {defect : Json.Misread} (read : Json.read s = .error defect) :
      Ends (.string s) (.error (.notJson defect))

/-! ## The measure -/

/-- A text that denotes a value has a byte more than what is left to unwrap. -/
theorem Unwraps.textSize_lt {v w : Json} (unwraps : Unwraps v w) : textSize w < textSize v := by
  cases unwraps with
  | text read =>
      cases w with
      | string t => exact Json.utf8ByteSize_lt_of_read read
      | _ => exact Json.utf8ByteSize_pos_of_read read

theorem wellFounded_unwraps : WellFounded fun w v => Unwraps v w :=
  (InvImage.wf textSize Nat.lt_wfRel.wf).mono fun _ _ unwraps => unwraps.textSize_lt

/-- Every replacement costs a byte of the text that there was in the beginning. -/
theorem UnwrapsIn.add_textSize_le {n : Nat} {v w : Json} (unwraps : UnwrapsIn n v w) :
    n + textSize w ≤ textSize v := by
  induction unwraps with
  | done => exact Nat.le_of_eq (Nat.zero_add _)
  | step first _ ih =>
      have less := first.textSize_lt
      omega

/-- Replacements that end at a value which is not a string give what is denoted. -/
theorem UnwrapsIn.denotes {n : Nat} {v w : Json} (unwraps : UnwrapsIn n v w)
    (plain : ∀ s, w ≠ .string s) : Denotes v w := by
  induction unwraps with
  | done => exact .value plain
  | step first _ ih =>
      cases first with
      | text read => exact .text read (ih plain)

/-! ## The outcome -/

theorem unwrap_of_plain {v : Json} (plain : ∀ s, v ≠ .string s) (fuel : Nat) :
    unwrap fuel v = .ok v := by
  cases v with
  | string s => exact absurd rfl (plain s)
  | _ => cases fuel <;> rfl

/-- More steps than there are bytes make no difference. -/
theorem unwrap_congr {fuel fuel' : Nat} {v : Json} (enough : textSize v < fuel)
    (enough' : textSize v < fuel') : unwrap fuel v = unwrap fuel' v := by
  induction fuel generalizing fuel' v with
  | zero => exact absurd enough (Nat.not_lt_zero _)
  | succ fuel ih =>
      cases fuel' with
      | zero => exact absurd enough' (Nat.not_lt_zero _)
      | succ fuel' =>
          cases v with
          | string s =>
              unfold unwrap
              cases read : Json.read s with
              | error defect => rfl
              | ok w =>
                  have less := (Unwraps.text read).textSize_lt
                  exact ih (Nat.lt_of_lt_of_le less (Nat.le_of_lt_succ enough))
                    (Nat.lt_of_lt_of_le less (Nat.le_of_lt_succ enough'))
          | _ => rfl

theorem unwrap_eq_of_enough {fuel : Nat} {v : Json} (enough : textSize v < fuel) :
    unwrap (unwrapBound v) v = unwrap fuel v := by
  cases v with
  | string s => exact unwrap_congr (Nat.lt_succ_self s.utf8ByteSize) enough
  | _ => rw [unwrap_of_plain (by rintro s ⟨⟩), unwrap_of_plain (by rintro s ⟨⟩)]

/-- A string is unwrapped like the value that its text denotes. -/
theorem Unwraps.unwrap_eq {v w : Json} (unwraps : Unwraps v w) :
    unwrap (unwrapBound v) v = unwrap (unwrapBound w) w := by
  rw [unwrap_eq_of_enough unwraps.textSize_lt]
  cases unwraps with
  | @text s _ read =>
      change unwrap (s.utf8ByteSize + 1) (.string s) = unwrap s.utf8ByteSize w
      rw [unwrap, read]

theorem UnwrapsIn.unwrap_eq {n : Nat} {v w : Json} (unwraps : UnwrapsIn n v w) :
    unwrap (unwrapBound v) v = unwrap (unwrapBound w) w := by
  induction unwraps with
  | done => rfl
  | step first _ ih => exact first.unwrap_eq.trans ih

theorem Ends.unwrap_eq {v : Json} {outcome : Except Fault Json} (ends : Ends v outcome) :
    unwrap (unwrapBound v) v = outcome := by
  cases ends with
  | value plain => exact unwrap_of_plain plain _
  | @text s defect read =>
      change unwrap (s.utf8ByteSize + 1) (.string s) = _
      rw [unwrap, read]

/-- Every value comes to an end: as long as it is not there it is replaced by a smaller one. -/
theorem exists_ends (v : Json) : ∃ n w outcome, UnwrapsIn n v w ∧ Ends w outcome := by
  induction v using wellFounded_unwraps.induction with
  | _ v ih =>
      by_cases text : ∃ s, v = .string s
      · obtain ⟨s, rfl⟩ := text
        cases read : Json.read s with
        | error defect => exact ⟨0, _, _, .done, .text read⟩
        | ok u =>
            obtain ⟨n, w, outcome, others, ends⟩ := ih u (.text read)
            exact ⟨n + 1, w, outcome, .step (.text read) others, ends⟩
      · exact ⟨0, v, _, .done, .value fun s same => text ⟨s, same⟩⟩

theorem unwrap_bound_eq_ok_iff {v w : Json} :
    unwrap (unwrapBound v) v = .ok w ↔ Denotes v w := by
  constructor
  · intro unwrapped
    obtain ⟨n, u, outcome, unwraps, ends⟩ := exists_ends v
    rw [unwraps.unwrap_eq, ends.unwrap_eq] at unwrapped
    cases ends with
    | value plain =>
        cases unwrapped
        exact unwraps.denotes plain
    | text read => cases unwrapped
  · intro denotes
    induction denotes with
    | value plain => exact unwrap_of_plain plain _
    | text read _ ih => exact (Unwraps.text read).unwrap_eq.trans ih

/-! ## The answer -/

/-- A string is answered like the value that its text denotes. -/
theorem Unwraps.parse_eq {v w : Json} (unwraps : Unwraps v w) : parse v = parse w := by
  unfold parse
  rw [unwraps.unwrap_eq]

/-- The answer to a value is made of what its replacements end with. -/
theorem exists_outcome (v : Json) :
    ∃ n w outcome, UnwrapsIn n v w ∧ Ends w outcome ∧
      parse v = (outcome >>= parseObject).mapError .inClaims := by
  obtain ⟨n, w, outcome, unwraps, ends⟩ := exists_ends v
  refine ⟨n, w, outcome, unwraps, ends, ?_⟩
  unfold parse
  rw [unwraps.unwrap_eq, ends.unwrap_eq]

/--
A text is longer than the string that it denotes.  So a value is replaced at most as often as its
text has bytes, and the answer to it is made of what its replacements end with.
-/
theorem unwrapping_ends (v : Json) :
    (∀ text s, Json.read text = .ok (.string s) → s.utf8ByteSize < text.utf8ByteSize) ∧
    (∀ n w, UnwrapsIn n v w → n + textSize w ≤ textSize v) ∧
    ∃ n w outcome, n ≤ textSize v ∧ UnwrapsIn n v w ∧ Ends w outcome ∧
      parse v = (outcome >>= parseObject).mapError .inClaims := by
  refine ⟨fun _ _ => Json.utf8ByteSize_lt_of_read, fun _ _ => UnwrapsIn.add_textSize_le, ?_⟩
  obtain ⟨n, w, outcome, unwraps, ends, answered⟩ := exists_outcome v
  have bounded : n ≤ textSize v := Nat.le_of_add_right_le unwraps.add_textSize_le
  exact ⟨n, w, outcome, bounded, unwraps, ends, answered⟩

/-- The text of an object with one member. -/
def smileText : String :=
  "\x7b\"😀\": null\x7d"

/-- The same text as a string between blanks, with escapes and a pair of escapes inside. -/
def smileQuoted : String :=
  " \"\\u007b\\\"\\ud83d\\ude00\\\": null\\u007d\"\n"

theorem read_smileQuoted : Json.read smileQuoted = .ok (.string smileText) := by
  with_unfolding_all rfl

theorem read_smileText : Json.read smileText = .ok (.object [("😀", .null)]) := by
  with_unfolding_all rfl

theorem smileQuoted_ends :
    smileText.utf8ByteSize < smileQuoted.utf8ByteSize ∧
      UnwrapsIn 2 (.string smileQuoted) (.object [("😀", .null)]) ∧
      2 ≤ textSize (.string smileQuoted) := by
  obtain ⟨shorter, bounded, _⟩ := unwrapping_ends (.string smileQuoted)
  have twice : UnwrapsIn 2 (.string smileQuoted) (.object [("😀", .null)]) :=
    .step (.text read_smileQuoted) (.step (.text read_smileText) .done)
  exact ⟨shorter _ _ read_smileQuoted, twice, Nat.le_of_add_right_le (bounded _ _ twice)⟩

end Request

end Claims

end OpenIdConnect
