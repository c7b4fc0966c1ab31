import OpenIdConnect.Proofs.Text.Pieces
import OpenIdConnect.Proofs.Text.Utf8
import OpenIdConnect.Text.Form

/-!
# Form encoding, written and read

An encoding holds neither an ampersand nor an equals sign, so a written text is cut into the pairs
it was written from, and the bytes of each name and value are decoded one by one.  Only an empty
value is decoded as the empty text, so the parts of any text show which of its pairs have a value.
-/

namespace OpenIdConnect.Text

theorem cutAtFirst_append_cons {α : Type} {isSeparator : α → Bool} {before : List α} {a : α}
    (plain : ∀ b ∈ before, isSeparator b = false) (separator : isSeparator a = true)
    (behind : List α) :
    cutAtFirst isSeparator (before ++ a :: behind) = (before, some behind) := by
  induction before with
  | nil => simp [cutAtFirst, separator]
  | cons b before ih =>
      obtain ⟨here, others⟩ := List.forall_mem_cons.mp plain
      rw [List.cons_append, cutAtFirst, here, ih others]
      rfl

/-- What holds for both halves of a byte holds for every byte. -/
theorem forall_byte {P : UInt8 → Prop}
    (each : ∀ high low : Fin 16, P (UInt8.ofNat (16 * high.val + low.val))) (b : UInt8) : P b := by
  have bound := b.toNat_lt
  have here := each ⟨b.toNat / 16, by omega⟩ ⟨b.toNat % 16, by omega⟩
  rwa [Nat.div_add_mod, UInt8.ofNat_toNat] at here

namespace Percent

theorem decode_cons {b : UInt8} (other : b ≠ 0x25) (rest : List UInt8) :
    decode (b :: rest) = b :: decode rest := by
  match rest with
  | [] => rfl
  | [c] => rfl
  | high :: low :: rest => rw [decode, if_neg other]

theorem decode_escape {b high low : UInt8} (digits : byte? high low = some b)
    (rest : List UInt8) : decode (0x25 :: high :: low :: rest) = b :: decode rest := by
  rw [decode, if_pos rfl, digits]

theorem decode_eq_nil_iff {bs : List UInt8} : decode bs = [] ↔ bs = [] := by
  fun_cases decode bs with
  | case1 => exact iff_of_false (List.cons_ne_nil _ _) (List.cons_ne_nil _ _)
  | case2 => exact iff_of_false (List.cons_ne_nil _ _) (List.cons_ne_nil _ _)
  | case3 => rfl

end Percent

namespace Form

/-- Is the character one that names and values are encoded in? -/
def isEncoded (c : Char) : Bool :=
  let n := c.toNat
  (0x30 ≤ n && n ≤ 0x39) || (0x41 ≤ n && n ≤ 0x5A) || (0x61 ≤ n && n ≤ 0x7A)
    || [0x25, 0x2A, 0x2B, 0x2D, 0x2E, 0x5F].contains n

theorem ascii_of_isEncoded {c : Char} (encoded : isEncoded c = true) : c.toNat < 128 := by
  simp [isEncoded] at encoded
  omega

theorem forall_encoded {P : Char → Prop}
    (each : ∀ high low : Fin 16, isEncoded (Char.ofNat (16 * high.val + low.val)) = true →
      P (Char.ofNat (16 * high.val + low.val))) {c : Char} (encoded : isEncoded c = true) : P c := by
  have bound := ascii_of_isEncoded encoded
  have here := each ⟨c.toNat / 16, by omega⟩ ⟨c.toNat % 16, by omega⟩
  rw [Nat.div_add_mod, Char.ofNat_toNat] at here
  exact here encoded

theorem isEncoded_encodeByte (b : UInt8) : ∀ c ∈ encodeByte b, isEncoded c = true := by
  have all : (encodeByte b).all isEncoded = true := by
    revert b
    refine forall_byte ?_
    decide +kernel
  exact List.all_eq_true.mp all

theorem isEncoded_encode (s : String) : ∀ c ∈ encode s, isEncoded c = true := by
  intro c member
  obtain ⟨b, _, among⟩ := List.mem_flatMap.mp member
  exact isEncoded_encodeByte b c among

/-- The bytes that are decoded for a byte: a plus sign counts as a space. -/
def sent (b : UInt8) : List UInt8 :=
  (encodeByte b).map fun c => UInt8.ofNat (if c = '+' then ' ' else c).toNat

/-- A byte is sent as itself or as a percent sign and the digits that write it. -/
theorem sent_shape (b : UInt8) :
    (sent b = [b] ∧ b ≠ 0x25) ∨
      ∃ high low, sent b = [0x25, high, low] ∧ Percent.byte? high low = some b := by
  have shape : (sent b = [b] ∧ b ≠ 0x25) ∨
      (sent b = 0x25 :: (Digits.hexPair b).map (fun c => UInt8.ofNat c.toNat) ∧
        Percent.byte? (UInt8.ofNat (Digits.hexPair.upperDigit (b.toNat / 16)).toNat)
          (UInt8.ofNat (Digits.hexPair.upperDigit (b.toNat % 16)).toNat) = some b) := by
    revert b
    refine forall_byte ?_
    decide +kernel
  rcases shape with itself | ⟨written, read⟩
  · exact .inl itself
  · exact .inr ⟨_, _, written, read⟩

theorem decode_sent (b : UInt8) (rest : List UInt8) :
    Percent.decode (sent b ++ rest) = b :: Percent.decode rest := by
  rcases sent_shape b with ⟨itself, other⟩ | ⟨high, low, escaped, digits⟩
  · rw [itself]
    exact Percent.decode_cons other rest
  · rw [escaped]
    exact Percent.decode_escape digits rest

theorem decode_flatMap_sent (bs : List UInt8) : Percent.decode (bs.flatMap sent) = bs := by
  induction bs with
  | nil => rfl
  | cons b bs ih => rw [List.flatMap_cons, decode_sent, ih]

/-- The encoding of a text stands for the text. -/
theorem decode_encode (s : String) : decode (encode s) = s := by
  have spaced : (encode s).map (fun c => if c = '+' then ' ' else c) =
      (Utf8.bytes s).flatMap fun b => (encodeByte b).map fun c => if c = '+' then ' ' else c := by
    unfold encode
    rw [List.map_flatMap]
  have ascii : ∀ c ∈ (encode s).map (fun c => if c = '+' then ' ' else c), c.toNat < 128 := by
    intro c member
    obtain ⟨d, among, rfl⟩ := List.mem_map.mp member
    split
    · decide
    · exact ascii_of_isEncoded (isEncoded_encode s d among)
  unfold decode
  dsimp only
  rw [Utf8.bytes_of_ascii ascii, spaced, List.map_flatMap]
  have each : (fun b => ((encodeByte b).map fun c => if c = '+' then ' ' else c).map
      fun c => UInt8.ofNat c.toNat) = sent := by
    funext b
    unfold sent
    rw [List.map_map]
    rfl
  rw [each, decode_flatMap_sent, Utf8.decodeLossy_bytes]

/-! ## Pairs -/

/-- Is the character one that pairs are written in? -/
def isWritten (c : Char) : Bool :=
  isEncoded c || c == '=' || c == '&'

theorem forall_written {P : Char → Prop}
    (each : ∀ high low : Fin 16, isEncoded (Char.ofNat (16 * high.val + low.val)) = true →
      P (Char.ofNat (16 * high.val + low.val)))
    (equals : P '=') (ampersand : P '&') {c : Char} (written : isWritten c = true) : P c := by
  rw [isWritten, Bool.or_eq_true, Bool.or_eq_true] at written
  rcases written with (encoded | sign) | sign
  · exact forall_encoded each encoded
  · rwa [eq_of_beq sign]
  · rwa [eq_of_beq sign]

theorem isWritten_encode (s : String) : ∀ c ∈ encode s, isWritten c = true := by
  intro c member
  unfold isWritten
  rw [isEncoded_encode s c member]
  rfl

theorem no_ampersand (pair : String × String) :
    ∀ c ∈ encodePair pair, (c == '&') = false := by
  have plain : ∀ s : String, ∀ c ∈ encode s, (c == '&') = false := by
    intro s c member
    exact forall_encoded (P := fun c => (c == '&') = false) (by decide)
      (isEncoded_encode s c member)
  intro c member
  rcases List.mem_append.mp member with name | behind
  · exact plain _ c name
  · rcases List.mem_cons.mp behind with sign | value
    · rw [sign]
      rfl
    · exact plain _ c value

theorem decodePair_encodePair (pair : String × String) : decodePair (encodePair pair) = pair := by
  have plain : ∀ c ∈ encode pair.1, (c == '=') = false := by
    intro c member
    exact forall_encoded (P := fun c => (c == '=') = false) (by decide)
      (isEncoded_encode pair.1 c member)
  unfold decodePair encodePair
  rw [cutAtFirst_append_cons plain rfl]
  change (decode (encode pair.1), decode (encode pair.2)) = pair
  rw [decode_encode, decode_encode]

theorem pieces_encodePairs {pair : String × String} {pairs : List (String × String)} :
    pieces (· == '&') (encodePairs (pair :: pairs)) = (pair :: pairs).map encodePair := by
  induction pairs generalizing pair with
  | nil => exact pieces_eq_singleton (no_ampersand pair)
  | cons next pairs ih =>
      rw [encodePairs, pieces_append_cons (no_ampersand pair) rfl, ih]
      · rfl
      · intro impossible
        cases impossible

/-- A written text is read as the pairs that it was written from. -/
theorem read_write (pairs : List (String × String)) : read (write pairs) = pairs := by
  have filled : ∀ pair : String × String, (!(encodePair pair).isEmpty) = true := by
    intro pair
    unfold encodePair
    simp
  unfold read write
  rw [String.toList_ofList]
  cases pairs with
  | nil => rfl
  | cons pair pairs =>
      rw [pieces_encodePairs, List.filter_eq_self.mpr, List.map_map]
      · have undone : decodePair ∘ encodePair = id := funext decodePair_encodePair
        rw [undone, List.map_id]
      · intro part member
        obtain ⟨p, _, rfl⟩ := List.mem_map.mp member
        exact filled p

/-- Two texts with an ampersand between them stand for the pairs of both. -/
theorem read_append (text more : String) : read (text ++ "&" ++ more) = read text ++ read more := by
  have shape : (text ++ "&" ++ more).toList = text.toList ++ '&' :: more.toList := by
    rw [String.toList_append, String.toList_append, List.append_assoc]
    rfl
  unfold read
  rw [shape, pieces_append_separator rfl, List.filter_append, List.map_append]

/-! ## Parts without a value -/

theorem decode_eq_empty_iff {encoded : List Char} : decode encoded = "" ↔ encoded = [] := by
  unfold decode
  rw [Utf8.decodeLossy_eq_empty_iff, Percent.decode_eq_nil_iff, Utf8.bytes_eq_nil_iff,
    ← String.toList_eq_nil_iff, String.toList_ofList, List.map_eq_nil_iff]

/-- The parts of a text, empty ones included. -/
def parts (text : String) : List (List Char) :=
  pieces (· == '&') text.toList

/-- Does anything stand behind the first equals sign of a part? -/
def hasValue (part : List Char) : Bool :=
  !((cutAtFirst (· == '=') part).2.getD []).isEmpty

/-- No value is decoded as the empty text. -/
theorem isEmpty_decodePair (part : List Char) : (decodePair part).2.isEmpty = !hasValue part := by
  unfold hasValue decodePair
  rw [Bool.not_not, Bool.eq_iff_iff, String.isEmpty_iff, List.isEmpty_iff]
  exact decode_eq_empty_iff

/-- The pairs with a value are those of the parts that have one. -/
theorem filter_read (text : String) :
    ((read text).filter fun pair => !pair.2.isEmpty) =
      ((parts text).filter hasValue).map decodePair := by
  have valued : ((fun pair : String × String => !pair.2.isEmpty) ∘ decodePair) = hasValue := by
    funext part
    simp only [Function.comp_apply, isEmpty_decodePair, Bool.not_not]
  have filled : (fun part : List Char => hasValue part && !part.isEmpty) = hasValue := by
    funext part
    cases part with
    | nil => rfl
    | cons c part => exact Bool.and_true _
  unfold read parts
  rw [List.filter_map, valued, List.filter_filter, filled]

/-! ## Characters of written pairs -/

theorem isWritten_write (pairs : List (String × String)) :
    ∀ c ∈ (write pairs).toList, isWritten c = true := by
  have here : ∀ pair, ∀ c ∈ encodePair pair, isWritten c = true := by
    intro pair c member
    rcases List.mem_append.mp member with name | behind
    · exact isWritten_encode _ c name
    · rcases List.mem_cons.mp behind with sign | value
      · rw [sign]
        rfl
      · exact isWritten_encode _ c value
  unfold write
  rw [String.toList_ofList]
  induction pairs with
  | nil =>
      intro c impossible
      cases impossible
  | cons pair pairs ih =>
      cases pairs with
      | nil => exact here pair
      | cons next pairs =>
          intro c member
          rcases List.mem_append.mp member with first | behind
          · exact here pair c first
          · rcases List.mem_cons.mp behind with sign | others
            · rw [sign]
              rfl
            · exact ih c others

end Form

end OpenIdConnect.Text
