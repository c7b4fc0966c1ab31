import Mathlib.Data.List.Basic
import OpenIdConnect.Text.Base64Url
import OpenIdConnect.Proofs.Text.Utf8

/-!
# Decoding what was encoded

Bytes are cut into groups of six bits, and each group has a symbol of its own.  Going back,
the symbols give the groups and the groups give the bytes, whatever is left over at the end:
one byte, two bytes, or none.  The symbols are of ASCII, and neither the point nor the equals
sign is among them.
-/

namespace OpenIdConnect.Text

namespace Base64Url

/-- The groups of six bits in bytes, the last one filled up with zeros. -/
def groups : List UInt8 → List Nat
  | a :: b :: c :: rest =>
    a.toNat / 4 :: (a.toNat % 4 * 16 + b.toNat / 16) :: (b.toNat % 16 * 4 + c.toNat / 64)
      :: c.toNat % 64 :: groups rest
  | [a, b] => [a.toNat / 4, a.toNat % 4 * 16 + b.toNat / 16, b.toNat % 16 * 4]
  | [a] => [a.toNat / 4, a.toNat % 4 * 16]
  | [] => []

theorem encode_eq (bs : List UInt8) : encode bs = (groups bs).map symbol := by
  induction bs using groups.induct with
  | case1 a b c rest ih => simp only [encode, groups, List.map_cons, ih]
  | case2 a b => rfl
  | case3 a => rfl
  | case4 => rfl

/-! ## Symbols -/

theorem value?_symbol : ∀ n < 64, value? (symbol n) = some n := by
  decide

/-- A symbol is of ASCII, and neither a point nor an equals sign. -/
theorem symbol_plain :
    ∀ n < 64, (symbol n).toNat < 128 ∧ (symbol n).toNat ≠ 0x2E ∧ (symbol n).toNat ≠ 0x3D := by
  decide

theorem group_lt {bs : List UInt8} {n : Nat} (member : n ∈ groups bs) : n < 64 := by
  induction bs using groups.induct with
  | case1 a b c rest ih =>
      have ha := a.toNat_lt
      have hb := b.toNat_lt
      have hc := c.toNat_lt
      simp only [groups, List.mem_cons] at member
      rcases member with rfl | rfl | rfl | rfl | behind
      · omega
      · omega
      · omega
      · omega
      · exact ih behind
  | case2 a b =>
      have ha := a.toNat_lt
      have hb := b.toNat_lt
      simp only [groups, List.mem_cons, List.not_mem_nil, or_false] at member
      omega
  | case3 a =>
      have ha := a.toNat_lt
      simp only [groups, List.mem_cons, List.not_mem_nil, or_false] at member
      omega
  | case4 => cases member

theorem symbol_of_mem {bs : List UInt8} {b : UInt8} (member : b ∈ encode bs) :
    ∃ n < 64, symbol n = b := by
  rw [encode_eq] at member
  obtain ⟨n, inside, rfl⟩ := List.mem_map.mp member
  exact ⟨n, group_lt inside, rfl⟩

theorem plain_of_mem {bs : List UInt8} {b : UInt8} (member : b ∈ encode bs) :
    b.toNat < 128 ∧ b.toNat ≠ 0x2E ∧ b.toNat ≠ 0x3D := by
  obtain ⟨n, small, rfl⟩ := symbol_of_mem member
  exact symbol_plain n small

/-! ## Bytes -/

/-- The bits of the groups, put together again, are the bytes. -/
theorem bytesOf?_groups (bs : List UInt8) : bytesOf? (groups bs) = some bs := by
  induction bs using groups.induct with
  | case1 a b c rest ih =>
      have first : a.toNat / 4 * 4 + (a.toNat % 4 * 16 + b.toNat / 16) / 16 = a.toNat := by
        have hb := b.toNat_lt
        omega
      have second : (a.toNat % 4 * 16 + b.toNat / 16) * 16
          + (b.toNat % 16 * 4 + c.toNat / 64) / 4 = a.toNat % 4 * 256 + b.toNat := by
        have hc := c.toNat_lt
        omega
      have third : (b.toNat % 16 * 4 + c.toNat / 64) * 64 + c.toNat % 64
          = b.toNat % 16 * 256 + c.toNat := by
        omega
      rw [groups, bytesOf?, ih, first, second, third]
      simp
  | case2 a b =>
      have first : a.toNat / 4 * 4 + (a.toNat % 4 * 16 + b.toNat / 16) / 16 = a.toNat := by
        have hb := b.toNat_lt
        omega
      have second : (a.toNat % 4 * 16 + b.toNat / 16) * 16 + b.toNat % 16 * 4 / 4
          = a.toNat % 4 * 256 + b.toNat := by
        omega
      rw [groups, bytesOf?, first, second, if_pos (Nat.mul_mod_left _ _)]
      simp
  | case3 a =>
      have first : a.toNat / 4 * 4 + a.toNat % 4 * 16 / 16 = a.toNat := by
        omega
      rw [groups, bytesOf?, first, if_pos (Nat.mul_mod_left _ _)]
      simp
  | case4 => rfl

theorem length_encode_mod (bs : List UInt8) : (encode bs).length % 4 ≠ 1 := by
  induction bs using groups.induct with
  | case1 a b c rest ih =>
      simp only [encode, List.length_cons]
      omega
  | case2 a b => simp [encode]
  | case3 a => simp [encode]
  | case4 => simp [encode]

theorem firstInvalid?_eq_none {symbols : List UInt8}
    (valid : ∀ b ∈ symbols, (value? b).isSome = true) (offset : Nat) :
    firstInvalid? offset symbols = none := by
  induction symbols generalizing offset with
  | nil => rfl
  | cons b symbols ih =>
      obtain ⟨here, others⟩ := List.forall_mem_cons.mp valid
      rw [firstInvalid?, if_pos here]
      exact ih others (offset + 1)

theorem filterMap_value?_encode (bs : List UInt8) : (encode bs).filterMap value? = groups bs := by
  rw [encode_eq, List.filterMap_map]
  calc (groups bs).filterMap (value? ∘ symbol)
      = (groups bs).filterMap some :=
        List.filterMap_congr fun n member => value?_symbol n (group_lt member)
    _ = groups bs := List.filterMap_some

/-- Bytes of every number are got back from their encoding. -/
theorem decode_encode (bs : List UInt8) : decode (encode bs) = .ok bs := by
  have valid : ∀ b ∈ encode bs, (value? b).isSome = true := by
    intro b member
    obtain ⟨n, small, rfl⟩ := symbol_of_mem member
    rw [value?_symbol n small]
    rfl
  rw [decode, if_neg (length_encode_mod bs), firstInvalid?_eq_none valid,
    filterMap_value?_encode, bytesOf?_groups]

/-! ## Texts -/

theorem toNat_ofNat_ascii {n : Nat} (small : n < 128) : (Char.ofNat n).toNat = n := by
  have valid : n.isValidChar := Or.inl (by omega)
  unfold Char.ofNat
  rw [dif_pos valid]
  rfl

theorem toList_encodeText (s : String) :
    (encodeText s).toList = (encode (Utf8.bytes s)).map fun b => Char.ofNat b.toNat :=
  String.toList_ofList

/-- Neither a point nor an equals sign stands in an encoded text. -/
theorem plain_of_mem_encodeText {s : String} {c : Char} (member : c ∈ (encodeText s).toList) :
    c.toNat < 128 ∧ c ≠ '.' ∧ c ≠ '=' := by
  rw [toList_encodeText] at member
  obtain ⟨b, inside, rfl⟩ := List.mem_map.mp member
  obtain ⟨small, noPoint, noEquals⟩ := plain_of_mem inside
  have code := toNat_ofNat_ascii small
  refine ⟨code.trans_lt small, ?_, ?_⟩
  · intro point
    rw [point] at code
    exact noPoint code.symm
  · intro equals
    rw [equals] at code
    exact noEquals code.symm

theorem bytes_encodeText (s : String) : Utf8.bytes (encodeText s) = encode (Utf8.bytes s) := by
  have ascii : ∀ c ∈ (encode (Utf8.bytes s)).map fun b => Char.ofNat b.toNat, c.toNat < 128 := by
    intro c member
    rw [← toList_encodeText] at member
    exact (plain_of_mem_encodeText member).1
  change Utf8.bytes (String.ofList _) = _
  rw [Utf8.bytes_of_ascii ascii, List.map_map]
  refine (List.map_congr_left fun b member => ?_).trans (List.map_id _)
  change UInt8.ofNat (Char.ofNat b.toNat).toNat = b
  rw [toNat_ofNat_ascii (plain_of_mem member).1, UInt8.ofNat_toNat]

end Base64Url

end OpenIdConnect.Text
