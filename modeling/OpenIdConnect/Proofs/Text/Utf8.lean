import Mathlib.Tactic.IntervalCases
import OpenIdConnect.Text.Utf8

/-!
# UTF-8, written and read

The bytes of a character are scanned as that character, whatever stands behind them.  So the bytes
of a text spell the text and leave no hole.  A text that bytes spell is no longer than they are.
-/

namespace OpenIdConnect.Text

namespace Utf8

/-! ## Single steps -/

/-- A byte behind the first one of a character, with the six lowest bits of a number. -/
def trail (n : Nat) : UInt8 :=
  UInt8.ofNat (n % 64 + 128)

theorem toNat_trail (n : Nat) : (trail n).toNat = n % 64 + 128 :=
  UInt8.toNat_ofNat_of_lt' (show n % 64 + 128 < 256 by omega)

theorem next?_trail {p : Pending} {n : Nat} (low : p.low.toNat ≤ n % 64 + 128)
    (high : n % 64 + 128 ≤ p.high.toNat) :
    p.next? (trail n) =
      if p.owed ≤ 1 then some (.char (Char.ofNat (p.bits * 64 + n % 64)))
      else some (.more ⟨p.bits * 64 + n % 64, p.owed - 1, 0x80, 0xBF⟩) := by
  have inRange : p.low ≤ trail n ∧ trail n ≤ p.high := by
    rw [UInt8.le_iff_toNat_le, UInt8.le_iff_toNat_le, toNat_trail]
    exact ⟨low, high⟩
  have bits : (trail n).toNat - 0x80 = n % 64 := by
    rw [toNat_trail]
    omega
  unfold Pending.next?
  rw [if_pos inRange, bits]

/-- A byte that may be any trailing one is taken, and more are owed. -/
theorem next?_more (bits owed n : Nat) :
    (Pending.mk bits (owed + 2) 0x80 0xBF).next? (trail n) =
      some (.more ⟨bits * 64 + n % 64, owed + 1, 0x80, 0xBF⟩) := by
  rw [next?_trail (show 128 ≤ n % 64 + 128 by omega) (show n % 64 + 128 ≤ 191 by omega)]
  exact if_neg (show ¬owed + 2 ≤ 1 by omega)

/-- The last byte owed makes up the character. -/
theorem next?_last {bits v : Nat} (whole : bits * 64 + v % 64 = v) :
    (Pending.mk bits 1 0x80 0xBF).next? (trail v) = some (.char (Char.ofNat v)) := by
  rw [next?_trail (show 128 ≤ v % 64 + 128 by omega) (show v % 64 + 128 ≤ 191 by omega)]
  dsimp only
  rw [whole]
  rfl

theorem start_ascii {n : Nat} (small : n < 128) :
    start (UInt8.ofNat n) = .char (Char.ofNat n) := by
  have value : (UInt8.ofNat n).toNat = n := UInt8.toNat_ofNat_of_lt' (show n < 256 by omega)
  have below : UInt8.ofNat n < 0x80 := by
    rw [UInt8.lt_iff_toNat_lt, value]
    exact small
  unfold start
  rw [if_pos below, value]

theorem start_two {n : Nat} (low : 2 ≤ n) (high : n < 32) :
    start (UInt8.ofNat (n + 192)) = .more ⟨n, 1, 0x80, 0xBF⟩ := by
  interval_cases n <;> rfl

/-- The second of three bytes is bounded where a shorter form or half of a pair would fit. -/
theorem start_three {n : Nat} (high : n < 16) :
    start (UInt8.ofNat (n + 224)) =
      .more ⟨n, 2, if n = 0 then 0xA0 else 0x80, if n = 13 then 0x9F else 0xBF⟩ := by
  interval_cases n <;> rfl

/-- The second of four bytes is bounded where a shorter form or no character would fit. -/
theorem start_four {n : Nat} (high : n < 5) :
    start (UInt8.ofNat (n + 240)) =
      .more ⟨n, 3, if n = 0 then 0x90 else 0x80, if n = 4 then 0x8F else 0xBF⟩ := by
  interval_cases n <;> rfl

/-! ## Characters -/

theorem scan_more {p q : Pending} {b : UInt8} (next : p.next? b = some (.more q))
    (rest : List UInt8) : scan (some p) (b :: rest) = scan (some q) rest := by
  rw [scan, next]

theorem scan_last {p : Pending} {b : UInt8} {c : Char} (next : p.next? b = some (.char c))
    (rest : List UInt8) : scan (some p) (b :: rest) = some c :: scan none rest := by
  rw [scan, next]

theorem scan_start {p : Pending} {b : UInt8} (step : start b = .more p) (rest : List UInt8) :
    scan none (b :: rest) = scan (some p) rest := by
  rw [scan, step]

theorem scan_two {v : Nat} (low : 0x7F < v) (high : v ≤ 0x7FF) (rest : List UInt8) :
    scan none (UInt8.ofNat (v / 64 % 32 + 192) :: trail v :: rest) =
      some (Char.ofNat v) :: scan none rest := by
  have whole : v / 64 % 32 * 64 + v % 64 = v := by omega
  rw [scan_start (start_two (by omega) (by omega)), scan_last (next?_last whole)]

theorem scan_three {v : Nat} (low : 0x7FF < v) (high : v ≤ 0xFFFF)
    (scalar : v < 0xD800 ∨ 0xDFFF < v) (rest : List UInt8) :
    scan none (UInt8.ofNat (v / 4096 % 16 + 224) :: trail (v / 64) :: trail v :: rest) =
      some (Char.ofNat v) :: scan none rest := by
  have second : (Pending.mk (v / 4096 % 16) 2 (if v / 4096 % 16 = 0 then 0xA0 else 0x80)
      (if v / 4096 % 16 = 13 then 0x9F else 0xBF)).next? (trail (v / 64)) =
      some (.more ⟨v / 4096 % 16 * 64 + v / 64 % 64, 1, 0x80, 0xBF⟩) := by
    rw [next?_trail]
    · rfl
    · change (if v / 4096 % 16 = 0 then (0xA0 : UInt8) else 0x80).toNat ≤ _
      split
      · change 160 ≤ _
        omega
      · change 128 ≤ _
        omega
    · change _ ≤ (if v / 4096 % 16 = 13 then (0x9F : UInt8) else 0xBF).toNat
      split
      · change _ ≤ 159
        omega
      · change _ ≤ 191
        omega
  have whole : (v / 4096 % 16 * 64 + v / 64 % 64) * 64 + v % 64 = v := by omega
  rw [scan_start (start_three (by omega)), scan_more second, scan_last (next?_last whole)]

theorem scan_four {v : Nat} (low : 0xFFFF < v) (high : v < 0x110000) (rest : List UInt8) :
    scan none (UInt8.ofNat (v / 262144 % 8 + 240) :: trail (v / 4096) :: trail (v / 64) ::
      trail v :: rest) = some (Char.ofNat v) :: scan none rest := by
  have second : (Pending.mk (v / 262144 % 8) 3 (if v / 262144 % 8 = 0 then 0x90 else 0x80)
      (if v / 262144 % 8 = 4 then 0x8F else 0xBF)).next? (trail (v / 4096)) =
      some (.more ⟨v / 262144 % 8 * 64 + v / 4096 % 64, 2, 0x80, 0xBF⟩) := by
    rw [next?_trail]
    · rfl
    · change (if v / 262144 % 8 = 0 then (0x90 : UInt8) else 0x80).toNat ≤ _
      split
      · change 144 ≤ _
        omega
      · change 128 ≤ _
        omega
    · change _ ≤ (if v / 262144 % 8 = 4 then (0x8F : UInt8) else 0xBF).toNat
      split
      · change _ ≤ 143
        omega
      · change _ ≤ 191
        omega
  have whole : ((v / 262144 % 8 * 64 + v / 4096 % 64) * 64 + v / 64 % 64) * 64 + v % 64 = v := by
    omega
  rw [scan_start (start_four (by omega)), scan_more second, scan_more (next?_more _ 0 _),
    scan_last (next?_last whole)]

/-- The bytes of a character are scanned as that character. -/
theorem scan_utf8EncodeChar (c : Char) (rest : List UInt8) :
    scan none (String.utf8EncodeChar c ++ rest) = some c :: scan none rest := by
  have scalar : c.val.toNat < 0xD800 ∨ (0xDFFF < c.val.toNat ∧ c.val.toNat < 0x110000) := c.valid
  have whole : Char.ofNat c.val.toNat = c := Char.ofNat_toNat c
  unfold String.utf8EncodeChar
  generalize c.val.toNat = v at scalar whole
  subst whole
  dsimp only
  split
  · change scan none (UInt8.ofNat v :: rest) = _
    rw [scan, start_ascii (by omega)]
  · split
    · exact scan_two (by omega) (by omega) rest
    · split
      · exact scan_three (by omega) (by omega) (by omega) rest
      · exact scan_four (by omega) (by omega) rest

theorem scan_flatMap (s : List Char) :
    scan none (s.flatMap String.utf8EncodeChar) = s.map some := by
  induction s with
  | nil => rfl
  | cons c s ih => rw [List.flatMap_cons, scan_utf8EncodeChar, ih, List.map_cons]

/-- The bytes of a text spell the text. -/
theorem decodeLossy_bytes (s : String) : decodeLossy (bytes s) = s := by
  unfold decodeLossy bytes
  rw [scan_flatMap, List.map_map]
  change String.ofList (s.toList.map id) = s
  rw [List.map_id, String.ofList_toList]

/-- Characters of ASCII are their own bytes. -/
theorem bytes_of_ascii {s : List Char} (ascii : ∀ c ∈ s, c.toNat < 128) :
    bytes (String.ofList s) = s.map fun c => UInt8.ofNat c.toNat := by
  unfold bytes
  rw [String.toList_ofList]
  induction s with
  | nil => rfl
  | cons c s ih =>
      obtain ⟨here, others⟩ := List.forall_mem_cons.mp ascii
      have single : String.utf8EncodeChar c = [UInt8.ofNat c.toNat] := by
        unfold String.utf8EncodeChar
        exact if_pos (Nat.le_of_lt_succ here)
      rw [List.flatMap_cons, ih others, single, List.map_cons]
      rfl

/-! ## No bytes -/

theorem bytes_eq_nil_iff {s : String} : bytes s = [] ↔ s = "" := by
  rw [bytes, List.flatMap_eq_nil_iff, ← String.toList_eq_nil_iff, List.eq_nil_iff_forall_not_mem]
  exact forall₂_congr fun c _ => iff_of_false String.utf8EncodeChar_ne_nil id

/-- A character that is never finished leaves a hole. -/
theorem scan_some_ne_nil (p : Pending) (bs : List UInt8) : scan (some p) bs ≠ [] := by
  induction bs generalizing p with
  | nil => exact List.cons_ne_nil _ _
  | cons b rest ih =>
      unfold scan
      split
      · exact List.cons_ne_nil _ _
      · exact ih _
      · exact List.cons_ne_nil _ _
      · split <;> exact List.cons_ne_nil _ _

theorem scan_none_eq_nil_iff {bs : List UInt8} : scan none bs = [] ↔ bs = [] := by
  cases bs with
  | nil => exact iff_of_true rfl rfl
  | cons b rest =>
      refine iff_of_false ?_ (List.cons_ne_nil b rest)
      unfold scan
      split
      · exact List.cons_ne_nil _ _
      · exact scan_some_ne_nil _ rest
      · exact List.cons_ne_nil _ _

/-- Only no bytes at all are read as the empty text. -/
theorem decodeLossy_eq_empty_iff {bs : List UInt8} : decodeLossy bs = "" ↔ bs = [] := by
  unfold decodeLossy
  rw [← String.toList_eq_nil_iff, String.toList_ofList, List.map_eq_nil_iff, scan_none_eq_nil_iff]

/-! ## Sizes -/

theorem length_flatMap_utf8EncodeChar (s : List Char) :
    (s.flatMap String.utf8EncodeChar).length = (String.ofList s).utf8ByteSize := by
  induction s with
  | nil => rfl
  | cons c s ih =>
      rw [List.flatMap_cons, List.length_append, String.length_utf8EncodeChar, ih,
        String.ofList_cons, String.utf8ByteSize_append, String.utf8ByteSize_singleton]

theorem length_bytes (s : String) : (bytes s).length = s.utf8ByteSize := by
  unfold bytes
  rw [length_flatMap_utf8EncodeChar, String.ofList_toList]

/-- The numbers below this one need at most so many bytes. -/
def bound : Nat → Nat
  | 1 => 0x80
  | 2 => 0x800
  | 3 => 0x10000
  | _ => 0x200000

theorem utf8Size_le_of_lt_bound {c : Char} {n : Nat} (positive : 1 ≤ n)
    (below : c.toNat < bound n) : c.utf8Size ≤ n := by
  have one : n = 1 → c.val.toNat ≤ 0x7F := by
    rintro rfl
    exact Nat.le_of_lt_succ below
  have two : n = 2 → c.val.toNat ≤ 0x7FF := by
    rintro rfl
    exact Nat.le_of_lt_succ below
  have three : n = 3 → c.val.toNat ≤ 0xFFFF := by
    rintro rfl
    exact Nat.le_of_lt_succ below
  rw [← String.length_utf8EncodeChar]
  unfold String.utf8EncodeChar
  dsimp only
  split
  · exact positive
  · split
    · change 2 ≤ n
      omega
    · split
      · change 3 ≤ n
        omega
      · change 4 ≤ n
        omega

theorem utf8Size_ofNat_le {v n : Nat} (positive : 1 ≤ n) (below : v < bound n) :
    (Char.ofNat v).utf8Size ≤ n := by
  refine utf8Size_le_of_lt_bound positive ?_
  by_cases valid : v.isValidChar
  · have value : (Char.ofNat v).toNat = v := by
      unfold Char.ofNat
      rw [dif_pos valid]
      rfl
    rw [value]
    exact below
  · have value : Char.ofNat v = Char.ofNat 0 := by
      unfold Char.ofNat
      rw [dif_neg valid]
      rfl
    rw [value]
    exact Nat.lt_of_le_of_lt (Nat.zero_le v) below

/-- Of an unfinished character, so many bytes are taken: it will not need more than it owes. -/
structure Begun (p : Pending) (taken : Nat) : Prop where
  owed : 1 ≤ p.owed
  high : p.high ≤ 0xBF
  bits : (p.bits + 1) * 64 ^ p.owed ≤ bound (taken + p.owed)

theorem utf8Size_of_start {b : UInt8} {c : Char} (step : start b = .char c) :
    c.utf8Size ≤ 1 := by
  unfold start at step
  split at step
  · next ascii =>
      cases step
      exact utf8Size_ofNat_le (Nat.le_refl 1) ascii
  · repeat' split at step
    all_goals cases step

theorem begun_of_start {b : UInt8} {p : Pending} (step : start b = .more p) : Begun p 1 := by
  have two : b < 0xE0 → b.toNat < 224 := id
  have three : b < 0xF0 → b.toNat < 240 := id
  have four : b < 0xF4 → b.toNat < 244 := id
  unfold start at step
  repeat' split at step
  · cases step
  · cases step
  · next lead =>
      rw [← Step.more.inj step]
      refine ⟨Nat.succ_pos _, UInt8.le_refl _, ?_⟩
      change (b.toNat - 192 + 1) * 64 ≤ 0x800
      have := two lead
      omega
  · cases step
    exact ⟨by decide, by decide, by decide⟩
  · cases step
    exact ⟨by decide, by decide, by decide⟩
  · next lead =>
      rw [← Step.more.inj step]
      refine ⟨Nat.succ_pos _, UInt8.le_refl _, ?_⟩
      change (b.toNat - 224 + 1) * 4096 ≤ 0x10000
      have := three lead
      omega
  · cases step
    exact ⟨by decide, by decide, by decide⟩
  · next lead =>
      rw [← Step.more.inj step]
      refine ⟨Nat.succ_pos _, UInt8.le_refl _, ?_⟩
      change (b.toNat - 240 + 1) * 262144 ≤ 0x200000
      have := four lead
      omega
  · cases step
    exact ⟨by decide, by decide, by decide⟩
  · cases step

theorem Begun.bits_next {p : Pending} {taken : Nat} (begun : Begun p taken) {b : UInt8}
    (within : b ≤ p.high) : p.bits * 64 + (b.toNat - 0x80) + 1 ≤ (p.bits + 1) * 64 := by
  have trailing : b.toNat ≤ 0xBF := Nat.le_trans within begun.high
  omega

theorem Begun.utf8Size_le {p : Pending} {taken : Nat} (begun : Begun p taken) {b : UInt8}
    {c : Char} (step : p.next? b = some (.char c)) : c.utf8Size ≤ taken + 1 := by
  unfold Pending.next? at step
  split at step
  · next within =>
      dsimp only at step
      split at step
      · next last =>
          rw [← Step.char.inj (Option.some.inj step)]
          have single : p.owed = 1 := Nat.le_antisymm last begun.owed
          have room := begun.bits
          rw [single, Nat.pow_one] at room
          exact utf8Size_ofNat_le (Nat.le_add_left 1 taken)
            (Nat.le_trans (begun.bits_next within.2) room)
      · cases step
  · cases step

theorem Begun.next {p q : Pending} {taken : Nat} (begun : Begun p taken) {b : UInt8}
    (step : p.next? b = some (.more q)) : Begun q (taken + 1) := by
  unfold Pending.next? at step
  split at step
  · next within =>
      dsimp only at step
      split at step
      · cases step
      · next more =>
          rw [← Step.more.inj (Option.some.inj step)]
          obtain ⟨owed, shape⟩ : ∃ owed, p.owed = owed + 1 :=
            ⟨p.owed - 1, (Nat.sub_add_cancel begun.owed).symm⟩
          have room := begun.bits
          rw [shape, Nat.pow_succ', ← Nat.mul_assoc] at room
          refine ⟨?_, UInt8.le_refl _, ?_⟩
          · change 1 ≤ p.owed - 1
            omega
          · change (p.bits * 64 + (b.toNat - 0x80) + 1) * 64 ^ (p.owed - 1) ≤
              bound (taken + 1 + (p.owed - 1))
            have total : taken + 1 + (p.owed - 1) = taken + (owed + 1) := by omega
            rw [total, shape, Nat.add_sub_cancel]
            exact Nat.le_trans (Nat.mul_le_mul_right _ (begun.bits_next within.2)) room
  · cases step

/-- A character and those behind it need no more bytes than these and their own. -/
theorem utf8ByteSize_le_of_cons {c : Char} {read : List (Option Char)} {s : List Char}
    {own rest : Nat} (size : c.utf8Size ≤ own)
    (others : ∀ t : List Char, read = t.map some → (String.ofList t).utf8ByteSize ≤ rest)
    (agree : some c :: read = s.map some) : (String.ofList s).utf8ByteSize ≤ own + rest := by
  cases s with
  | nil => cases agree
  | cons d s =>
      obtain ⟨here, behind⟩ := List.cons.inj agree
      cases here
      rw [String.ofList_cons, String.utf8ByteSize_append, String.utf8ByteSize_singleton]
      exact Nat.add_le_add size (others s behind)

theorem none_cons_ne_map_some {read : List (Option Char)} {s : List Char} :
    none :: read ≠ s.map some := by
  cases s <;> simp

/-- Without a hole, the characters that are scanned need no more bytes than they are made of. -/
theorem utf8ByteSize_le_of_scan (bs : List UInt8) :
    (∀ s : List Char, scan none bs = s.map some → (String.ofList s).utf8ByteSize ≤ bs.length) ∧
      ∀ (p : Pending) (taken : Nat) (s : List Char), Begun p taken →
        scan (some p) bs = s.map some → (String.ofList s).utf8ByteSize ≤ taken + bs.length := by
  induction bs with
  | nil =>
      refine ⟨?_, ?_⟩
      · intro s read
        rw [List.map_eq_nil_iff.mp read.symm]
        exact Nat.le_refl 0
      · intro p taken s _ read
        exact absurd read none_cons_ne_map_some
  | cons b bs ih =>
      obtain ⟨between, inside⟩ := ih
      refine ⟨?_, ?_⟩
      · intro s read
        rw [scan] at read
        rw [List.length_cons, Nat.add_comm]
        cases step : start b with
        | char c =>
            rw [step] at read
            exact utf8ByteSize_le_of_cons (utf8Size_of_start step) between read
        | more p =>
            rw [step] at read
            exact inside p 1 s (begun_of_start step) read
        | hole =>
            rw [step] at read
            exact absurd read none_cons_ne_map_some
      · intro p taken s begun read
        rw [scan] at read
        rw [List.length_cons, Nat.add_comm bs.length, ← Nat.add_assoc]
        match step : p.next? b with
        | some (.char c) =>
            rw [step] at read
            exact utf8ByteSize_le_of_cons (begun.utf8Size_le step) between read
        | some (.more q) =>
            rw [step] at read
            exact inside q (taken + 1) s (begun.next step) read
        | some .hole =>
            rw [step] at read
            exact absurd read none_cons_ne_map_some
        | none =>
            rw [step] at read
            dsimp only at read
            split at read
            all_goals exact absurd read none_cons_ne_map_some

theorem eq_map_some_of_mapM {read : List (Option Char)} {s : List Char}
    (whole : read.mapM id = some s) : read = s.map some := by
  induction read generalizing s with
  | nil =>
      cases whole
      rfl
  | cons first read ih =>
      rw [List.mapM_cons] at whole
      obtain ⟨c, here, others⟩ := Option.bind_eq_some_iff.mp whole
      obtain ⟨t, behind, done⟩ := Option.bind_eq_some_iff.mp others
      cases done
      rw [List.map_cons, ih behind]
      exact congrArg (· :: t.map some) here

/-- A text needs no more bytes than it is decoded from. -/
theorem utf8ByteSize_le_of_decode? {bs : List UInt8} {s : String} (read : decode? bs = some s) :
    s.utf8ByteSize ≤ bs.length := by
  unfold decode? at read
  obtain ⟨characters, whole, rfl⟩ := Option.map_eq_some_iff.mp read
  exact (utf8ByteSize_le_of_scan bs).1 characters (eq_map_some_of_mapM whole)

end Utf8

end OpenIdConnect.Text
