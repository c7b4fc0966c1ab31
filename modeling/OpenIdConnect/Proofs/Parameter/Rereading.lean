import Mathlib.Tactic.SplitIfs
import OpenIdConnect.Parameter.Authentication
import OpenIdConnect.Proofs.Claims.RoundTrip
import OpenIdConnect.Proofs.Parameter.Flow
import OpenIdConnect.Proofs.Text.Words

/-!
# Values that are read again

A value is read again when its parameter reads what it writes for the value as that value.  Lists
of tokens are written as words with a space between each two, so they are read again exactly when
each token is a word; a list of strings can hold a token that is none.
-/

namespace OpenIdConnect

/-! ## Tokens that words write -/

/-- Every value of the scope is a word. -/
def Scope.Worded (s : Scope) : Prop :=
  ∀ value ∈ s.values, Text.IsWord value

/-- Every value of the response type is what a word writes. -/
def ResponseType.Worded (t : ResponseType) : Prop :=
  ∀ v ∈ t.values, ∃ word, Text.IsWord word ∧ ResponseValue.ofText word = v

/-- Response types with the same values are made of the same words. -/
theorem ResponseType.Worded.of_same {t t' : ResponseType} (worded : t.Worded)
    (same : (t' == t) = true) : t'.Worded := by
  intro v member
  exact worded v ((ResponseType.same_iff.mp same v).mp member)

/-- Every prompt is what a word writes. -/
def Prompt.Worded (p : Prompt) : Prop :=
  ∀ v ∈ p.values.toList, ∃ word, Text.IsWord word ∧ PromptValue.ofText word = v

namespace Parameter

variable {α : Type}

/-- The parameter reads what it writes for a value as the value. -/
def Rereads (p : Parameter α) (a : α) : Prop :=
  p.read (p.write a) = .ok a

theorem exists_word_of_mem {ofText : String → α} {s : String} {v : α}
    (member : v ∈ (Text.words s).map ofText) : ∃ word, Text.IsWord word ∧ ofText word = v := by
  obtain ⟨word, among, written⟩ := List.mem_map.mp member
  exact ⟨word, Text.isWord_of_mem_words among, written⟩

/-- Values with texts are found again behind the words of their texts when words write them. -/
theorem map_words_joined_iff {ofText : String → α} {text : α → String}
    (same : ∀ s, text (ofText s) = s) {values : List α} :
    (Text.words (Text.joined " " (values.map text))).map ofText = values ↔
      ∀ v ∈ values, ∃ word, Text.IsWord word ∧ ofText word = v := by
  constructor
  · intro again v member
    rw [← again] at member
    exact exists_word_of_mem member
  · intro worded
    have areWords : ∀ token ∈ values.map text, Text.IsWord token := by
      intro token member
      obtain ⟨v, among, rfl⟩ := List.mem_map.mp member
      obtain ⟨word, isWord, rfl⟩ := worded v among
      rw [same]
      exact isWord
    rw [Text.words_joined areWords, List.map_map]
    refine (List.map_congr_left fun v member => ?_).trans (List.map_id values)
    obtain ⟨word, _, rfl⟩ := worded v member
    exact congrArg ofText (same word)

/-! ## Texts and enumerations -/

theorem rereads_text (name value : String) : Rereads (text name) value := rfl

theorem text_ofText_responseMode (s : String) : (ResponseMode.ofText s).text = s := by
  unfold ResponseMode.ofText
  split_ifs <;> simp_all [ResponseMode.text]

theorem rereads_responseMode {value : Json} {mode : ResponseMode}
    (read : responseMode.read value = .ok mode) : Rereads responseMode mode := by
  obtain ⟨s, _, rfl⟩ := Outcome.map_eq_ok.mp read
  exact congrArg (fun s => Except.ok (ResponseMode.ofText s)) (text_ofText_responseMode s)

theorem text_ofText_challengeMethod (s : String) : (ChallengeMethod.ofText s).text = s := by
  unfold ChallengeMethod.ofText
  split_ifs <;> simp_all [ChallengeMethod.text]

theorem rereads_codeChallengeMethod {value : Json} {method : ChallengeMethod}
    (read : codeChallengeMethod.read value = .ok method) : Rereads codeChallengeMethod method := by
  obtain ⟨s, _, rfl⟩ := Outcome.map_eq_ok.mp read
  exact congrArg (fun s => Except.ok (ChallengeMethod.ofText s)) (text_ofText_challengeMethod s)

theorem rereads_display (d : Display) : Rereads display d := by
  cases d <;> rfl

theorem rereads_includeGrantedScopes (b : Bool) : Rereads includeGrantedScopes b := by
  cases b <;> rfl

theorem rereads_idTokenHint {value : Json} {hint : String}
    (read : idTokenHint.read value = .ok hint) : Rereads idTokenHint hint := by
  obtain ⟨token, same, rest⟩ := Outcome.bind_eq_ok.mp read
  obtain ⟨header, headerRead, done⟩ := Outcome.bind_eq_ok.mp rest
  cases done
  exact Outcome.bind_eq_ok.mpr
    ⟨hint, rfl, Outcome.bind_eq_ok.mpr ⟨header, headerRead, rfl⟩⟩

/-! ## Lists of tokens -/

theorem rereads_scope {s : Scope} (worded : s.Worded) : Rereads scope s := by
  have kept : Distinct.ofList (Text.words (Text.joined " " s.values)) = s.values := by
    rw [Text.words_joined worded]
    exact Distinct.ofList_of_nodup s.distinct
  obtain ⟨values, distinct⟩ := s
  unfold Rereads
  change Except.ok (Scope.ofList (Text.words (Text.joined " " values))) = _
  unfold Scope.ofList
  congr 2

theorem worded_of_rereads_scope {s : Scope} (again : Rereads scope s) : s.Worded := by
  have same : Scope.ofList (Text.words (Text.joined " " s.values)) = s := Except.ok.inj again
  intro value member
  rw [← same] at member
  exact Text.isWord_of_mem_words (Distinct.mem_ofList.mp member)

theorem worded_scope {s : String} {found : Scope} (read : scope.read (.string s) = .ok found) :
    found.Worded := by
  cases read
  intro value member
  exact Text.isWord_of_mem_words (Distinct.mem_ofList.mp member)

theorem text_ofText_responseValue (s : String) : (ResponseValue.ofText s).text = s := by
  unfold ResponseValue.ofText
  split_ifs <;> simp_all [ResponseValue.text]

/-- What is read for a response type has the values that the words of its texts write. -/
theorem read_write_responseType {t t' : ResponseType} :
    responseType.read (responseType.write t) = .ok t' ↔
      t'.values = Distinct.ofList ((Text.words (Text.joined " " t.texts)).map .ofText) :=
  ResponseType.ofValues_eq_ok_iff

theorem rereads_responseType {t : ResponseType} (worded : t.Worded) : Rereads responseType t := by
  have values : (Text.words (Text.joined " " t.texts)).map ResponseValue.ofText = t.values :=
    (map_words_joined_iff text_ofText_responseValue).mpr worded
  refine read_write_responseType.mpr ?_
  rw [values, Distinct.ofList_of_nodup t.distinct]

/-- A response type that is the same when it is read again is made of words. -/
theorem worded_of_same_reread {t t' : ResponseType}
    (again : responseType.read (responseType.write t) = .ok t') (same : (t' == t) = true) :
    t.Worded := by
  intro v member
  have found := (ResponseType.same_iff.mp same v).mpr member
  rw [read_write_responseType.mp again, Distinct.mem_ofList] at found
  exact exists_word_of_mem found

theorem worded_responseType {s : String} {t : ResponseType}
    (read : responseType.read (.string s) = .ok t) : t.Worded := by
  have values : t.values = Distinct.ofList ((Text.words s).map .ofText) :=
    ResponseType.ofValues_eq_ok_iff.mp read
  intro v member
  rw [values, Distinct.mem_ofList] at member
  exact exists_word_of_mem member

theorem toList_ofList_iff {values : List α} {list : NonEmpty α} :
    NonEmpty.ofList values = .ok list ↔ list.toList = values := by
  obtain ⟨first, rest⟩ := list
  cases values with
  | nil =>
      constructor
      · intro impossible
        cases impossible
      · intro impossible
        cases impossible
  | cons a values =>
      constructor
      · intro made
        cases made
        rfl
      · intro same
        cases same
        rfl

theorem text_ofText_promptValue (s : String) : (PromptValue.ofText s).text = s := by
  unfold PromptValue.ofText
  split_ifs <;> simp_all [PromptValue.text]

theorem ofValues_prompt_iff {values : List PromptValue} {p : Prompt} :
    Prompt.ofValues values = .ok p ↔ p.values.toList = values := by
  unfold Prompt.ofValues
  rw [Outcome.bind_eq_ok, ← toList_ofList_iff]
  constructor
  · rintro ⟨list, made, checked⟩
    have listed := Outcome.mapError_eq_ok.mp made
    split at checked
    · cases checked
    · cases checked
      exact listed
  · intro listed
    refine ⟨p.values, Outcome.mapError_eq_ok.mpr listed, ?_⟩
    have alone : ¬(1 < p.values.size ∧ .nothing ∈ p.values.toList) := by
      rintro ⟨several, among⟩
      exact absurd (p.noneAlone among) (Nat.not_le.mpr several)
    rw [dif_neg alone]
    rfl

theorem rereads_prompt_iff {p : Prompt} : Rereads prompt p ↔ p.Worded := by
  have read : Rereads prompt p ↔
      p.values.toList = (Text.words (Text.joined " " p.texts)).map .ofText := ofValues_prompt_iff
  rw [read, eq_comm]
  exact map_words_joined_iff text_ofText_promptValue

theorem worded_prompt {s : String} {p : Prompt} (read : prompt.read (.string s) = .ok p) :
    p.Worded := by
  have values : p.values.toList = (Text.words s).map .ofText := ofValues_prompt_iff.mp read
  intro v member
  rw [values] at member
  exact exists_word_of_mem member

theorem rereads_acrValues_iff {classes : NonEmpty String} :
    Rereads acrValues classes ↔ ∀ value ∈ classes.toList, Text.IsWord value := by
  have read : Rereads acrValues classes ↔
      classes.toList = Text.words (Text.joined " " classes.toList) :=
    Outcome.mapError_eq_ok.trans toList_ofList_iff
  rw [read, eq_comm]
  exact Text.words_joined_iff

theorem worded_acrValues {s : String} {classes : NonEmpty String}
    (read : acrValues.read (.string s) = .ok classes) :
    ∀ value ∈ classes.toList, Text.IsWord value := by
  have values : classes.toList = Text.words s :=
    toList_ofList_iff.mp (Outcome.mapError_eq_ok.mp read)
  intro value member
  rw [values] at member
  exact Text.isWord_of_mem_words member

theorem isWord_tag {tag : LanguageTag} (canonical : tag.Canonical) : Text.IsWord tag.text := by
  constructor
  · intro empty
    unfold LanguageTag.Canonical at canonical
    rw [empty] at canonical
    cases canonical
  · intro c member
    have bounds : 45 ≤ c.toNat ∧ c.toNat ≤ 122 := by
      have allowed := canonical.isPrivate c member
      unfold LanguageTag.isPrivate at allowed
      rcases Bool.or_eq_true_iff.mp allowed with alphanumeric | dash
      · unfold LanguageTag.isAlphanumeric at alphanumeric
        rcases Bool.or_eq_true_iff.mp alphanumeric with letter | digit
        · have range := (LanguageTag.isLetter_iff c).mp letter
          omega
        · have range := (LanguageTag.isDigit_iff c).mp digit
          omega
      · rw [eq_of_beq dash]
        decide
    simp [Text.isBlank]
    omega

theorem canonical_of_locales {name : String} {value : Json} {tags : List LanguageTag}
    (read : (locales name).read value = .ok tags) : ∀ tag ∈ tags, tag.Canonical := by
  obtain ⟨tokens, _, parsed⟩ := Outcome.bind_eq_ok.mp read
  intro tag member
  obtain ⟨token, _, found⟩ := Outcome.exists_item_of_mem (Outcome.mapM_eq_ok.mp parsed) member
  exact LanguageTag.canonical_of_parse
    (Outcome.mapError_eq_ok.mp (Outcome.mapError_eq_ok.mp found))

theorem isWord_locales {name : String} {value : Json} {tags : List LanguageTag}
    (read : (locales name).read value = .ok tags) :
    ∀ token ∈ tags.map LanguageTag.text, Text.IsWord token := by
  intro token member
  obtain ⟨tag, among, rfl⟩ := List.mem_map.mp member
  exact isWord_tag (canonical_of_locales read tag among)

theorem rereads_locales {name : String} {value : Json} {tags : List LanguageTag}
    (read : (locales name).read value = .ok tags) : Rereads (locales name) tags := by
  unfold Rereads
  change (Text.words (Text.joined " " (tags.map LanguageTag.text))).mapM readTag = .ok tags
  rw [Outcome.mapM_eq_ok, Text.words_joined (isWord_locales read), List.map_map]
  refine List.map_congr_left fun tag member => ?_
  exact Outcome.mapError_eq_ok.mpr
    (Outcome.mapError_eq_ok.mpr (canonical_of_locales read tag member))

/-! ## Numbers -/

theorem le_ofDigitChars (digits : List Char) (n : Nat) : n ≤ Nat.ofDigitChars 10 digits n := by
  induction digits generalizing n with
  | nil => exact Nat.le_refl n
  | cons c digits ih =>
      rw [Nat.ofDigitChars_cons]
      exact Nat.le_trans (by omega) (ih _)

theorem naturalDigits_eq {digits : List Char} {n : Nat} (areDigits : ∀ c ∈ digits, c.isDigit = true)
    (small : Nat.ofDigitChars 10 digits n < 18446744073709551616) :
    naturalDigits n digits = .ok (UInt64.ofNat (Nat.ofDigitChars 10 digits n)) := by
  induction digits generalizing n with
  | nil => rfl
  | cons c digits ih =>
      obtain ⟨here, others⟩ := List.forall_mem_cons.mp areDigits
      rw [Nat.ofDigitChars_cons] at small ⊢
      have step : n * 10 + (c.toNat - 0x30) = 10 * n + (c.toNat - '0'.toNat) := by
        rw [Nat.mul_comm]
        rfl
      have bound := le_ofDigitChars digits (10 * n + (c.toNat - '0'.toNat))
      unfold naturalDigits
      rw [if_pos here]
      dsimp only
      rw [step, if_neg (by omega)]
      exact ih others small

theorem naturalNumber_decimal (n : UInt64) :
    naturalNumber (String.ofList (Text.Digits.decimal n.toNat)) = .ok n := by
  have areDigits : ∀ c ∈ Nat.toDigits 10 n.toNat, c.isDigit = true := fun c member =>
    Nat.isDigit_of_mem_toDigits (by decide) (by decide) member
  have value : Nat.ofDigitChars 10 (Nat.toDigits 10 n.toNat) 0 = n.toNat :=
    Nat.ofDigitChars_ten_toDigits
  have read : naturalDigits 0 (Nat.toDigits 10 n.toNat) = .ok n := by
    rw [naturalDigits_eq areDigits (by rw [value]; exact n.toNat_lt), value, UInt64.ofNat_toNat]
  unfold naturalNumber Text.Digits.decimal
  rw [String.toList_ofList]
  cases digits : Nat.toDigits 10 n.toNat with
  | nil => exact absurd digits Nat.toDigits_ne_nil
  | cons c rest =>
      rw [digits] at areDigits read
      have unsigned : c ≠ '+' := by
        rintro rfl
        have sign := areDigits '+' List.mem_cons_self
        revert sign
        decide
      split
      · next impossible => cases impossible
      · next signed => exact absurd (List.cons.inj signed).1 unsigned
      · next signed => exact absurd (List.cons.inj signed).1 unsigned
      · exact read

theorem rereads_maxAge (n : UInt64) : Rereads maxAge n :=
  Outcome.mapError_eq_ok.mpr (naturalNumber_decimal n)

/-! ## URLs and claims -/

theorem rereads_url {name : String} {u : Url} (again : Url.parse u.text = .ok u) :
    Rereads (url name) u :=
  Outcome.mapError_eq_ok.mpr again

theorem rereads_resource {value : Json} {u : Url} (again : Url.parse u.text = .ok u)
    (read : resource.read value = .ok u) : Rereads resource u := by
  obtain ⟨found, _, checked⟩ := Outcome.bind_eq_ok.mp read
  obtain ⟨unbroken, done⟩ := Outcome.refused_eq_ok.mp checked
  cases done
  refine Outcome.bind_eq_ok.mpr ⟨u, Outcome.mapError_eq_ok.mpr again, ?_⟩
  exact Outcome.refused_eq_ok.mpr ⟨unbroken, rfl⟩

/-- A claims request that was read is read again as one that asks for the same. -/
theorem exists_reread_claims {value : Json} {c : Claims.Request}
    (read : claims.read value = .ok c) :
    ∃ c', claims.read (claims.write c) = .ok c' ∧ (c' == c) = true := by
  obtain ⟨valid, unambiguous⟩ := Claims.Request.valid_of_parse (Outcome.mapError_eq_ok.mp read)
  obtain ⟨c', parsed, same⟩ := valid.parse_toJson unambiguous
  exact ⟨c', Outcome.mapError_eq_ok.mpr parsed, same⟩

end Parameter

end OpenIdConnect
