import Mathlib.Computability.RegularExpressions
import AccountLending.AccountId

/-!
# What an account number is, and where it is read

An account number is told by its characters, but it is cut off a resource name by bytes of the UTF-8
encoding.  A decimal digit takes one byte, so the two agree on every number.  On other texts they
need not: the cut may also fall inside a character, and then nothing is read, as nothing is read off
a text that is too short.

* `AccountId.isValid_iff`, `AccountId.isValid_iff_rmatch` — what passes as a number: twelve decimal
  digits, which is what the pattern of twelve digits matches as a whole;
* `Text.byteSuffix?_eq_some_iff_extract` — what is cut off a text has the last bytes of its
  encoding;
* `Text.byteSuffix?_eq_none_iff` — when nothing is cut off;
* `AccountId.ofArn?_eq_some_iff` — a number is read exactly off the names that end in it;
* `AccountId.ofArn?_eq_none_iff` — the names that no number is read off.
-/

namespace AccountLending

/-! ## Cutting by bytes -/

namespace Text

theorem byteCount_toList (text : String) : byteCount text.toList = text.utf8ByteSize := by
  obtain ⟨cs, rfl⟩ := text.exists_eq_ofList
  rw [String.toList_ofList]
  induction cs with
  | nil => simp
  | cons c cs ih => simp [String.ofList_cons, ih]

theorem byteCount_of_all_isDigit {cs : List Char} (h : cs.all Char.isDigit = true) :
    byteCount cs = cs.length := by
  induction cs with
  | nil => rfl
  | cons c rest ih =>
    rw [List.all_cons, Bool.and_eq_true] at h
    obtain ⟨hc, hrest⟩ := h
    -- a digit is a character of ASCII, which takes one byte
    have hsize : c.utf8Size = 1 := by
      simp only [Char.isDigit, Bool.and_eq_true, decide_eq_true_eq] at hc
      rw [Char.utf8Size_eq_one_iff]
      exact UInt32.le_trans hc.2 (by decide)
    rw [byteCount_cons, hsize, ih hrest, List.length_cons, Nat.add_comm]

/-- So many bytes before the end, a text is inside one of its characters. -/
def IsInsideCharacter (bytes : Nat) (cs : List Char) : Prop :=
  ∃ before c after, cs = before ++ c :: after ∧ byteCount after < bytes ∧
    bytes < c.utf8Size + byteCount after

theorem not_isInsideCharacter_nil (bytes : Nat) : ¬ IsInsideCharacter bytes [] := by
  rintro ⟨before, c, after, h, -⟩
  simp at h

theorem isInsideCharacter_cons (bytes : Nat) (c : Char) (rest : List Char) :
    IsInsideCharacter bytes (c :: rest) ↔
      byteCount rest < bytes ∧ bytes < c.utf8Size + byteCount rest ∨
      IsInsideCharacter bytes rest := by
  constructor
  · rintro ⟨before, d, after, h, hinside⟩
    cases before with
    | nil =>
      obtain ⟨rfl, rfl⟩ := List.cons.inj h
      exact .inl hinside
    | cons e before =>
      obtain ⟨-, rfl⟩ := List.cons.inj h
      exact .inr ⟨before, d, after, rfl, hinside⟩
  · rintro (hinside | ⟨before, d, after, rfl, hinside⟩)
    · exact ⟨[], c, rest, rfl, hinside⟩
    · exact ⟨c :: before, d, after, rfl, hinside⟩

theorem IsInsideCharacter.lt_byteCount {bytes : Nat} {cs : List Char}
    (h : IsInsideCharacter bytes cs) : bytes < byteCount cs := by
  obtain ⟨before, c, after, rfl, -, hlt⟩ := h
  rw [byteCount_append, byteCount_cons]
  omega

/-- Nothing is cut off a text that is too short, or inside a character. -/
theorem byteSuffixFrom?_eq_none_iff (bytes : Nat) (cs : List Char) :
    byteSuffixFrom? bytes (byteCount cs) cs = none ↔
      byteCount cs < bytes ∨ IsInsideCharacter bytes cs := by
  induction cs with
  | nil =>
    rw [byteSuffixFrom?, byteCount_nil, or_iff_left (not_isInsideCharacter_nil bytes)]
    by_cases hbytes : 0 = bytes
    · simp [← hbytes]
    · rw [if_neg hbytes]
      exact iff_of_true rfl (by omega)
  | cons c rest ih =>
    rcases Nat.lt_trichotomy (byteCount (c :: rest)) bytes with hshort | hwhole | hlong
    · rw [byteSuffixFrom?, if_neg hshort.ne, if_pos hshort]
      exact iff_of_true rfl (.inl hshort)
    · rw [byteSuffixFrom?, if_pos hwhole]
      refine iff_of_false (Option.some_ne_none _) ?_
      rintro (hshort | hinside)
      · omega
      · have hlonger := hinside.lt_byteCount
        omega
    · -- the cut is in the first character, or it is a cut of the rest
      rw [byteSuffixFrom?, if_neg hlong.ne', if_neg (Nat.lt_asymm hlong), byteCount_cons,
        Nat.add_sub_cancel_left, ih, isInsideCharacter_cons]
      rw [byteCount_cons] at hlong
      have hfirst : byteCount rest < bytes ∧ bytes < c.utf8Size + byteCount rest ↔
          byteCount rest < bytes := by omega
      have hlength : ¬ c.utf8Size + byteCount rest < bytes := by omega
      rw [hfirst, or_iff_right hlength]

theorem byteSuffix?_eq_none_iff (bytes : Nat) (text : String) :
    byteSuffix? bytes text = none ↔
    text.utf8ByteSize < bytes ∨ IsInsideCharacter bytes text.toList := by
  rw [byteSuffix?, Option.map_eq_none_iff, byteSuffixFrom?_eq_none_iff, byteCount_toList]

theorem extract_append_right (before after : String) :
    (before ++ after).toByteArray.extract before.utf8ByteSize (before ++ after).utf8ByteSize =
      after.toByteArray := by
  rw [String.toByteArray_append, String.utf8ByteSize_append]
  exact ByteArray.extract_append_eq_right rfl rfl

/-- What is cut off a text is the text whose encoding is the last bytes. -/
theorem byteSuffix?_eq_some_iff_extract (bytes : Nat) (text suffix : String) :
    byteSuffix? bytes text = some suffix ↔ bytes ≤ text.utf8ByteSize ∧
      suffix.toByteArray = text.toByteArray.extract (text.utf8ByteSize - bytes)
        text.utf8ByteSize := by
  rw [byteSuffix?_eq_some_iff, byteCount_toList]
  constructor
  · rintro ⟨rfl, before, rfl⟩
    have hstart : (before ++ suffix).utf8ByteSize - suffix.utf8ByteSize = before.utf8ByteSize := by
      rw [String.utf8ByteSize_append, Nat.add_sub_cancel]
    rw [hstart, extract_append_right, String.utf8ByteSize_append]
    exact ⟨Nat.le_add_left .., rfl⟩
  · rintro ⟨hle, hbytes⟩
    -- the last bytes are the encoding of a text, so they start where a character does
    have hvalid : (⟨text.utf8ByteSize - bytes⟩ : String.Pos.Raw).IsValid text := by
      rw [String.Pos.Raw.isValid_iff_isValidUTF8_extract_utf8ByteSize, ← hbytes]
      exact ⟨by simp [String.Pos.Raw.le_iff], suffix.isValidUTF8⟩
    obtain ⟨before, after, rfl, hbefore⟩ := String.Pos.Raw.isValid_iff_exists_append.1 hvalid
    have hstart : (before ++ after).utf8ByteSize - bytes = before.utf8ByteSize :=
      congrArg String.Pos.Raw.byteIdx hbefore
    rw [hstart, extract_append_right, String.toByteArray_inj] at hbytes
    subst hbytes
    rw [String.utf8ByteSize_append] at hstart hle
    exact ⟨by omega, before, rfl⟩

end Text

namespace AccountId

/-! ## Numbers -/

/-- The decimal digits of ASCII. -/
def digits : List Char := ['0', '1', '2', '3', '4', '5', '6', '7', '8', '9']

/-- A text is twelve decimal digits of ASCII and nothing else. -/
structure IsNumber (text : String) : Prop where
  length : text.length = 12
  digits : ∀ c ∈ text.toList, c ∈ digits

theorem isDigit_iff_mem_digits (c : Char) : c.isDigit = true ↔ c ∈ digits := by
  constructor
  · intro h
    obtain ⟨hlow, hhigh⟩ := Char.isDigit_iff_toNat.1 h
    have hdigits : digits = (List.range' 48 10).map Char.ofNat := by decide
    rw [hdigits]
    refine List.mem_map.2 ⟨c.toNat, ?_, Char.ofNat_toNat c⟩
    exact List.mem_range'_1.2 ⟨hlow, Nat.lt_succ_of_le hhigh⟩
  · have hdigits : digits.all Char.isDigit = true := by decide
    exact List.all_eq_true.1 hdigits c

theorem isValid_iff (text : String) : isValid text = true ↔ IsNumber text := by
  rw [isValid, Bool.and_eq_true, decide_eq_true_eq, List.all_eq_true, String.length_toList]
  simp only [isDigit_iff_mem_digits]
  exact ⟨fun ⟨hlength, hdigits⟩ => ⟨hlength, hdigits⟩, fun h => ⟨h.length, h.digits⟩⟩

theorem byteCount_of_isValid {text : String} (h : isValid text = true) :
    Text.byteCount text.toList = width := by
  rw [isValid, Bool.and_eq_true, decide_eq_true_eq] at h
  exact (Text.byteCount_of_all_isDigit h.2).trans h.1

/-! ## The pattern of numbers -/

/-- The pattern of one digit. -/
def digitPattern : RegularExpression Char := (digits.map .char).sum

/-- The pattern of an account number: twelve digits. -/
def pattern : RegularExpression Char := digitPattern ^ 12

theorem mem_matches_sum_iff (cs word : List Char) :
    word ∈ (cs.map RegularExpression.char).sum.matches' ↔ ∃ c ∈ cs, word = [c] := by
  induction cs with
  | nil => simp [Language.notMem_zero]
  | cons d cs ih =>
    rw [List.map_cons, List.sum_cons, RegularExpression.matches'_add, Language.mem_add, ih,
      RegularExpression.matches'_char, List.exists_mem_cons_iff]
    rfl

theorem mem_matches_digitPattern_iff (word : List Char) :
    word ∈ digitPattern.matches' ↔ ∃ c ∈ digits, word = [c] :=
  mem_matches_sum_iff digits word

/-- A pattern of so many digits matches just the words of so many digits. -/
theorem mem_matches_pow_iff (n : Nat) (word : List Char) :
    word ∈ (digitPattern ^ n).matches' ↔ word.length = n ∧ ∀ c ∈ word, c ∈ digits := by
  rw [RegularExpression.matches'_pow]
  induction n generalizing word with
  | zero =>
    rw [pow_zero, Language.mem_one, List.length_eq_zero_iff]
    exact (and_iff_left_of_imp (by rintro rfl; simp)).symm
  | succ n ih =>
    rw [pow_succ', Language.mem_mul]
    simp only [ih, mem_matches_digitPattern_iff]
    constructor
    · rintro ⟨_, ⟨c, hc, rfl⟩, rest, ⟨hlength, hrest⟩, rfl⟩
      exact ⟨congrArg (· + 1) hlength, List.forall_mem_cons.2 ⟨hc, hrest⟩⟩
    · rintro ⟨hlength, hword⟩
      cases word with
      | nil => cases hlength
      | cons c rest =>
        obtain ⟨hc, hrest⟩ := List.forall_mem_cons.1 hword
        exact ⟨[c], ⟨c, hc, rfl⟩, rest, ⟨Nat.succ.inj hlength, hrest⟩, rfl⟩

/-- A text passes as a number exactly when the pattern matches all of it. -/
theorem isValid_iff_rmatch (text : String) :
    isValid text = true ↔ pattern.rmatch text.toList = true := by
  rw [RegularExpression.rmatch_iff_matches', pattern, mem_matches_pow_iff, isValid_iff,
    String.length_toList]
  exact ⟨fun h => ⟨h.length, h.digits⟩, fun ⟨hlength, hdigits⟩ => ⟨hlength, hdigits⟩⟩

/-! ## Reading a number off a name -/

theorem isValid_of_ofArn? {arn account : String} (h : ofArn? arn = some account) :
    isValid account = true :=
  (Option.filter_eq_some_iff.1 h).2

/-- A number is read exactly off the names that end in it. -/
theorem ofArn?_eq_some_iff (arn account : String) :
    ofArn? arn = some account ↔ isValid account = true ∧ ∃ before, arn = before ++ account := by
  rw [ofArn?, Option.filter_eq_some_iff, Text.byteSuffix?_eq_some_iff]
  constructor
  · rintro ⟨⟨-, hends⟩, hvalid⟩
    exact ⟨hvalid, hends⟩
  · rintro ⟨hvalid, hends⟩
    exact ⟨⟨byteCount_of_isValid hvalid, hends⟩, hvalid⟩

/-- A number is read exactly off the names whose last twelve bytes are its encoding. -/
theorem ofArn?_eq_some_iff_extract (arn account : String) :
    ofArn? arn = some account ↔ isValid account = true ∧ width ≤ arn.utf8ByteSize ∧
      account.toByteArray = arn.toByteArray.extract (arn.utf8ByteSize - width)
        arn.utf8ByteSize := by
  rw [ofArn?, Option.filter_eq_some_iff, Text.byteSuffix?_eq_some_iff_extract]
  exact and_comm

theorem ofArn?_arn {account : String} (h : isValid account = true) :
    ofArn? (AccountId.arn account) = some account :=
  (ofArn?_eq_some_iff _ account).2 ⟨h, _, rfl⟩

/-- The ways in which a name has no number at its end. -/
inductive IsUnnumbered (arn : String) : Prop
  | short : arn.utf8ByteSize < 12 → IsUnnumbered arn
  /-- The last twelve bytes begin inside a character. -/
  | inside : Text.IsInsideCharacter 12 arn.toList → IsUnnumbered arn
  /-- The last twelve bytes are the encoding of a text, but it is no number. -/
  | other (before ending : String) : arn = before ++ ending → ending.utf8ByteSize = 12 →
      ¬ IsNumber ending → IsUnnumbered arn

theorem ofArn?_eq_none_iff (arn : String) : ofArn? arn = none ↔ IsUnnumbered arn := by
  have hcuts := Text.byteSuffix?_eq_none_iff width arn
  cases hcut : Text.byteSuffix? width arn with
  | none =>
    refine iff_of_true (by rw [ofArn?, hcut, Option.filter_none]) ?_
    rcases hcuts.1 hcut with hshort | hinside
    · exact .short hshort
    · exact .inside hinside
  | some ending =>
    have hnot : ¬ (arn.utf8ByteSize < width ∨ Text.IsInsideCharacter width arn.toList) := by
      rw [← hcuts, hcut]
      exact Option.some_ne_none ending
    rw [ofArn?, hcut, Option.filter_eq_none_iff]
    constructor
    · intro h
      obtain ⟨hbytes, before, harn⟩ := (Text.byteSuffix?_eq_some_iff ..).1 hcut
      refine .other before ending harn (Text.byteCount_toList ending ▸ hbytes) fun hnumber => ?_
      exact h ending rfl ((isValid_iff ending).2 hnumber)
    · rintro (hshort | hinside | ⟨before, text, harn, hbytes, hno⟩)
      · exact absurd (.inl hshort) hnot
      · exact absurd (.inr hinside) hnot
      · rintro _ ⟨⟩ hvalid
        -- there is only one text that can be cut off
        have htext : Text.byteSuffix? width arn = some text :=
          (Text.byteSuffix?_eq_some_iff ..).2
            ⟨(Text.byteCount_toList text).trans hbytes, before, harn⟩
        rw [hcut, Option.some.injEq] at htext
        exact hno (htext ▸ (isValid_iff ending).1 hvalid)

end AccountId

end AccountLending
