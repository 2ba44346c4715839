import AccountLending.Json.Basic

/-!
# The tokens of a JSON text

A JSON text is cut into tokens: the six punctuation marks and the scalar literals.  Blanks between
tokens are the blank, the tab and the two line ends, and nothing else.  The scanners of literals
take the characters after the literal's start and return what is left, which is never longer
(`scanText_length`, `scanNumber_length`), so cutting a text terminates.
-/

namespace AccountLending.Json

/-- A token of a JSON text. -/
inductive Token
  | openArray
  | closeArray
  | openObject
  | closeObject
  | comma
  | colon
  /-- A literal other than an array or an object. -/
  | scalar (value : Json)

/-- The characters that may stand between tokens. -/
def isGap (c : Char) : Bool := c = ' ' || c = '\n' || c = '\t' || c = '\r'

/-! ## String literals -/

/-- The value of a hexadecimal digit. -/
def hexValue? (c : Char) : Option Nat :=
  if '0' ≤ c ∧ c ≤ '9' then some (c.toNat - '0'.toNat)
  else if 'a' ≤ c ∧ c ≤ 'f' then some (c.toNat - 'a'.toNat + 10)
  else if 'A' ≤ c ∧ c ≤ 'F' then some (c.toNat - 'A'.toNat + 10)
  else none

/-- The value of four hexadecimal digits. -/
def hexUnit? (a b c d : Char) : Option Nat := do
  return ((← hexValue? a) * 16 + (← hexValue? b)) * 256 + (← hexValue? c) * 16 + (← hexValue? d)

/-- The character that a one-letter escape stands for. -/
def simpleEscape? (c : Char) : Option Char :=
  if c = '"' ∨ c = '\\' ∨ c = '/' then some c
  else if c = 'b' then some '\x08'
  else if c = 'f' then some '\x0c'
  else if c = 'n' then some '\n'
  else if c = 'r' then some '\r'
  else if c = 't' then some '\t'
  else none

/-- Whether a unit is the first half of a surrogate pair. -/
def isLeading (unit : Nat) : Bool := 0xD800 ≤ unit && unit < 0xDC00

/-- Whether a unit is the second half of a surrogate pair. -/
def isTrailing (unit : Nat) : Bool := 0xDC00 ≤ unit && unit < 0xE000

/-- The character of a surrogate pair. -/
def pairedChar (leading trailing : Nat) : Char :=
  Char.ofNat (0x10000 + (leading - 0xD800) * 0x400 + (trailing - 0xDC00))

/-- What has been read of a string literal. -/
inductive TextRead
  /-- Characters only, the last one first. -/
  | chars (read : List Char)
  /-- Characters, then the first half of a surrogate pair. -/
  | half (read : List Char) (leading : Nat)
  /-- A surrogate without its other half: the literal denotes no text. -/
  | unpaired

namespace TextRead

/-- Read on by a character. -/
def char : TextRead → Char → TextRead
  | .chars read, c => .chars (c :: read)
  | _, _ => .unpaired

/-- Read on by an escaped unit. -/
def unit : TextRead → Nat → TextRead
  | .chars read, n =>
    if isLeading n then .half read n
    else if isTrailing n then .unpaired
    else .chars (Char.ofNat n :: read)
  | .half read leading, n =>
    if isTrailing n then .chars (pairedChar leading n :: read) else .unpaired
  | .unpaired, _ => .unpaired

/-- The text that the literal denotes when it ends here. -/
def text? : TextRead → Option String
  | .chars read => some (String.ofList read.reverse)
  | _ => none

end TextRead

/-- Scan the rest of a string literal, which must be well formed even when it denotes no text. -/
def scanText (read : TextRead) : List Char → Option (Option String × List Char)
  | [] => none
  | '"' :: rest => some (read.text?, rest)
  | '\\' :: 'u' :: a :: b :: c :: d :: rest =>
    match hexUnit? a b c d with
    | none => none
    | some n => scanText (read.unit n) rest
  | '\\' :: c :: rest =>
    match simpleEscape? c with
    | none => none
    | some e => scanText (read.char e) rest
  | c :: rest => if c < ' ' then none else scanText (read.char c) rest

theorem scanText_length {read : TextRead} {cs rest : List Char} {value : Option String}
    (h : scanText read cs = some (value, rest)) : rest.length < cs.length := by
  fun_induction scanText read cs with
  | case1 => cases h
  | case2 => cases h; simp
  | case3 => cases h
  | case4 read a b c d r n hunit ih =>
    have := ih h; simp only [List.length_cons]; omega
  | case5 => cases h
  | case6 read c r hno e he ih =>
    have := ih h; simp only [List.length_cons]; omega
  | case7 => cases h
  | case8 read c r hq hu hb hlt ih =>
    have := ih h; simp only [List.length_cons]; omega

/-! ## Numbers -/

/-- The leading digits of a character list and what follows them. -/
def spanDigits (cs : List Char) : List Char × List Char :=
  (cs.takeWhile Char.isDigit, cs.dropWhile Char.isDigit)

theorem spanDigits_length (cs : List Char) : (spanDigits cs).2.length ≤ cs.length :=
  (List.dropWhile_suffix _).length_le

/-- The number that decimal digits denote. -/
def digitsValue (digits : List Char) : Nat :=
  digits.foldl (fun n c => n * 10 + (c.toNat - '0'.toNat)) 0

/-- Scan an optional fraction: a point and at least one digit. -/
def scanFraction : List Char → Option (List Char × List Char)
  | '.' :: rest =>
    let found := spanDigits rest
    if found.1.isEmpty then none else some ('.' :: found.1, found.2)
  | cs => some ([], cs)

/-- Scan an optional sign. -/
def scanSign : List Char → List Char × List Char
  | c :: rest => if c = '+' ∨ c = '-' then ([c], rest) else ([], c :: rest)
  | [] => ([], [])

/-- Scan an optional exponent: a letter, an optional sign and at least one digit. -/
def scanExponent : List Char → Option (List Char × List Char)
  | c :: rest =>
    if c = 'e' ∨ c = 'E' then
      let signed := scanSign rest
      let found := spanDigits signed.2
      if found.1.isEmpty then none else some (c :: signed.1 ++ found.1, found.2)
    else some ([], c :: rest)
  | [] => some ([], [])

/-- Scan a number after its sign.  Its whole part is a single zero or starts with another digit. -/
def scanNumber (negative : Bool) (cs : List Char) : Option (Json × List Char) :=
  let whole := (spanDigits cs).1
  if whole.isEmpty ∨ (whole.head? = some '0' ∧ 1 < whole.length) then none
  else do
    let fraction ← scanFraction (spanDigits cs).2
    let exponent ← scanExponent fraction.2
    -- with a fraction or an exponent it is no integer, whatever its value
    if fraction.1.isEmpty && exponent.1.isEmpty then
      some (.integer negative (digitsValue whole), exponent.2)
    else
      let sign := if negative then ['-'] else []
      some (.decimal (String.ofList (sign ++ whole ++ fraction.1 ++ exponent.1)), exponent.2)

theorem scanFraction_length {cs : List Char} {found : List Char × List Char}
    (h : scanFraction cs = some found) : found.2.length ≤ cs.length := by
  unfold scanFraction at h
  split at h
  · rename_i r
    have := spanDigits_length r
    simp only at h
    split at h
    · cases h
    · cases h; simp only [List.length_cons]; omega
  · cases h; exact Nat.le_refl _

theorem scanSign_length (cs : List Char) : (scanSign cs).2.length ≤ cs.length := by
  unfold scanSign
  split
  · split <;> simp
  · simp

theorem scanExponent_length {cs : List Char} {found : List Char × List Char}
    (h : scanExponent cs = some found) : found.2.length ≤ cs.length := by
  unfold scanExponent at h
  split at h
  · rename_i c r
    split at h
    · have h1 := scanSign_length r
      have h2 := spanDigits_length (scanSign r).2
      simp only at h
      split at h
      · cases h
      · cases h; simp only [List.length_cons]; omega
    · cases h; exact Nat.le_refl _
  · cases h; exact Nat.le_refl _

theorem scanNumber_length {negative : Bool} {cs rest : List Char} {value : Json}
    (h : scanNumber negative cs = some (value, rest)) : rest.length ≤ cs.length := by
  have h0 := spanDigits_length cs
  unfold scanNumber at h
  simp only at h
  split at h
  · cases h
  · simp only [Option.bind_eq_bind, Option.bind_eq_some_iff] at h
    obtain ⟨fraction, hf, exponent, he, h⟩ := h
    have h1 := scanFraction_length hf
    have h2 := scanExponent_length he
    split at h <;> cases h <;> omega

/-! ## Texts -/

/-- What remains after a word, when the characters start with it. -/
def afterWord? : List Char → List Char → Option (List Char)
  | [], cs => some cs
  | _ :: _, [] => none
  | w :: word, c :: cs => if w = c then afterWord? word cs else none

theorem afterWord?_length {word cs rest : List Char} (h : afterWord? word cs = some rest) :
    rest.length ≤ cs.length := by
  fun_induction afterWord? word cs with
  | case1 => cases h; exact Nat.le_refl _
  | case2 => cases h
  | case3 word c cs ih => have := ih h; simp only [List.length_cons]; omega
  | case4 => cases h

/-- The punctuation mark that a character is. -/
def punctuation? (c : Char) : Option Token :=
  if c = '[' then some .openArray
  else if c = ']' then some .closeArray
  else if c = '\x7b' then some .openObject
  else if c = '\x7d' then some .closeObject
  else if c = ',' then some .comma
  else if c = ':' then some .colon
  else none

/-- Scan the literal that starts with a character. -/
def scanScalar (c : Char) (rest : List Char) : Option (Json × List Char) :=
  if c = '"' then (scanText (.chars []) rest).map fun (value, rest) => (.text value, rest)
  else if c = '-' then scanNumber true rest
  else if c.isDigit then scanNumber false (c :: rest)
  else if c = 'n' then (afterWord? ['u', 'l', 'l'] rest).map ((.null, ·))
  else if c = 't' then (afterWord? ['r', 'u', 'e'] rest).map ((.bool true, ·))
  else if c = 'f' then (afterWord? ['a', 'l', 's', 'e'] rest).map ((.bool false, ·))
  else none

theorem scanNumber_length_lt {c : Char} {negative : Bool} {cs rest : List Char} {value : Json}
    (hc : c.isDigit = true) (h : scanNumber negative (c :: cs) = some (value, rest)) :
    rest.length < (c :: cs).length := by
  have h0 : (spanDigits (c :: cs)).2.length ≤ cs.length := by
    simp only [spanDigits, List.dropWhile_cons, hc, ↓reduceIte]
    exact (List.dropWhile_suffix _).length_le
  unfold scanNumber at h
  simp only at h
  split at h
  · cases h
  · simp only [Option.bind_eq_bind, Option.bind_eq_some_iff] at h
    obtain ⟨fraction, hf, exponent, he, h⟩ := h
    have h1 := scanFraction_length hf
    have h2 := scanExponent_length he
    simp only [List.length_cons]
    split at h <;> cases h <;> omega

theorem scanScalar_length {c : Char} {cs rest : List Char} {value : Json}
    (h : scanScalar c cs = some (value, rest)) : rest.length < (c :: cs).length := by
  unfold scanScalar at h
  split at h
  · simp only [Option.map_eq_some_iff, Prod.mk.injEq, Prod.exists] at h
    obtain ⟨v, r, h, -, rfl⟩ := h
    have := scanText_length h
    simp only [List.length_cons]; omega
  split at h
  · have := scanNumber_length h
    simp only [List.length_cons]; omega
  split at h
  · rename_i hd
    exact scanNumber_length_lt hd h
  repeat'
    split at h
    · simp only [Option.map_eq_some_iff, Prod.mk.injEq] at h
      obtain ⟨r, h, -, rfl⟩ := h
      have := afterWord?_length h
      simp only [List.length_cons]; omega
  cases h

/-- Cut a text into tokens, where those already found are kept in reverse. -/
def tokensFrom (found : List Token) : List Char → Option (List Token)
  | [] => some found.reverse
  | c :: rest =>
    if isGap c then tokensFrom found rest
    else match punctuation? c with
      | some token => tokensFrom (token :: found) rest
      | none =>
        match _ : scanScalar c rest with
        | none => none
        | some (value, rest') => tokensFrom (.scalar value :: found) rest'
  termination_by cs => cs.length
  decreasing_by
    · simp
    · simp
    · exact scanScalar_length (by assumption)

/-- Cut a text into tokens. -/
def tokens? (text : String) : Option (List Token) := tokensFrom [] text.toList

end AccountLending.Json
