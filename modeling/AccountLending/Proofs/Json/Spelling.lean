import Mathlib.Data.List.Basic
import Mathlib.Tactic.SplitIfs
import AccountLending.Json.Printer
import AccountLending.Json.Reader

/-!
# Documents that are written are read back

A document can be written without blanks or with one item a line.  Both ways of writing it are cut
into the same tokens, and these tokens spell the document.  Numbers that are written with a fraction
or an exponent are left out: their literals are kept as they were read, and nothing makes them well
formed.

* `IsExact` — documents without such numbers;
* `tokens` — the tokens of a document;
* `Spell` — characters that are cut into given tokens, wherever they stand;
* `spell_written`, `spell_laidOut` — both ways of writing a document spell its tokens;
* `ofTokens?_tokens` — the tokens of a document give it back;
* `parse?_compact`, `parse?_pretty` — a document that was written is read back.
-/

namespace AccountLending.Json

/-- A document without numbers that are written with a fraction or an exponent. -/
inductive IsExact : Json → Prop
  | null : IsExact .null
  | bool (value : Bool) : IsExact (.bool value)
  | integer (negative : Bool) (magnitude : Nat) : IsExact (.integer negative magnitude)
  | text (value : Option String) : IsExact (.text value)
  | array {items : List Json} (h : ∀ item ∈ items, IsExact item) : IsExact (.array items)
  | object {members : List (Option String × Json)} (h : ∀ member ∈ members, IsExact member.2) :
      IsExact (.object members)

namespace IsExact

theorem str (value : String) : IsExact (.str value) := .text _

theorem int (value : Int) : IsExact (.int value) := .integer ..

theorem nat (value : Nat) : IsExact (.nat value) := .integer ..

theorem textOrNull (value : Option String) : IsExact (.textOrNull value) := by
  cases value with
  | none => exact .null
  | some value => exact .str value

theorem texts (values : List String) : IsExact (.texts values) := by
  refine .array fun item hitem => ?_
  obtain ⟨value, -, rfl⟩ := List.mem_map.1 hitem
  exact .str value

theorem record {members : List (String × Json)} (h : ∀ member ∈ members, IsExact member.2) :
    IsExact (.record members) := by
  refine .object fun _ hwritten => ?_
  obtain ⟨member, hmember, rfl⟩ := List.mem_map.1 hwritten
  exact h member hmember

end IsExact

/-! ## The tokens of a document -/

mutual

/-- The tokens of a document. -/
def tokens : Json → List Token
  | .null => [.scalar .null]
  | .bool value => [.scalar (.bool value)]
  | .integer negative magnitude => [.scalar (.integer negative magnitude)]
  | .decimal literal => [.scalar (.decimal literal)]
  | .text value => [.scalar (.text value)]
  | .array items => .openArray :: itemTokens items ++ [.closeArray]
  | .object members => .openObject :: memberTokens members ++ [.closeObject]

/-- The tokens of items, with commas between them. -/
def itemTokens : List Json → List Token
  | [] => []
  | [item] => tokens item
  | item :: rest => tokens item ++ .comma :: itemTokens rest

/-- The tokens of members, with commas between them. -/
def memberTokens : List (Option String × Json) → List Token
  | [] => []
  | [(name, value)] => .scalar (.text name) :: .colon :: tokens value
  | (name, value) :: rest =>
    .scalar (.text name) :: .colon :: tokens value ++ .comma :: memberTokens rest

end

/-! ## Cutting characters into tokens -/

variable {c : Char} {cs ds rest : List Char} {ts us found : List Token} {token : Token}
  {value : Json}

/-- Whether characters that follow a number end it. -/
def endsNumber : List Char → Bool
  | [] => true
  | c :: _ => !(c.isDigit || c = '.' || c = 'e' || c = 'E')

theorem isGap_of_punctuation (h : punctuation? c = some token) : isGap c = false := by
  unfold punctuation? at h
  split_ifs at h <;> (subst c; rfl)

theorem endsNumber_of_punctuation (h : punctuation? c = some token) :
    endsNumber (c :: rest) = true := by
  unfold punctuation? at h
  split_ifs at h <;> (subst c; rfl)

theorem endsNumber_of_isGap (h : isGap c = true) : endsNumber (c :: rest) = true := by
  simp only [isGap, Bool.or_eq_true, decide_eq_true_eq] at h
  rcases h with ((rfl | rfl) | rfl) | rfl <;> rfl

theorem tokensFrom_gap (h : isGap c = true) :
    tokensFrom found (c :: rest) = tokensFrom found rest := by
  rw [tokensFrom, if_pos h]

theorem tokensFrom_punctuation (h : punctuation? c = some token) :
    tokensFrom found (c :: rest) = tokensFrom (token :: found) rest := by
  rw [tokensFrom, if_neg (by simp [isGap_of_punctuation h]), h]

theorem tokensFrom_scalar (hgap : isGap c = false) (hmark : punctuation? c = none)
    (hscan : scanScalar c cs = some (value, rest)) :
    tokensFrom found (c :: cs) = tokensFrom (.scalar value :: found) rest := by
  rw [tokensFrom, if_neg (by simp [hgap]), hmark]
  dsimp only
  split
  · rename_i hnone
    rw [hnone] at hscan
    cases hscan
  · rename_i hsome
    rw [hsome] at hscan
    cases hscan
    rfl

/-- Characters are cut into tokens, whatever comes before them, and whatever comes after them that
does not go on with a number. -/
def Spell (cs : List Char) (ts : List Token) : Prop :=
  ∀ found rest, endsNumber rest = true →
    tokensFrom found (cs ++ rest) = tokensFrom (ts.reverse ++ found) rest

namespace Spell

theorem nil : Spell [] [] := fun _ _ _ => rfl

theorem gap (h : isGap c = true) (hcs : Spell cs ts) : Spell (c :: cs) ts :=
  fun found rest hrest => by
  rw [List.cons_append, tokensFrom_gap h, hcs found rest hrest]

theorem mark (h : punctuation? c = some token) (hcs : Spell cs ts) :
    Spell (c :: cs) (token :: ts) := by
  intro found rest hrest
  rw [List.cons_append, tokensFrom_punctuation h, hcs _ rest hrest, List.reverse_cons,
    List.append_assoc]
  rfl

theorem append (hcs : Spell cs ts) (hds : Spell ds us)
    (h : ∀ rest, endsNumber rest = true → endsNumber (ds ++ rest) = true) :
    Spell (cs ++ ds) (ts ++ us) := by
  intro found rest hrest
  rw [List.append_assoc, hcs found _ (h rest hrest), hds _ rest hrest, List.reverse_append,
    List.append_assoc]

/-- A mark that follows is a token of its own. -/
theorem append_mark (hcs : Spell cs ts) (h : punctuation? c = some token) (hds : Spell ds us) :
    Spell (cs ++ c :: ds) (ts ++ token :: us) :=
  hcs.append (hds.mark h) fun _ _ => endsNumber_of_punctuation h

/-- A blank that follows belongs to no token. -/
theorem append_gap (hcs : Spell cs ts) (h : isGap c = true) (hds : Spell ds us) :
    Spell (cs ++ c :: ds) (ts ++ us) :=
  hcs.append (hds.gap h) fun _ _ => endsNumber_of_isGap h

theorem tokensFrom_eq (h : Spell cs ts) (hrest : ∀ c ∈ rest, isGap c = true) :
    tokensFrom [] (cs ++ rest) = some ts := by
  have hblank : ∀ found, tokensFrom found rest = some found.reverse := by
    intro found
    induction rest with
    | nil => rw [tokensFrom]
    | cons c rest ih =>
      obtain ⟨hc, hrest⟩ := List.forall_mem_cons.1 hrest
      rw [tokensFrom_gap hc, ih hrest]
  have hends : endsNumber rest = true := by
    cases rest with
    | nil => rfl
    | cons c rest => exact endsNumber_of_isGap (hrest c List.mem_cons_self)
  rw [h [] rest hends, hblank, List.append_nil, List.reverse_reverse]

end Spell

/-! ## Literals -/

theorem scanText_quote (read rest : List Char) :
    scanText (.chars read) ('"' :: rest) = some (some (String.ofList read.reverse), rest) := by
  rw [scanText]
  rfl

/-- A character after a backslash is read as the escape that it is. -/
theorem scanText_simple {c e : Char} (hc : c ≠ 'u') (h : simpleEscape? c = some e)
    (read rest : List Char) :
    scanText (.chars read) ('\\' :: c :: rest) = scanText (.chars (e :: read)) rest := by
  rw [scanText]
  · rw [h]
    rfl
  · rintro a b c' d rest' rfl
    exact absurd rfl hc

/-- A character that needs no escape is read as itself. -/
theorem scanText_plain {c : Char} (hquote : c ≠ '"') (hbackslash : c ≠ '\\') (hcontrol : ¬ c < ' ')
    (read rest : List Char) :
    scanText (.chars read) (c :: rest) = scanText (.chars (c :: read)) rest := by
  rw [scanText, if_neg hcontrol]
  · rfl
  · exact hquote
  · rintro a b c' d rest' rfl
    exact absurd rfl hbackslash
  · rintro c' rest' rfl
    exact absurd rfl hbackslash

/-- A control character is read back from its two lower digits. -/
theorem scanText_control {c : Char} (h : c < ' ') (read rest : List Char) :
    scanText (.chars read)
        ('\\' :: 'u' :: '0' :: '0' :: hexDigit (c.toNat / 16) :: hexDigit (c.toNat % 16) :: rest) =
      scanText (.chars (c :: read)) rest := by
  have hunits : ∀ n < 32, hexUnit? '0' '0' (hexDigit (n / 16)) (hexDigit (n % 16)) = some n ∧
      isLeading n = false ∧ isTrailing n = false := by
    decide
  obtain ⟨hunit, hleading, htrailing⟩ := hunits c.toNat h
  rw [scanText, hunit]
  dsimp only
  rw [TextRead.unit, hleading, htrailing, Char.ofNat_toNat]
  rfl

/-- An escaped character is read back. -/
theorem scanText_escape (read : List Char) (c : Char) (rest : List Char) :
    scanText (.chars read) (escape c ++ rest) = scanText (.chars (c :: read)) rest := by
  unfold escape
  split_ifs with hquote hbackslash hback htab hline hfeed hreturn
  -- all but the last two are escapes of one letter
  all_goals try (subst c; exact scanText_simple (by decide) (by decide) read rest)
  · rename_i hcontrol
    exact scanText_control hcontrol read rest
  · rename_i hcontrol
    exact scanText_plain hquote hbackslash hcontrol read rest

theorem scanText_flatMap_escape (read cs rest : List Char) :
    scanText (.chars read) (cs.flatMap escape ++ '"' :: rest) =
      some (some (String.ofList (read.reverse ++ cs)), rest) := by
  induction cs generalizing read with
  | nil => rw [List.flatMap_nil, List.nil_append, scanText_quote, List.append_nil]
  | cons c cs ih =>
    rw [List.flatMap_cons, List.append_assoc, scanText_escape, ih, List.reverse_cons,
      List.append_assoc]
    rfl

/-- The literal of a text is read back; what denotes no text is written as something that denotes
none. -/
theorem scanScalar_literal (value : Option String) (rest : List Char) :
    ∃ cs, literal value ++ rest = '"' :: cs ∧ scanScalar '"' cs = some (.text value, rest) := by
  cases value with
  | none =>
    refine ⟨'\\' :: 'u' :: 'd' :: '8' :: '0' :: '0' :: '"' :: rest, rfl, ?_⟩
    rw [scanScalar, if_pos rfl, scanText, show hexUnit? 'd' '8' '0' '0' = some 0xd800 by decide]
    dsimp only
    rw [scanText]
    rfl
  | some value =>
    refine ⟨value.toList.flatMap escape ++ '"' :: rest, ?_, ?_⟩
    · exact List.append_assoc ('"' :: value.toList.flatMap escape) ['"'] rest
    · rw [scanScalar, if_pos rfl, scanText_flatMap_escape, List.reverse_nil, List.nil_append,
        String.ofList_toList, Option.map_some]

theorem spell_literal (value : Option String) : Spell (literal value) [.scalar (.text value)] := by
  intro found rest _
  obtain ⟨cs, hliteral, hscan⟩ := scanScalar_literal value rest
  rw [hliteral, tokensFrom_scalar rfl rfl hscan]
  rfl

/-! ### Numbers -/

/-- A positive number does not start with a zero. -/
theorem head?_toDigits {n : Nat} (h : 0 < n) : (Nat.toDigits 10 n).head? ≠ some '0' := by
  induction n using Nat.strongRecOn with
  | ind n ih =>
    rw [Nat.toDigits_eq_if (by decide)]
    split
    · rename_i hsmall
      have hdigits : ∀ n < 10, 0 < n → n.digitChar ≠ '0' := by decide
      simpa using hdigits n hsmall h
    · have hhead := ih (n / 10) (by omega) (by omega)
      rwa [List.head?_append_of_ne_nil _ Nat.toDigits_ne_nil]

theorem digitsValue_toDigits (n : Nat) : digitsValue (Nat.toDigits 10 n) = n := by
  have hvalue := Nat.ofDigitChars_toDigits (b := 10) (n := n) (by decide) (by decide)
  simpa only [digitsValue, Nat.ofDigitChars, Nat.mul_comm] using hvalue

theorem spanDigits_append {digits rest : List Char} (hdigits : ∀ c ∈ digits, c.isDigit = true)
    (hrest : endsNumber rest = true) : spanDigits (digits ++ rest) = (digits, rest) := by
  have hnone : rest.takeWhile Char.isDigit = [] ∧ rest.dropWhile Char.isDigit = rest := by
    cases rest with
    | nil => exact ⟨rfl, rfl⟩
    | cons c rest =>
      have hc : c.isDigit = false := by
        cases hc : c.isDigit with
        | false => rfl
        | true => simp [endsNumber, hc] at hrest
      exact ⟨List.takeWhile_cons_of_neg (by simp [hc]), List.dropWhile_cons_of_neg (by simp [hc])⟩
  rw [spanDigits, List.takeWhile_append_of_pos hdigits, List.dropWhile_append_of_pos hdigits,
    hnone.1, hnone.2, List.append_nil]

theorem scanFraction_of_endsNumber (hrest : endsNumber rest = true) :
    scanFraction rest = some ([], rest) := by
  unfold scanFraction
  split
  · simp [endsNumber] at hrest
  · rfl

theorem scanExponent_of_endsNumber (hrest : endsNumber rest = true) :
    scanExponent rest = some ([], rest) := by
  cases rest with
  | nil => rfl
  | cons c rest =>
    simp only [endsNumber, Bool.not_eq_true', Bool.or_eq_false_iff, decide_eq_false_iff_not]
      at hrest
    obtain ⟨⟨-, hsmall⟩, hlarge⟩ := hrest
    rw [scanExponent, if_neg (by simp [hsmall, hlarge])]

/-- Digits have no superfluous zero in front. -/
theorem length_toDigits_of_head? {n : Nat} (h : (Nat.toDigits 10 n).head? = some '0') :
    (Nat.toDigits 10 n).length = 1 := by
  obtain rfl : n = 0 := Decidable.byContradiction fun hn => head?_toDigits (Nat.pos_of_ne_zero hn) h
  rfl

/-- A number that is written with digits only is read back. -/
theorem scanNumber_toDigits (negative : Bool) (magnitude : Nat) (hrest : endsNumber rest = true) :
    scanNumber negative (Nat.toDigits 10 magnitude ++ rest) =
      some (.integer negative magnitude, rest) := by
  have hspan : spanDigits (Nat.toDigits 10 magnitude ++ rest) = (Nat.toDigits 10 magnitude, rest) :=
    spanDigits_append (fun c hc => Nat.isDigit_of_mem_toDigits (by decide) (by decide) hc) hrest
  have hwhole : ¬ ((Nat.toDigits 10 magnitude).isEmpty = true ∨
      (Nat.toDigits 10 magnitude).head? = some '0' ∧ 1 < (Nat.toDigits 10 magnitude).length) := by
    rintro (hempty | ⟨hhead, hlength⟩)
    · exact Nat.toDigits_ne_nil (List.isEmpty_iff.1 hempty)
    · rw [length_toDigits_of_head? hhead] at hlength
      exact Nat.lt_irrefl _ hlength
  rw [scanNumber, hspan, if_neg hwhole, scanFraction_of_endsNumber hrest]
  simp only [Option.bind_eq_bind, Option.bind_some, scanExponent_of_endsNumber hrest,
    List.isEmpty_nil, Bool.and_self, ↓reduceIte, digitsValue_toDigits]

/-- A digit starts a number without a sign. -/
theorem scanScalar_digit {c : Char} (hc : c.isDigit = true) (cs : List Char) :
    isGap c = false ∧ punctuation? c = none ∧ scanScalar c cs = scanNumber false (c :: cs) := by
  have hne : ∀ d : Char, d.isDigit = false → c ≠ d := by
    rintro d hd rfl
    exact Bool.false_ne_true (hd.symm.trans hc)
  refine ⟨?_, ?_, ?_⟩
  · simp [isGap, hne ' ' rfl, hne '\n' rfl, hne '\t' rfl, hne '\r' rfl]
  · simp [punctuation?, hne '[' rfl, hne ']' rfl, hne '\x7b' rfl, hne '\x7d' rfl, hne ',' rfl,
      hne ':' rfl]
  · rw [scanScalar, if_neg (hne '"' rfl), if_neg (hne '-' rfl), if_pos hc]

theorem spell_integer (negative : Bool) (magnitude : Nat) :
    Spell (integerLiteral negative magnitude) [.scalar (.integer negative magnitude)] := by
  intro found rest hrest
  have hscan := scanNumber_toDigits negative magnitude hrest
  cases negative with
  | true =>
    have hminus : scanScalar '-' (Nat.toDigits 10 magnitude ++ rest) = _ := hscan
    show tokensFrom found ('-' :: (Nat.toDigits 10 magnitude ++ rest)) = _
    rw [tokensFrom_scalar rfl rfl hminus]
    rfl
  | false =>
    obtain ⟨c, cs, hdigits⟩ :=
      List.exists_cons_of_ne_nil (Nat.toDigits_ne_nil (b := 10) (n := magnitude))
    have hc : c.isDigit = true :=
      Nat.isDigit_of_mem_toDigits (by decide) (by decide) (hdigits ▸ List.mem_cons_self)
    obtain ⟨hgap, hmark, hdigit⟩ := scanScalar_digit hc (cs ++ rest)
    rw [hdigits, List.cons_append, ← hdigit] at hscan
    show tokensFrom found (Nat.toDigits 10 magnitude ++ rest) = _
    rw [hdigits, List.cons_append, tokensFrom_scalar hgap hmark hscan]
    rfl

/-! ## Documents without blanks -/

theorem spell_null : Spell "null".toList [.scalar .null] := fun _ rest _ =>
  have hscan : scanScalar 'n' ('u' :: 'l' :: 'l' :: rest) = some (.null, rest) := rfl
  tokensFrom_scalar rfl rfl hscan

theorem spell_bool (value : Bool) : Spell (written (.bool value)) [.scalar (.bool value)] :=
  fun _ rest _ =>
  match value with
  | true =>
    have hscan : scanScalar 't' ('r' :: 'u' :: 'e' :: rest) = some (.bool true, rest) := rfl
    tokensFrom_scalar rfl rfl hscan
  | false =>
    have hscan : scanScalar 'f' ('a' :: 'l' :: 's' :: 'e' :: rest) = some (.bool false, rest) := rfl
    tokensFrom_scalar rfl rfl hscan

theorem spell_writtenItems {items : List Json}
    (h : ∀ item ∈ items, Spell (written item) (tokens item)) :
    Spell (writtenItems items) (itemTokens items) := by
  induction items with
  | nil => exact .nil
  | cons item rest ih =>
    obtain ⟨hitem, hrest⟩ := List.forall_mem_cons.1 h
    cases rest with
    | nil => exact hitem
    | cons next rest => exact hitem.append_mark rfl (ih hrest)

theorem spell_writtenMembers {members : List (Option String × Json)}
    (h : ∀ member ∈ members, Spell (written member.2) (tokens member.2)) :
    Spell (writtenMembers members) (memberTokens members) := by
  induction members with
  | nil => exact .nil
  | cons member rest ih =>
    obtain ⟨name, value⟩ := member
    obtain ⟨hvalue, hrest⟩ := List.forall_mem_cons.1 h
    have hmember := (spell_literal name).append_mark (c := ':') rfl hvalue
    cases rest with
    | nil => exact hmember
    | cons next rest => exact hmember.append_mark rfl (ih hrest)

/-- A document that is written without blanks spells its tokens. -/
theorem spell_written {document : Json} (h : IsExact document) :
    Spell (written document) (tokens document) := by
  induction h with
  | null => exact spell_null
  | bool value => exact spell_bool value
  | integer negative magnitude => exact spell_integer negative magnitude
  | text value => exact spell_literal value
  | array _ ih => exact ((spell_writtenItems ih).mark rfl).append_mark rfl .nil
  | object _ ih => exact ((spell_writtenMembers ih).mark rfl).append_mark rfl .nil

/-! ## Documents with one item a line -/

theorem Spell.indent (h : Spell cs ts) (depth : Nat) : Spell (indentation depth ++ cs) ts := by
  rw [indentation]
  induction 2 * depth with
  | zero => exact h
  | succ n ih => exact ih.gap rfl

theorem spell_laidOutItems {depth : Nat} {items : List Json}
    (h : ∀ item ∈ items, Spell (laidOut depth item) (tokens item)) :
    Spell (laidOutItems depth items) (itemTokens items) := by
  induction items with
  | nil => exact .nil
  | cons item rest ih =>
    obtain ⟨hitem, hrest⟩ := List.forall_mem_cons.1 h
    cases rest with
    | nil => exact hitem.indent depth
    | cons next rest => exact (hitem.indent depth).append_mark rfl ((ih hrest).gap rfl)

theorem spell_laidOutMembers {depth : Nat} {members : List (Option String × Json)}
    (h : ∀ member ∈ members, Spell (laidOut depth member.2) (tokens member.2)) :
    Spell (laidOutMembers depth members) (memberTokens members) := by
  induction members with
  | nil => exact .nil
  | cons member rest ih =>
    obtain ⟨name, value⟩ := member
    obtain ⟨hvalue, hrest⟩ := List.forall_mem_cons.1 h
    have hmember :=
      ((spell_literal name).indent depth).append_mark (c := ':') rfl (hvalue.gap (c := ' ') rfl)
    cases rest with
    | nil => exact hmember
    | cons next rest => exact hmember.append_mark rfl ((ih hrest).gap rfl)

/-- Items on lines of their own, up to the bracket that closes them. -/
theorem Spell.closed (h : Spell cs ts) (hmark : punctuation? c = some token) (depth : Nat) :
    Spell (cs ++ '\n' :: indentation depth ++ [c]) (ts ++ [token]) := by
  rw [List.append_assoc]
  exact h.append_gap rfl ((Spell.nil.mark hmark).indent depth)

/-- A document that is written with one item a line spells its tokens. -/
theorem spell_laidOut {document : Json} (h : IsExact document) (depth : Nat) :
    Spell (laidOut depth document) (tokens document) := by
  induction h generalizing depth with
  | null => exact spell_null
  | bool value => exact spell_bool value
  | integer negative magnitude => exact spell_integer negative magnitude
  | text value => exact spell_literal value
  | @array items _ ih =>
    have hitems := spell_laidOutItems fun item hitem => ih item hitem (depth + 1)
    cases items with
    | nil => exact (Spell.nil.mark rfl).mark rfl
    | cons item rest => exact ((hitems.gap rfl).mark rfl).closed rfl depth
  | @object members _ ih =>
    have hmembers := spell_laidOutMembers fun member hmember => ih member hmember (depth + 1)
    cases members with
    | nil => exact (Spell.nil.mark rfl).mark rfl
    | cons member rest => exact ((hmembers.gap rfl).mark rfl).closed rfl depth

/-! ## Reading the tokens of a document -/

/-- The first token of an item is not the end of the array. -/
theorem foldlM_firstItem (item : Json) (items : List Json) (frames : List Frame)
    (rest : List Token) :
    (itemTokens (item :: items) ++ rest).foldlM Progress.step (.firstItem frames) =
      (itemTokens (item :: items) ++ rest).foldlM Progress.step
        (.needsValue (.array [] :: frames)) := by
  cases items <;> cases item <;> rfl

theorem foldlM_firstMember (member : Option String × Json) (members : List (Option String × Json))
    (frames : List Frame) (rest : List Token) :
    (memberTokens (member :: members) ++ rest).foldlM Progress.step (.firstMember frames) =
      (memberTokens (member :: members) ++ rest).foldlM Progress.step (.nextMember [] frames) := by
  cases members <;> rfl

/-- Where a value is needed, the tokens of a document are read as the document. -/
def IsRead (document : Json) : Prop :=
  ∀ frames rest, (tokens document ++ rest).foldlM Progress.step (.needsValue frames) =
    rest.foldlM Progress.step (.complete document frames)

/-- The items of an array are read up to its end. -/
theorem foldlM_itemTokens {item : Json} {items : List Json} (hitem : IsRead item)
    (hitems : ∀ item ∈ items, IsRead item) (done : List Json) (frames : List Frame)
    (rest : List Token) :
    (itemTokens (item :: items) ++ .closeArray :: rest).foldlM Progress.step
        (.needsValue (.array done :: frames)) =
      rest.foldlM Progress.step (.complete (.array (done.reverse ++ item :: items)) frames) := by
  induction items generalizing item done with
  | nil =>
    rw [itemTokens, hitem, ← List.reverse_cons]
    rfl
  | cons next items ih =>
    obtain ⟨hnext, hitems⟩ := List.forall_mem_cons.1 hitems
    have hrest := ih hnext hitems (item :: done)
    rw [List.reverse_cons, List.append_assoc] at hrest
    show (tokens item ++ Token.comma :: itemTokens (next :: items) ++
      Token.closeArray :: rest).foldlM Progress.step
      (.needsValue (.array done :: frames)) = _
    rw [List.append_assoc, hitem]
    exact hrest

/-- The members of an object are read up to its end. -/
theorem foldlM_memberTokens {member : Option String × Json} {members : List (Option String × Json)}
    (hmember : IsRead member.2) (hmembers : ∀ member ∈ members, IsRead member.2)
    (done : List (Option String × Json)) (frames : List Frame) (rest : List Token) :
    (memberTokens (member :: members) ++ .closeObject :: rest).foldlM Progress.step
      (.nextMember done frames) =
      rest.foldlM Progress.step
        (.complete (.object (done.reverse ++ member :: members)) frames) := by
  induction members generalizing member done with
  | nil =>
    show (tokens member.2 ++ Token.closeObject :: rest).foldlM Progress.step
      (.needsValue (.member done member.1 :: frames)) = _
    rw [hmember, ← List.reverse_cons]
    rfl
  | cons next members ih =>
    obtain ⟨hnext, hmembers⟩ := List.forall_mem_cons.1 hmembers
    have hrest := ih hnext hmembers (member :: done)
    rw [List.reverse_cons, List.append_assoc] at hrest
    show (tokens member.2 ++ Token.comma :: memberTokens (next :: members) ++
      Token.closeObject :: rest).foldlM Progress.step
      (.needsValue (.member done member.1 :: frames)) = _
    rw [List.append_assoc, hmember]
    exact hrest

theorem isRead (document : Json) : IsRead document := by
  intro frames rest
  match document with
  | .null => rfl
  | .bool value => rfl
  | .integer negative magnitude => rfl
  | .decimal literal => rfl
  | .text value => rfl
  | .array [] => rfl
  | .object [] => rfl
  | .array (item :: items) =>
    show (itemTokens (item :: items) ++ [Token.closeArray] ++ rest).foldlM Progress.step
      (.firstItem frames) = _
    rw [List.append_assoc, foldlM_firstItem]
    exact foldlM_itemTokens (isRead item) (fun item _ => isRead item) [] frames rest
  | .object ((name, value) :: members) =>
    show (memberTokens ((name, value) :: members) ++ [Token.closeObject] ++ rest).foldlM
      Progress.step (.firstMember frames) = _
    rw [List.append_assoc, foldlM_firstMember]
    exact foldlM_memberTokens (isRead value) (fun member _ => isRead member.2) [] frames rest
termination_by document
decreasing_by
  · decreasing_tactic
  · decreasing_tactic
  · decreasing_tactic
  · have hmember := List.sizeOf_lt_of_mem ‹member ∈ members›
    cases member
    simp only [object.sizeOf_spec, List.cons.sizeOf_spec, Prod.mk.sizeOf_spec] at hmember ⊢
    omega

/-- The tokens of a document give it back. -/
theorem ofTokens?_tokens (document : Json) : ofTokens? (tokens document) = some document := by
  have h := isRead document [] []
  rw [List.append_nil] at h
  rw [ofTokens?, h]
  rfl

/-! ## Texts -/

/-- A text that spells a document, with blanks at its end, is read as the document. -/
theorem parse?_of_spell {text : String} {document : Json} (h : Spell cs (tokens document))
    (gaps : List Char) (hgaps : ∀ c ∈ gaps, isGap c = true) (htext : text.toList = cs ++ gaps) :
    parse? text = some document := by
  rw [parse?, tokens?, htext, h.tokensFrom_eq hgaps]
  exact ofTokens?_tokens document

/-- A document that was written without blanks is read back. -/
theorem parse?_compact {document : Json} (h : IsExact document) :
    parse? document.compact = some document :=
  parse?_of_spell (spell_written h) [] (by simp) (by simp [compact])

/-- A document that was written with one item a line is read back. -/
theorem parse?_pretty {document : Json} (h : IsExact document) :
    parse? document.pretty = some document :=
  parse?_of_spell (spell_laidOut h 0) [] (by simp) (by simp [pretty])

end AccountLending.Json
