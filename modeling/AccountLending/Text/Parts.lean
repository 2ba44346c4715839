/-!
# Cutting texts apart

The few ways in which this library takes a text apart: by a leading text, by a separator, and by a
number of bytes counted from the end.  All of them work on the characters of the text; only
`byteSuffix?` counts in bytes of the UTF-8 encoding, and it never cuts a character in two.

* `pieces_append_cons` — a separator starts a new piece;
* `intercalate_pieces` — nothing but the separators is lost;
* `byteSuffix?_eq_some_iff` — the suffix found is the suffix of that many bytes.
-/

namespace AccountLending.Text

/-- Whether `text` starts with `start`. -/
def hasPrefix (start text : String) : Bool := start.toList.isPrefixOf text.toList

theorem hasPrefix_iff (start text : String) :
    hasPrefix start text = true ↔ ∃ rest, text = start ++ rest := by
  rw [hasPrefix, List.isPrefixOf_iff_prefix]
  constructor
  · rintro ⟨rest, h⟩
    exact ⟨String.ofList rest, String.toList_inj.1 (by simp [← h])⟩
  · rintro ⟨rest, rfl⟩
    exact ⟨rest.toList, by simp⟩

/-! ## Separators -/

/-- The parts of a character list between the occurrences of a separator; there is always at least
one. -/
def pieces (separator : Char) : List Char → List (List Char)
  | [] => [[]]
  | c :: rest =>
    if c = separator then [] :: pieces separator rest
    else match pieces separator rest with
      | [] => [[c]]
      | piece :: more => (c :: piece) :: more

theorem pieces_ne_nil (separator : Char) (cs : List Char) : pieces separator cs ≠ [] := by
  cases cs with
  | nil => simp [pieces]
  | cons c rest =>
    rw [pieces]
    split
    · simp
    · split <;> simp

/-- A separator ends the piece before it and starts a new one. -/
theorem pieces_append_cons (separator : Char) (cs rest : List Char) (h : separator ∉ cs) :
    pieces separator (cs ++ separator :: rest) = cs :: pieces separator rest := by
  induction cs with
  | nil => simp [pieces]
  | cons c cs ih =>
    have hc : c ≠ separator := fun e => h (e ▸ List.mem_cons_self)
    have := ih fun hmem => h (List.mem_cons_of_mem _ hmem)
    simp [pieces, hc, this]

/-- The pieces with the separator between them are the characters again. -/
theorem intercalate_pieces (separator : Char) (cs : List Char) :
    [separator].intercalate (pieces separator cs) = cs := by
  induction cs with
  | nil => simp [pieces]
  | cons c rest ih =>
    rw [pieces]
    cases hp : pieces separator rest with
    | nil => exact absurd hp (pieces_ne_nil separator rest)
    | cons piece more =>
      rw [hp] at ih
      split
      · rename_i hc
        rw [List.intercalate_cons_cons, ih, hc]
        rfl
      · cases more with
        | nil => simpa using ih
        | cons next others =>
          rw [List.intercalate_cons_cons] at ih
          rw [List.intercalate_cons_cons, ← ih]
          rfl

/-- The part of a text between two separators, counted from zero. -/
def field? (separator : Char) (index : Nat) (text : String) : Option String :=
  (pieces separator text.toList)[index]?.map String.ofList

/-- What follows the last separator; the whole text when there is none. -/
def afterLast (separator : Char) (text : String) : String :=
  String.ofList (text.toList.reverse.takeWhile (· ≠ separator)).reverse

/-- What stands before and after the first separator, when there is one. -/
def splitFirst? (separator : Char) : List Char → Option (List Char × List Char)
  | [] => none
  | c :: rest =>
    if c = separator then some ([], rest)
    else (splitFirst? separator rest).map fun (before, after) => (c :: before, after)

/-! ## Bytes from the end -/

/-- The number of bytes of the UTF-8 encoding of a character list. -/
def byteCount : List Char → Nat
  | [] => 0
  | c :: cs => c.utf8Size + byteCount cs

/-- The suffix of a character list that is `bytes` long, where `size` is the length of the whole. -/
def byteSuffixFrom? (bytes size : Nat) (cs : List Char) : Option (List Char) :=
  if size = bytes then some cs
  else match cs with
    | [] => none
    | c :: rest => if size < bytes then none else byteSuffixFrom? bytes (size - c.utf8Size) rest

/-- The suffix of a text that is exactly `bytes` long; none when the text is shorter or the cut
would fall inside a character. -/
def byteSuffix? (bytes : Nat) (text : String) : Option String :=
  (byteSuffixFrom? bytes (byteCount text.toList) text.toList).map String.ofList

@[simp] theorem byteCount_nil : byteCount [] = 0 := rfl

@[simp] theorem byteCount_cons (c : Char) (cs : List Char) :
    byteCount (c :: cs) = c.utf8Size + byteCount cs := rfl

@[simp] theorem byteCount_append (cs ds : List Char) :
    byteCount (cs ++ ds) = byteCount cs + byteCount ds := by
  induction cs with
  | nil => simp
  | cons c cs ih => simp [ih, Nat.add_assoc]

theorem byteSuffixFrom?_eq_some_iff (bytes : Nat) (cs suffix : List Char) :
    byteSuffixFrom? bytes (byteCount cs) cs = some suffix ↔
      byteCount suffix = bytes ∧ ∃ before, cs = before ++ suffix := by
  induction cs with
  | nil =>
    rw [byteSuffixFrom?]
    constructor
    · intro h
      split at h
      · rename_i hb
        cases h
        exact ⟨hb, [], rfl⟩
      · cases h
    · rintro ⟨hb, before, h⟩
      obtain ⟨rfl, rfl⟩ := List.append_eq_nil_iff.1 h.symm
      simp [hb]
  | cons c rest ih =>
    have hpos : 0 < c.utf8Size := c.utf8Size_pos
    rw [byteSuffixFrom?, byteCount_cons, Nat.add_sub_cancel_left]
    constructor
    · intro h
      split at h
      · rename_i hb
        cases h
        exact ⟨by simpa using hb, [], rfl⟩
      · split at h
        · cases h
        · obtain ⟨hb, before, rfl⟩ := ih.1 h
          exact ⟨hb, c :: before, rfl⟩
    · rintro ⟨hb, before, h⟩
      cases before with
      | nil =>
        obtain rfl : suffix = c :: rest := h.symm
        simp at hb
        simp [hb]
      | cons d before =>
        rw [List.cons_append, List.cons.injEq] at h
        obtain ⟨rfl, rfl⟩ := h
        have hle : bytes ≤ byteCount (before ++ suffix) := by simp [hb]
        rw [if_neg (by omega), if_neg (by omega)]
        exact ih.2 ⟨hb, before, rfl⟩

/-- The suffix found is the one of that many bytes. -/
theorem byteSuffix?_eq_some_iff (bytes : Nat) (text suffix : String) :
    byteSuffix? bytes text = some suffix ↔
      byteCount suffix.toList = bytes ∧ ∃ before, text = before ++ suffix := by
  rw [byteSuffix?, Option.map_eq_some_iff]
  constructor
  · rintro ⟨cs, h, rfl⟩
    obtain ⟨hb, before, h⟩ := (byteSuffixFrom?_eq_some_iff _ _ _).1 h
    exact ⟨by simpa using hb, String.ofList before, String.toList_inj.1 (by simp [h])⟩
  · rintro ⟨hb, before, rfl⟩
    exact ⟨suffix.toList, (byteSuffixFrom?_eq_some_iff _ _ _).2 ⟨hb, before.toList, by simp⟩,
      by simp⟩

end AccountLending.Text
