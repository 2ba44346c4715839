/-!
# Blank characters

A character is blank when Unicode gives it the property White_Space: the six ASCII blanks, the
next-line control, and the space, line and paragraph separators.  Zero-width characters such as
U+200B and U+FEFF do not have the property.

* `isBlank_of_isWhitespace` — every ASCII blank is blank.
-/

namespace AccountLending.Text

/-- The first and last code points of the ranges with the property White_Space. -/
def blankRanges : List (Nat × Nat) :=
  [(0x09, 0x0D), (0x20, 0x20), (0x85, 0x85), (0xA0, 0xA0), (0x1680, 0x1680), (0x2000, 0x200A),
   (0x2028, 0x2029), (0x202F, 0x202F), (0x205F, 0x205F), (0x3000, 0x3000)]

/-- Whether a character has the property White_Space. -/
def isBlank (c : Char) : Bool := blankRanges.any fun (low, high) => low ≤ c.toNat && c.toNat ≤ high

theorem isBlank_of_isWhitespace {c : Char} (h : c.isWhitespace = true) : isBlank c = true := by
  simp only [Char.isWhitespace, Bool.or_eq_true, decide_eq_true_eq] at h
  rcases h with ((rfl | rfl) | rfl) | rfl <;> decide

example : blankRanges.length = 10 := rfl
example : isBlank '\u200b' = false ∧ isBlank '\ufeff' = false ∧ isBlank '\u3000' = true := by decide

/-- A text without the blank characters at its two ends. -/
def trim (text : String) : String :=
  String.ofList ((text.toList.dropWhile isBlank).reverse.dropWhile isBlank).reverse

/-- Whether a text has no character that is not blank. -/
def isAllBlank (text : String) : Bool := text.toList.all isBlank

end AccountLending.Text
