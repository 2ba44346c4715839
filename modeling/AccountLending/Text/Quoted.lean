import AccountLending.Text.Unshown

/-!
# Quoted texts

A quoted text stands between double quotes on one printed line: the quote and the backslash are
escaped, four control characters have an escape of their own, and any other character that would not
show is written by its number in hexadecimal.  Everything else, the apostrophe included, stands for
itself.

* `quoted` — a text between double quotes;
* `quotedOption` — the form of a text that may be absent.
-/

namespace AccountLending.Text

/-- The digits of a number in base sixteen, in lower case and without leading zeros. -/
def hexDigits (n : Nat) : List Char := Nat.toDigits 16 n

namespace Quoted

/-- How one character is written between the quotes. -/
def escape (c : Char) : List Char :=
  if c = '\x00' then ['\\', '0']
  else if c = '\t' then ['\\', 't']
  else if c = '\n' then ['\\', 'n']
  else if c = '\r' then ['\\', 'r']
  else if c = '"' then ['\\', '"']
  else if c = '\\' then ['\\', '\\']
  else if isUnshown c then ['\\', 'u', '\x7b'] ++ hexDigits c.toNat ++ ['\x7d']
  else [c]

end Quoted

/-- A text between double quotes. -/
def quoted (text : String) : String :=
  String.ofList ('"' :: text.toList.flatMap Quoted.escape ++ ['"'])

/-- A text that may be absent. -/
def quotedOption : Option String → String
  | none => "None"
  | some text => "Some(" ++ quoted text ++ ")"

example : quoted "a'\u001b\x00é" = "\"a'\\u\x7b1b\x7d\\0é\"" := by decide +kernel

end AccountLending.Text
