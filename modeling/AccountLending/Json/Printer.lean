import AccountLending.Json.Basic

/-!
# Writing JSON documents

Two forms of a document: `compact` has no blanks at all; `pretty` puts every item on a line of its
own, two blanks deeper than its surroundings, and a blank after each colon, while an empty array or
object stays on its line.  In a string literal only the quote, the backslash and the control
characters are escaped.
-/

namespace AccountLending.Json

/-! ## Literals -/

/-- The lower-case digit of a number below sixteen. -/
def hexDigit (n : Nat) : Char := Nat.digitChar n

/-- How one character is written inside a string literal. -/
def escape (c : Char) : List Char :=
  if c = '"' then ['\\', '"']
  else if c = '\\' then ['\\', '\\']
  else if c = '\x08' then ['\\', 'b']
  else if c = '\t' then ['\\', 't']
  else if c = '\n' then ['\\', 'n']
  else if c = '\x0c' then ['\\', 'f']
  else if c = '\r' then ['\\', 'r']
  else if c < ' ' then ['\\', 'u', '0', '0', hexDigit (c.toNat / 16), hexDigit (c.toNat % 16)]
  else [c]

/-- A string literal; a text that could not be denoted is written as one unpaired surrogate. -/
def literal : Option String → List Char
  | some value => '"' :: value.toList.flatMap escape ++ ['"']
  | none => "\"\\ud800\"".toList

/-- An integer literal. -/
def integerLiteral (negative : Bool) (magnitude : Nat) : List Char :=
  (if negative then ['-'] else []) ++ Nat.toDigits 10 magnitude

/-! ## Compact form -/

mutual

/-- The document without blanks. -/
def written : Json → List Char
  | .null => "null".toList
  | .bool true => "true".toList
  | .bool false => "false".toList
  | .integer negative magnitude => integerLiteral negative magnitude
  | .decimal literal => literal.toList
  | .text value => literal value
  | .array items => '[' :: writtenItems items ++ [']']
  | .object members => '\x7b' :: writtenMembers members ++ ['\x7d']

/-- The items of an array, separated by commas. -/
def writtenItems : List Json → List Char
  | [] => []
  | [item] => written item
  | item :: rest => written item ++ ',' :: writtenItems rest

/-- The members of an object, separated by commas. -/
def writtenMembers : List (Option String × Json) → List Char
  | [] => []
  | [(name, value)] => literal name ++ ':' :: written value
  | (name, value) :: rest => literal name ++ ':' :: written value ++ ',' :: writtenMembers rest

end

/-- The document as text without blanks. -/
def compact (document : Json) : String := String.ofList (written document)

/-! ## Pretty form -/

/-- The blanks in front of an item that stands `depth` levels deep. -/
def indentation (depth : Nat) : List Char := List.replicate (2 * depth) ' '

mutual

/-- The document with one item a line, where the document itself stands `depth` levels deep. -/
def laidOut (depth : Nat) : Json → List Char
  | .array [] => ['[', ']']
  | .array (item :: rest) =>
    '[' :: '\n' :: laidOutItems (depth + 1) (item :: rest) ++ '\n' :: indentation depth ++ [']']
  | .object [] => ['\x7b', '\x7d']
  | .object (member :: rest) =>
    '\x7b' :: '\n' :: laidOutMembers (depth + 1) (member :: rest) ++
      '\n' :: indentation depth ++ ['\x7d']
  | .null => written .null
  | .bool value => written (.bool value)
  | .integer negative magnitude => written (.integer negative magnitude)
  | .decimal literal => written (.decimal literal)
  | .text value => written (.text value)

/-- The items of an array, one a line. -/
def laidOutItems (depth : Nat) : List Json → List Char
  | [] => []
  | [item] => indentation depth ++ laidOut depth item
  | item :: rest =>
    indentation depth ++ laidOut depth item ++ ',' :: '\n' :: laidOutItems depth rest

/-- The members of an object, one a line. -/
def laidOutMembers (depth : Nat) : List (Option String × Json) → List Char
  | [] => []
  | [(name, value)] =>
    indentation depth ++ literal name ++ ':' :: ' ' :: laidOut depth value
  | (name, value) :: rest =>
    indentation depth ++ literal name ++ ':' :: ' ' :: laidOut depth value ++
      ',' :: '\n' :: laidOutMembers depth rest

end

/-- The document as text with one item a line. -/
def pretty (document : Json) : String := String.ofList (laidOut 0 document)

end AccountLending.Json
