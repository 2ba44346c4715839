/-!
# JSON documents

The tree of a JSON document, precise enough to tell which documents a strict reader accepts: an
integer literal keeps its sign apart from its digits (`-0` is not the integer `0`), any other number
keeps its literal, and a string literal that contains an unpaired surrogate escape denotes no text.
Members of an object keep their order and their repetitions.
-/

namespace AccountLending

/-- The tree of a JSON document. -/
inductive Json
  | null
  | bool (value : Bool)
  /-- A number written with digits only, after an optional minus sign. -/
  | integer (negative : Bool) (magnitude : Nat)
  /-- A number written with a fraction or an exponent. -/
  | decimal (literal : String)
  /-- A string literal; it denotes no text when a surrogate escape in it is unpaired. -/
  | text (value : Option String)
  | array (items : List Json)
  | object (members : List (Option String × Json))
  deriving Inhabited

namespace Json

/-- The string literal of a text. -/
def str (value : String) : Json := .text (some value)

/-- The number of an integer. -/
def int (value : Int) : Json := .integer (value < 0) value.natAbs

/-- The number of a natural number. -/
def nat (value : Nat) : Json := .integer false value

/-- The object with the given members. -/
def record (members : List (String × Json)) : Json :=
  .object (members.map fun (name, value) => (some name, value))

/-- The array of the texts of a list. -/
def texts (values : List String) : Json := .array (values.map str)

/-- A text, or null when it is absent. -/
def textOrNull : Option String → Json
  | none => .null
  | some value => str value

end Json

end AccountLending
