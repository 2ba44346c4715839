import AccountLending.Json.Basic
import AccountLending.Dict

/-!
# Reading records out of documents

A record with named fields is written as an object, or as the array of its values in the order of
the fields.  As an object it may have unknown members, which are ignored whatever they hold, but no
known member twice, and every name must be a text.  As an array it may end early and may not go on.

`Fields.required`, `Fields.withDefault` and `Fields.optional` read one field; the readers of
scalars, lists and dictionaries refuse every other kind of value, and an integer must be written as
an integer: no fraction, no exponent, and no minus sign on zero.
-/

namespace AccountLending.Json

/-! ## Values -/

/-- A text. -/
def text? : Json → Option String
  | .text value => value
  | _ => none

/-- A truth value. -/
def bool? : Json → Option Bool
  | .bool value => some value
  | _ => none

/-- An integer. -/
def int? : Json → Option Int
  | .integer false magnitude => some magnitude
  | .integer true magnitude => if magnitude = 0 then none else some (-magnitude)
  | _ => none

/-- An integer of 32 bits with sign. -/
def int32? (document : Json) : Option Int32 := do
  let n ← int? document
  if Int32.minValue.toInt ≤ n ∧ n ≤ Int32.maxValue.toInt then some (Int32.ofInt n) else none

/-- An integer of 64 bits without sign. -/
def uint64? (document : Json) : Option UInt64 := do
  let n ← int? document
  if 0 ≤ n ∧ n < UInt64.size then some (UInt64.ofNat n.toNat) else none

/-- A list of values. -/
def list? {α : Type} (read : Json → Option α) : Json → Option (List α)
  | .array items => items.mapM read
  | _ => none

/-- A dictionary, where a repeated name keeps its last value; every value must be readable. -/
def dict? {α : Type} (read : Json → Option α) : Json → Option (Dict α)
  | .object members => do
    let entries ← members.mapM fun (name, value) => return (← name, ← read value)
    return Dict.ofList entries
  | _ => none

/-- A value or null. -/
def nullable {α : Type} (read : Json → Option α) : Json → Option (Option α)
  | .null => some none
  | value => (read value).map some

/-! ## Records -/

/-- The fields that a document gives to a record. -/
structure Fields where
  /-- Whether the record is written as the list of its values. -/
  positional : Bool
  /-- The known fields that are given. -/
  given : List (String × Json)

/-- The members of an object that have one of the given names; none when one of these is repeated or
some name is no text. -/
def knownMembers? (names : List String) :
    List (Option String × Json) → Option (List (String × Json))
  | [] => some []
  | (none, _) :: _ => none
  | (some name, value) :: rest => do
    let known ← knownMembers? names rest
    if name ∈ names then
      if name ∈ known.map Prod.fst then none else some ((name, value) :: known)
    else some known

/-- The fields that a document gives to a record with these field names. -/
def fields? (names : List String) : Json → Option Fields
  | .object members => (knownMembers? names members).map (Fields.mk false)
  | .array items => if items.length ≤ names.length then some (.mk true (names.zip items)) else none
  | _ => none

namespace Fields

/-- The value given to a field. -/
def get? (fields : Fields) (name : String) : Option Json := fields.given.lookup name

/-- Read a field that must be given. -/
def required {α : Type} (fields : Fields) (read : Json → Option α) (name : String) : Option α := do
  read (← fields.get? name)

/-- Read a field that has a default. -/
def withDefault {α : Type} (fields : Fields) (read : Json → Option α) (default : α)
    (name : String) : Option α :=
  match fields.get? name with
  | none => some default
  | some value => read value

/-- Read a field that may be null, and that a record written as an object may leave out. -/
def optional {α : Type} (fields : Fields) (read : Json → Option α) (name : String) :
    Option (Option α) :=
  match fields.get? name with
  | none => if fields.positional then none else some none
  | some value => nullable read value

end Fields

end AccountLending.Json
