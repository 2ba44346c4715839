import AccountLending.Cloud.Request
import AccountLending.Json.Printer
import AccountLending.ServiceError

/-!
# Texts in markup

The IAM and the identity service send their replies as marked-up text.  Such a text cannot hold
every character: of the control characters before the blank only the tab and the two line ends are
allowed, and the two code points at the end of the first plane never are.  A reply with any other
character in it cannot be read at all.

* `isMarkedUp` — whether the replies to a request are marked up;
* `isMarkupText` — whether markup can hold a text;
* `holdsMarkup` — whether it can hold all texts of a document;
* `markupText?` — the text that a value becomes.
-/

namespace AccountLending.Wire

/-- Whether the replies to a request are marked up. -/
def isMarkedUp : Cloud.Request → Bool
  | .organization _ => false
  | .identity _ | .iam .. => true

/-- The fault that stands for a reply that cannot be read. -/
def unreadable : Fault := ⟨"UnreadableReply", "the reply cannot be read"⟩

/-- Whether markup can hold a character. -/
def isMarkupChar (c : Char) : Bool :=
  (' ' ≤ c || c = '\t' || c = '\n' || c = '\r') && c ≠ '\ufffe' && c ≠ '\uffff'

/-- Whether markup can hold a text. -/
def isMarkupText (text : String) : Bool := text.toList.all isMarkupChar

example : isMarkupText "é\t\r\n\x7f" = true ∧ isMarkupText "\x01" = false ∧
    isMarkupText "\ufffe" = false := by decide +kernel

mutual

/-- Whether markup can hold all texts of a document. -/
def holdsMarkup : Json → Bool
  | .text none => false
  | .text (some text) => isMarkupText text
  | .array items => itemsHoldMarkup items
  | .object members => membersHoldMarkup members
  | .null | .bool _ | .integer .. | .decimal _ => true

/-- Whether markup can hold all texts of some documents. -/
def itemsHoldMarkup : List Json → Bool
  | [] => true
  | item :: rest => holdsMarkup item && itemsHoldMarkup rest

/-- Whether markup can hold all texts of the members of an object. -/
def membersHoldMarkup : List (Option String × Json) → Bool
  | [] => true
  | (_, value) :: rest => holdsMarkup value && membersHoldMarkup rest

end

/-- The text that a value without parts becomes in markup. -/
def markupText? : Json → Option String
  | .null => some ""
  | .text value => value
  | .bool value => some (if value then "true" else "false")
  | .integer negative magnitude => some (String.ofList (Json.integerLiteral negative magnitude))
  | .decimal literal => some literal
  | .array _ | .object _ => none

end AccountLending.Wire
