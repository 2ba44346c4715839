import AccountLending.ServiceError
import AccountLending.Settings
import AccountLending.Wire.Page

/-!
# Whether a request can be sent

A request names the region of its service and is signed with the credentials that it is made with.
The region becomes a part of a host name, and the credentials go into header lines; what cannot
stand there cannot be sent, and such a request fails before any service hears of it.

* `isHostName` — labels with points between them;
* `isHeaderText` — what a header line can hold;
* `Request.isSendable` — whether a request can be sent from a host.
-/

namespace AccountLending.Wire

/-! ## Host names -/

/-- Whether a host name can have a part: one to 63 letters, digits and hyphens, the first one no
hyphen. -/
def isHostLabel (label : List Char) : Bool :=
  label ≠ [] && label.length ≤ 63 && label.head? ≠ some '-'
    && label.all fun c => c.isAlphanum || c = '-'

/-- Whether a text is a host name, or the part of one between points. -/
def isHostName (name : String) : Bool := (Text.pieces '.' name.toList).all isHostLabel

example : isHostName "eu-west-1" = true ∧ isHostName "a.b" = true ∧ isHostName "" = false ∧
    isHostName "-a" = false ∧ isHostName "a..b" = false ∧
    isHostName "é" = false := by decide +kernel

/-! ## Header lines -/

/-- Whether a header line can hold a text: of the control characters it can hold the tab only. -/
def isHeaderText (text : String) : Bool :=
  text.toList.all fun c => (' ' ≤ c && c ≠ '\x7f') || c = '\t'

/-! ## Requests -/

namespace Request

/-- The session that a request is made with, when it is not made by the caller itself. -/
def session? (sent : Request) : Option Session :=
  match sent.request with
  | .iam session _ => session
  | _ => none

/-- Whether a request can be signed. -/
def isSignable (sent : Request) : Bool :=
  match sent.session? with
  | none => true
  | some session => isHeaderText session.accessKey && isHeaderText session.token

/-- Whether a request can be sent with the credentials of a payer, if there is one. -/
def isSendable (sent : Request) (payer : Option Payer) : Bool :=
  sent.isSignable && (payer.map fun payer => isHostName payer.region).getD true

end Request

/-- The fault that stands for a request that cannot be sent. -/
def unsent : Fault := ⟨"UnsentRequest", "the request cannot be sent"⟩

end AccountLending.Wire
