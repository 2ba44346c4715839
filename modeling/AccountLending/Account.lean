import AccountLending.Json.Record

/-!
# Accounts

An account of an organization: its number, what is known of its name and address, and where it
stands in its life.  Only an active account can be lent.  A status that is none of the three known
ones is kept as the text that was given.
-/

namespace AccountLending

/-- Where an account stands in its life. -/
inductive AccountStatus
  | active
  | suspended
  | pendingClosure
  | unknown (text : String)
  deriving DecidableEq, Repr, Inhabited

namespace AccountStatus

/-- The status that an organization's listing spells. -/
def ofWire (text : String) : AccountStatus :=
  if text = "ACTIVE" then .active
  else if text = "SUSPENDED" then .suspended
  else if text = "PENDING_CLOSURE" then .pendingClosure
  else .unknown text

/-- The spelling of a status in an organization's listing. -/
def toWire : AccountStatus → String
  | .active => "ACTIVE"
  | .suspended => "SUSPENDED"
  | .pendingClosure => "PENDING_CLOSURE"
  | .unknown text => text

theorem toWire_ofWire (text : String) : (ofWire text).toWire = text := by
  unfold ofWire
  split
  · simp_all [toWire]
  · split
    · simp_all [toWire]
    · split <;> simp_all [toWire]

/-- The document of a status. -/
def toJson : AccountStatus → Json
  | .active => .str "Active"
  | .suspended => .str "Suspended"
  | .pendingClosure => .str "PendingClosure"
  | .unknown text => .record [("Unknown", .str text)]

/-- The status without text that has a name. -/
def ofName? (name : String) : Option AccountStatus :=
  if name = "Active" then some .active
  else if name = "Suspended" then some .suspended
  else if name = "PendingClosure" then some .pendingClosure
  else none

/-- The status of a document: a name, or an object with one member, whose value is the text of an
unknown status and null for any other. -/
def ofJson? : Json → Option AccountStatus
  | .text (some name) => ofName? name
  | .object [(some name, value)] =>
    if name = "Unknown" then (Json.text? value).map .unknown
    else match value with
      | .null => ofName? name
      | _ => none
  | _ => none

theorem ofJson?_toJson (status : AccountStatus) : ofJson? status.toJson = some status := by
  cases status <;> simp [toJson, ofJson?, ofName?, Json.str, Json.record, Json.text?]

end AccountStatus

/-- An account of an organization. -/
structure Account where
  id : String
  name : Option String := none
  email : Option String := none
  status : AccountStatus
  deriving DecidableEq, Repr, Inhabited

namespace Account

/-- Whether an account may be lent as far as its status goes. -/
def isActive (account : Account) : Bool := account.status = .active

/-- The document of an account, without the fields that are not known. -/
def toJson (account : Account) : Json :=
  .record <|
    [("Id", .str account.id)]
      ++ (account.name.map fun name => ("Name", Json.str name)).toList
      ++ (account.email.map fun email => ("Email", Json.str email)).toList
      ++ [("Status", account.status.toJson)]

/-- The account of a document. -/
def ofJson? (document : Json) : Option Account := do
  let fields ← Json.fields? ["Id", "Name", "Email", "Status"] document
  return {
    id := ← fields.required Json.text? "Id"
    name := ← fields.optional Json.text? "Name"
    email := ← fields.optional Json.text? "Email"
    status := ← fields.required AccountStatus.ofJson? "Status" }

end Account

end AccountLending
