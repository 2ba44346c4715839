import AccountLending.Json.Record
import AccountLending.Time.Moment
import AccountLending.Wire.Markup
import AccountLending.Wire.Page

/-!
# Whether an output can be read

An output has members of its own and lists of items, and each member holds a value of one kind.  An
output is read as a whole or not at all: a member that holds a value of another kind makes all of it
unreadable, even when nobody wants to know that member.  Members that are not known are passed over.

There are two forms of outputs.  In a marked-up one every value is a text at first, and an item that
is null is one without members.  In a structured one the items of a list are objects, and none may
be null.  The output of a request that only changes something is not looked at.

* `layoutOf` — the known members of each output;
* `isReadable` — whether a document can be read as the output of a request.
-/

namespace AccountLending.Wire

/-! ## Kinds -/

/-- What a member holds. -/
inductive Kind
  | text
  | flag
  /-- An integer of 32 bits with sign. -/
  | integer
  /-- A date and a time of day, in writing. -/
  | moment
  /-- A moment as a number of seconds. -/
  | seconds
  deriving DecidableEq, Repr

/-- Whether a value of a structured output is of a kind. -/
def Kind.admits : Kind → Json → Bool
  | _, .null => true
  | .text, .text (some _) => true
  | .flag, .bool _ => true
  | .integer, value => (Json.int32? value).isSome
  | .seconds, .integer .. | .seconds, .decimal _ => true
  | _, _ => false

/-- Whether a text is an integer of 32 bits, with a sign or without. -/
def isInteger (text : String) : Bool :=
  let (limit, digits) := match text.toList with
    | '-' :: digits => (0x80000000, digits)
    | '+' :: digits => (0x7fffffff, digits)
    | digits => (0x7fffffff, digits)
  digits ≠ [] && digits.all Char.isDigit && Time.numberOf digits ≤ limit

/-- Whether a text is of a kind. -/
def Kind.admitsText : Kind → String → Bool
  | .text, _ => true
  | .flag, value => value = "true" || value = "false"
  | .integer, value => isInteger value
  | .moment, value => (Time.Moment.ofText? value).isSome
  | .seconds, _ => false

/-- Whether a value of a marked-up output is of a kind.  Every value can be read as a text. -/
def Kind.admitsMarkup : Kind → Json → Bool
  | _, .null => true
  | kind, value => ((markupText? value).map kind.admitsText).getD (kind = .text)

/-! ## Layouts -/

/-- The known members of an output, and those of the items of its lists. -/
structure Layout where
  members : List (String × Kind) := []
  lists : List (String × List (String × Kind)) := []

namespace Layout

/-- Whether the known members of an object hold what they should. -/
def membersAdmit (admits : Kind → Json → Bool) (kinds : List (String × Kind)) : Json → Bool
  | .object members =>
    kinds.all fun (name, kind) => ((members.lookup (some name)).map (admits kind)).getD true
  | _ => false

/-- Whether a member of a structured output is a list of objects. -/
def listAdmits (kinds : List (String × Kind)) : Json → Bool
  | .null => true
  | .array items => items.all (membersAdmit Kind.admits kinds)
  | _ => false

/-- Whether all items of a list in a marked-up output hold what they should. -/
def listAdmitsMarkup (kinds : List (String × Kind)) : Json → Bool
  | .array items => items.all fun item => match item with
    | .object members => membersAdmit Kind.admitsMarkup kinds (.object members)
    | _ => true
  | _ => true

/-- Whether all known lists of an object are as they should be. -/
def listsAdmit (admits : List (String × Kind) → Json → Bool) (layout : Layout) : Json → Bool
  | .object members =>
    layout.lists.all fun (name, kinds) =>
      ((members.lookup (some name)).map (admits kinds)).getD true
  | _ => false

/-- Whether a document can be read as a structured output. -/
def reads (layout : Layout) (document : Json) : Bool :=
  membersAdmit Kind.admits layout.members document && layout.listsAdmit listAdmits document

/-- Whether a document can be read as a marked-up output. -/
def readsMarkup (layout : Layout) (document : Json) : Bool :=
  holdsMarkup document && match document with
    | .object members =>
      membersAdmit Kind.admitsMarkup layout.members (.object members)
        && layout.listsAdmit listAdmitsMarkup (.object members)
    | _ => true

end Layout

/-! ## The layouts of outputs -/

/-- The lists of an output of the IAM, with the members of their items that are no texts. -/
def listedKinds : Iam.Query → List (String × List (String × Kind))
  | .roles => [("Roles", [("CreateDate", .moment), ("MaxSessionDuration", .integer)])]
  | .users => [("Users", [("CreateDate", .moment), ("PasswordLastUsed", .moment)])]
  | .localPolicies => [("Policies", [("CreateDate", .moment), ("UpdateDate", .moment),
      ("AttachmentCount", .integer), ("PermissionsBoundaryUsageCount", .integer),
      ("IsAttachable", .flag)])]
  | .policyVersions _ => [("Versions", [("CreateDate", .moment), ("IsDefaultVersion", .flag)])]
  | .accessKeys _ => [("AccessKeyMetadata", [("CreateDate", .moment)])]
  | .certificates _ => [("Certificates", [("UploadDate", .moment)])]
  | .userGroups _ => [("Groups", [("CreateDate", .moment)])]
  | .rolePolicies _ | .roleInline _ | .policyEntities _ | .userInline _ | .userPolicies _ => []

/-- The layout of an output of an organization, or of the search by tag. -/
def organizationLayout : Organization.Request → Option Layout
  | .listAccounts _ => some
    { members := [("NextToken", .text)]
      lists := [("Accounts", [("Id", .text), ("Arn", .text), ("Email", .text), ("Name", .text),
        ("Status", .text), ("State", .text), ("JoinedMethod", .text),
        ("JoinedTimestamp", .seconds)])] }
  | .parentOf _ => some
    { members := [("NextToken", .text)], lists := [("Parents", [("Id", .text), ("Type", .text)])] }
  | .listTags _ => some
    { members := [("NextToken", .text)], lists := [("Tags", [("Key", .text), ("Value", .text)])] }
  | .findResources .. => some
    { members := [("PaginationToken", .text)]
      lists := [("ResourceTagMappingList", [("ResourceARN", .text)])] }
  | .tag .. | .untag .. | .move .. => none

/-- The layout of an output of the IAM. -/
def iamLayout : Iam.Request → Option Layout
  | .query query => some { members := [("IsTruncated", .flag)], lists := listedKinds query }
  | .remove _ | .deleteLoginProfile _ => none

/-- The layout of an output, when it is looked at. -/
def layoutOf : Cloud.Request → Option Layout
  | .organization request => organizationLayout request
  | .identity .caller => some {}
  | .identity (.assumeRole ..) => some { members := [("PackedPolicySize", .integer)] }
  | .iam _ request => iamLayout request

/-- Whether a document can be read as the output of a request. -/
def isReadable (document : Json) (request : Cloud.Request) : Bool :=
  match layoutOf request with
  | some layout => if isMarkedUp request then layout.readsMarkup document else layout.reads document
  | none => true

end AccountLending.Wire
