import AccountLending.Account
import AccountLending.Tags

/-!
# What can be asked of an organization

The requests about an organization's accounts: where they are, what tags they carry, and the changes
to both.  Resources are found by a tag through an index of their own (`findResources`), which is
reached through another service and may lag behind.  `Request.entry` is the line by which a journal
records a request and by which a failure is registered.
-/

namespace AccountLending.Organization

/-- A request about the accounts of an organization. -/
inductive Request
  /-- The accounts directly under a unit. -/
  | listAccounts (parent : String)
  /-- The unit that holds an account. -/
  | parentOf (account : String)
  | listTags (account : String)
  /-- Add tags to an account, replacing those of the same names. -/
  | tag (account : String) (tags : Tags)
  /-- Remove tags from an account by their names. -/
  | untag (account : String) (keys : List String)
  /-- Move an account from one unit to another. -/
  | move (account source destination : String)
  /-- The resource names of everything that carries a tag of a value. -/
  | findResources (key value : String)
  deriving DecidableEq, Repr

namespace Request

/-- What a request returns. -/
@[reducible] def Answer : Request → Type
  | .listAccounts _ => List Account
  | .parentOf _ => String
  | .listTags _ => Tags
  | .tag .. | .untag .. | .move .. => Unit
  | .findResources .. => List String

/-- The action of a request. -/
def action : Request → String
  | .listAccounts _ => "ListAccountsForParent"
  | .parentOf _ => "ListParents"
  | .listTags _ => "ListTagsForResource"
  | .tag .. => "TagResource"
  | .untag .. => "UntagResource"
  | .move .. => "MoveAccount"
  | .findResources .. => "GetResources"

/-- The account or unit of a request, or the tag that is looked for. -/
def target : Request → String
  | .listAccounts parent => parent
  | .parentOf account | .listTags account | .tag account _ | .untag account _
  | .move account _ _ => account
  | .findResources key value => key ++ "=" ++ value

/-- The line that records a request. -/
def entry (request : Request) : String := request.action ++ ":" ++ request.target

/-- Whether a request changes tags or places. -/
def isMutation : Request → Bool
  | .tag .. | .untag .. | .move .. => true
  | _ => false

end Request

end AccountLending.Organization
