import AccountLending.Cloud.Request
import AccountLending.Time.Moment

/-!
# Requests as they are sent, and pages as they come back

A service answers a listing one page at a time.  A page has some items and says where to go on; the
marker it gives is sent with the request for the next page.  An item may lack any field that its
service does not promise, and an item that lacks a field which is needed does not count.

* `Wire.Output` — what comes back for one request that is sent;
* `Iam.Query.gather`, `Wire.accounts`, `Wire.tags` — what a listing makes of the items of all pages.
-/

namespace AccountLending

namespace Wire

/-- A request as it is sent: what is asked, and the marker of the page that is wanted. -/
structure Request where
  request : Cloud.Request
  marker : Option String := none
  deriving DecidableEq

/-- A page of a listing. -/
structure Page (α : Type) where
  items : List α
  /-- Whether the page says that more pages follow. -/
  truncated : Bool := false
  /-- The marker of the next page. -/
  marker : Option String := none
  deriving Repr, Inhabited

/-! ## Items -/

/-- A managed policy as it comes back. -/
structure PolicyItem where
  name : Option String
  arn : Option String
  deriving DecidableEq, Repr, Inhabited

/-- A version of a managed policy as it comes back. -/
structure VersionItem where
  id : Option String
  isDefault : Bool
  deriving DecidableEq, Repr, Inhabited

/-- A principal that a managed policy is attached to, as it comes back. -/
inductive EntityItem
  | user (name : Option String)
  | group (name : Option String)
  | role (name : Option String)
  deriving DecidableEq, Repr, Inhabited

/-- An account as it comes back. -/
structure AccountItem where
  id : Option String
  name : Option String := none
  email : Option String := none
  status : Option String := none
  deriving DecidableEq, Repr, Inhabited

/-- The credentials of a session as they come back, with the moment when they expire. -/
structure Credentials where
  session : Session
  expiry : Time.Moment
  deriving DecidableEq, Repr, Inhabited

/-- The policy that an item describes. -/
def PolicyItem.policy? (item : PolicyItem) : Option Iam.PolicySummary :=
  return ⟨← item.name, ← item.arn⟩

/-- The version that an item describes. -/
def VersionItem.version? (item : VersionItem) : Option Iam.VersionSummary :=
  return ⟨← item.id, item.isDefault⟩

namespace EntityItem

/-- The user that an item names. -/
def user? : EntityItem → Option String
  | .user name => name
  | _ => none

/-- The group that an item names. -/
def group? : EntityItem → Option String
  | .group name => name
  | _ => none

/-- The role that an item names. -/
def role? : EntityItem → Option String
  | .role name => name
  | _ => none

end EntityItem

/-- The account that an item describes; a status that is not given is unknown. -/
def AccountItem.account? (item : AccountItem) : Option Account :=
  item.id.map fun id =>
    { id
      name := item.name
      email := item.email
      status := (item.status.map AccountStatus.ofWire).getD (.unknown "UNSET") }

end Wire

/-! ## The items of each listing -/

namespace Iam.Query

/-- The items on the pages of a listing. -/
@[reducible] def Item : Query → Type
  | .roles => RoleSummary
  | .rolePolicies _ | .localPolicies | .userPolicies _ => Wire.PolicyItem
  | .policyEntities _ => Wire.EntityItem
  | .policyVersions _ => Wire.VersionItem
  | .accessKeys _ => Option String
  | .roleInline _ | .users | .certificates _ | .userInline _ | .userGroups _ => String

/-- What a listing makes of the items of all pages. -/
def gather : (query : Query) → List query.Item → query.Answer
  | .roles, items => items
  | .rolePolicies _, items | .localPolicies, items | .userPolicies _, items =>
    List.filterMap Wire.PolicyItem.policy? items
  | .policyEntities _, items =>
    { users := List.filterMap Wire.EntityItem.user? items
      groups := List.filterMap Wire.EntityItem.group? items
      roles := List.filterMap Wire.EntityItem.role? items }
  | .policyVersions _, items => List.filterMap Wire.VersionItem.version? items
  | .accessKeys _, items => List.filterMap id items
  | .roleInline _, items | .users, items | .certificates _, items | .userInline _, items
  | .userGroups _, items => items

end Iam.Query

namespace Wire

/-- The accounts that items describe. -/
def accounts (items : List AccountItem) : List Account := items.filterMap AccountItem.account?

/-- The tags that items describe; of two with one name the later stays. -/
def tags (items : List (String × String)) : Tags := Dict.ofList items

/-! ## Outputs -/

/-- What comes back for a request to an organization. -/
@[reducible] def OrganizationOutput : Organization.Request → Type
  | .listAccounts _ => Page AccountItem
  | .parentOf _ => List (Option String)
  | .listTags _ => Page (String × String)
  | .tag .. | .untag .. | .move .. => Unit
  | .findResources .. => Page (Option String)

/-- What comes back for a request about the caller's identity. -/
@[reducible] def IdentityOutput : Identity.Request → Type
  | .caller => Option String
  | .assumeRole .. => Option Credentials

/-- What comes back for a request to the IAM of an account. -/
@[reducible] def IamOutput : Iam.Request → Type
  | .query query => Page query.Item
  | .remove _ | .deleteLoginProfile _ => Unit

/-- What comes back for a request. -/
@[reducible] def Output : Cloud.Request → Type
  | .organization request => OrganizationOutput request
  | .identity request => IdentityOutput request
  | .iam _ request => IamOutput request

end Wire

end AccountLending
