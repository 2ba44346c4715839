import AccountLending.Iam.Summary

/-!
# What can be asked of an account's IAM

A `Query` lists something and changes nothing; a `Removal` deletes or detaches one artifact; and a
login profile is deleted by a request of its own, which tells whether there was one.  Every request
has the name of its action and named parameters; `Request.entry` joins them into the line by which a
journal records the request and by which a failure is registered.
-/

namespace AccountLending.Iam

/-- A request that lists something. -/
inductive Query
  | roles
  /-- The managed policies attached to a role. -/
  | rolePolicies (role : String)
  /-- The policies written into a role. -/
  | roleInline (role : String)
  /-- The managed policies that belong to the account itself. -/
  | localPolicies
  | policyEntities (arn : String)
  | policyVersions (arn : String)
  | users
  | accessKeys (user : String)
  | certificates (user : String)
  /-- The policies written into a user. -/
  | userInline (user : String)
  /-- The managed policies attached to a user. -/
  | userPolicies (user : String)
  | userGroups (user : String)
  deriving DecidableEq, Repr

/-- A request that deletes or detaches one artifact. -/
inductive Removal
  | detachRolePolicy (role arn : String)
  | deleteRoleInline (role policy : String)
  | deleteRole (role : String)
  | detachGroupPolicy (group arn : String)
  | deleteVersion (arn version : String)
  | deletePolicy (arn : String)
  | deleteAccessKey (user key : String)
  | deleteCertificate (user certificate : String)
  | deleteUserInline (user policy : String)
  | detachUserPolicy (user arn : String)
  | leaveGroup (user group : String)
  | deleteUser (user : String)
  deriving DecidableEq, Repr

/-- A request to the IAM of one account. -/
inductive Request
  | query (listing : Query)
  | remove (removal : Removal)
  /-- Delete a login profile, if there is one. -/
  | deleteLoginProfile (user : String)
  deriving DecidableEq, Repr

/-! ## Answers -/

/-- What a listing returns. -/
@[reducible] def Query.Answer : Query → Type
  | .roles => List RoleSummary
  | .rolePolicies _ | .localPolicies | .userPolicies _ => List PolicySummary
  | .policyEntities _ => PolicyEntities
  | .policyVersions _ => List VersionSummary
  | .roleInline _ | .users | .accessKeys _ | .certificates _ | .userInline _ | .userGroups _ =>
    List String

/-- What a request returns; deleting a login profile returns whether there was one. -/
@[reducible] def Request.Answer : Request → Type
  | .query listing => listing.Answer
  | .remove _ => Unit
  | .deleteLoginProfile _ => Bool

/-! ## Names and parameters -/

/-- The action of a listing. -/
def Query.action : Query → String
  | .roles => "ListRoles"
  | .rolePolicies _ => "ListAttachedRolePolicies"
  | .roleInline _ => "ListRolePolicies"
  | .localPolicies => "ListPolicies"
  | .policyEntities _ => "ListEntitiesForPolicy"
  | .policyVersions _ => "ListPolicyVersions"
  | .users => "ListUsers"
  | .accessKeys _ => "ListAccessKeys"
  | .certificates _ => "ListSigningCertificates"
  | .userInline _ => "ListUserPolicies"
  | .userPolicies _ => "ListAttachedUserPolicies"
  | .userGroups _ => "ListGroupsForUser"

/-- The parameters of a listing. -/
def Query.parameters : Query → List (String × String)
  | .roles | .users => []
  | .localPolicies => [("Scope", "Local")]
  | .rolePolicies role | .roleInline role => [("RoleName", role)]
  | .policyEntities arn | .policyVersions arn => [("PolicyArn", arn)]
  | .accessKeys user | .certificates user | .userInline user | .userPolicies user
  | .userGroups user => [("UserName", user)]

/-- The action of a removal. -/
def Removal.action : Removal → String
  | .detachRolePolicy .. => "DetachRolePolicy"
  | .deleteRoleInline .. => "DeleteRolePolicy"
  | .deleteRole _ => "DeleteRole"
  | .detachGroupPolicy .. => "DetachGroupPolicy"
  | .deleteVersion .. => "DeletePolicyVersion"
  | .deletePolicy _ => "DeletePolicy"
  | .deleteAccessKey .. => "DeleteAccessKey"
  | .deleteCertificate .. => "DeleteSigningCertificate"
  | .deleteUserInline .. => "DeleteUserPolicy"
  | .detachUserPolicy .. => "DetachUserPolicy"
  | .leaveGroup .. => "RemoveUserFromGroup"
  | .deleteUser _ => "DeleteUser"

/-- The parameters of a removal. -/
def Removal.parameters : Removal → List (String × String)
  | .detachRolePolicy role arn => [("RoleName", role), ("PolicyArn", arn)]
  | .deleteRoleInline role policy => [("RoleName", role), ("PolicyName", policy)]
  | .deleteRole role => [("RoleName", role)]
  | .detachGroupPolicy group arn => [("GroupName", group), ("PolicyArn", arn)]
  | .deleteVersion arn version => [("PolicyArn", arn), ("VersionId", version)]
  | .deletePolicy arn => [("PolicyArn", arn)]
  | .deleteAccessKey user key => [("UserName", user), ("AccessKeyId", key)]
  | .deleteCertificate user certificate => [("UserName", user), ("CertificateId", certificate)]
  | .deleteUserInline user policy => [("UserName", user), ("PolicyName", policy)]
  | .detachUserPolicy user arn => [("UserName", user), ("PolicyArn", arn)]
  | .leaveGroup user group => [("UserName", user), ("GroupName", group)]
  | .deleteUser user => [("UserName", user)]

namespace Request

/-- The action of a request. -/
def action : Request → String
  | .query listing => listing.action
  | .remove removal => removal.action
  | .deleteLoginProfile _ => "DeleteLoginProfile"

/-- The parameters of a request. -/
def parameters : Request → List (String × String)
  | .query listing => listing.parameters
  | .remove removal => removal.parameters
  | .deleteLoginProfile user => [("UserName", user)]

/-- The line that records a request: its action and the values of its parameters. -/
def entry (request : Request) : String :=
  request.action ++ ":" ++ "/".intercalate (request.parameters.map Prod.snd)

/-- What a request is about, as error reports name it: the principal or policy, the credential
itself when one is deleted, and the account for a listing of all principals. -/
def subject : Request → String
  | .query .roles | .query .localPolicies | .query .users => "account"
  | .remove (.deleteAccessKey _ key) => key
  | .remove (.deleteCertificate _ certificate) => certificate
  | request => (request.parameters.head?.map Prod.snd).getD "account"

end Request

end AccountLending.Iam
