import AccountLending.Client
import AccountLending.Cloud.Services
import AccountLending.Wire.Markup

/-!
# The cloud in memory behind its services' interface

Requests that are sent are answered by the cloud in memory.  Every listing fits on one page,
accounts come back by number and status only, and every failure comes back as a fault.  A user
without a login profile is a fault here, as it is for the service itself.  A marked-up reply can be
read only if markup can hold all of its texts.

* `Cloud.send` — how each request that is sent is answered.
-/

namespace AccountLending.Cloud

open Wire (Page)

/-- The code of the fault that a failure comes back as. -/
def faultCode : ServiceError.Reason → String
  | .noEntity _ => Client.noSuchEntity
  | .inUse _ => "DeleteConflict"
  | .noAccount _ => "AccountNotFoundException"
  | .notUnder .. => "SourceParentNotFoundException"
  | _ => "ServiceException"

/-- The fault that a failure comes back as. -/
def faultOf (error : ServiceError) : Fault := ⟨faultCode error.reason, error.reason.message⟩

/-- The fault that deletes no login profile. -/
def noProfile (user : String) : Fault :=
  ⟨Client.noSuchEntity, "Login Profile for User " ++ user ++ " cannot be found."⟩

/-- A listing on one page. -/
def onePage {α : Type} (items : List α) : Page α := { items }

/-- The page of an IAM listing. -/
def queryPage : (query : Iam.Query) → query.Answer → Page query.Item
  | .roles, answer => onePage answer
  | .rolePolicies _, answer | .localPolicies, answer | .userPolicies _, answer =>
    onePage
      (List.map (fun (policy : Iam.PolicySummary) => ⟨some policy.name, some policy.arn⟩) answer)
  | .policyEntities _, answer =>
    onePage (answer.users.map (fun name => .user (some name))
      ++ answer.groups.map (fun name => .group (some name))
      ++ answer.roles.map (fun name => .role (some name)))
  | .policyVersions _, answer =>
    onePage (List.map (fun (version : Iam.VersionSummary) => ⟨some version.id, version.isDefault⟩)
      answer)
  | .accessKeys _, answer => onePage (List.map some answer)
  | .roleInline _, answer | .users, answer | .certificates _, answer | .userInline _, answer
  | .userGroups _, answer => onePage answer

/-- The output of a request to an organization. -/
def organizationOutput :
    (request : Organization.Request) → request.Answer → Wire.OrganizationOutput request
  | .listAccounts _, answer =>
    onePage (List.map (fun (account : Account) =>
      { id := some account.id, status := some account.status.toWire }) answer)
  | .parentOf _, answer => [some answer]
  | .listTags _, answer => onePage answer.entries
  | .tag .., _ | .untag .., _ | .move .., _ => ()
  | .findResources .., answer => onePage (List.map some answer)

/-- The output of a request about the caller's identity.  Sessions in memory last until the end of
the century. -/
def identityOutput : (request : Identity.Request) → request.Answer → Wire.IdentityOutput request
  | .caller, answer => some answer
  | .assumeRole .., answer => some ⟨answer, ⟨4070908800, 0⟩⟩

/-- What is sent back for a request to the IAM of an account. -/
def iamOutput : (request : Iam.Request) → request.Answer → Except Fault (Wire.IamOutput request)
  | .query query, answer => .ok (queryPage query answer)
  | .remove _, _ => .ok ()
  | .deleteLoginProfile _, true => .ok ()
  -- the service has no way to say "there was none" but a fault
  | .deleteLoginProfile user, false => .error (noProfile user)

/-- What is sent back for a request. -/
def outputOf : (request : Request) → request.Answer → Except Fault (Wire.Output request)
  | .organization request, answer => .ok (organizationOutput request answer)
  | .identity request, answer => .ok (identityOutput request answer)
  | .iam _ request, answer => iamOutput request answer

/-! ## Markup -/

/-- The texts of an item of an IAM listing. -/
def itemTexts : (query : Iam.Query) → query.Item → List String
  | .roles, (role : Iam.RoleSummary) => [role.name, role.path]
  | .rolePolicies _, (policy : Wire.PolicyItem) | .localPolicies, (policy : Wire.PolicyItem)
  | .userPolicies _, (policy : Wire.PolicyItem) => policy.name.toList ++ policy.arn.toList
  | .policyEntities _, (entity : Wire.EntityItem) =>
    (entity.user?.or (entity.group?.or entity.role?)).toList
  | .policyVersions _, (version : Wire.VersionItem) => version.id.toList
  | .accessKeys _, (key : Option String) => key.toList
  | .roleInline _, (name : String) | .users, (name : String) | .certificates _, (name : String)
  | .userInline _, (name : String) | .userGroups _, (name : String) => [name]

/-- The texts of an output that is marked up. -/
def markedTexts : (request : Request) → Wire.Output request → List String
  | .iam _ (.query query), (page : Page query.Item) => page.items.flatMap (itemTexts query)
  | .identity .caller, (account : Option String) => account.toList
  | _, _ => []

/-- What arrives of a reply. -/
def arriving (request : Request) :
    Except Fault (Wire.Output request) → Except Fault (Wire.Output request)
  | .ok output =>
    if (markedTexts request output).all Wire.isMarkupText then .ok output
    else .error Wire.unreadable
  | .error fault =>
    if Wire.isMarkedUp request && !Wire.isMarkupText fault.text then .error Wire.unreadable
    else .error fault

/-! ## Requests that are sent -/

/-- Answer a request that is sent. -/
def send (sent : Wire.Request) (cloud : Cloud) :
    Except Fault (Wire.Output sent.request) × Cloud :=
  let (reply, after) := cloud.serve sent.request
  (arriving sent.request <| match reply with
    | .error error => .error (faultOf error)
    | .ok answer => outputOf sent.request answer, after)

end AccountLending.Cloud
