import AccountLending.Iam.Request
import AccountLending.Journal
import AccountLending.ServiceError
import AccountLending.Text.Parts

/-!
# The IAM of an account in memory

The roles, managed policies, users and groups of one account.  Whatever still has something
depending on it cannot be deleted: a role with policies, a policy that is attached or has old
versions, a user with anything at all.

* `Iam.answer` — what each listing returns;
* `Iam.apply` — what each removal changes;
* `Iam.serve` — both with a journal and registered failures.
-/

namespace AccountLending

namespace Iam

/-- A role. -/
structure Role where
  path : String
  /-- The resource names of the managed policies attached to it. -/
  attached : NameSet := Dict.empty
  /-- The policies written into it. -/
  inline : NameSet := Dict.empty
  deriving DecidableEq, Repr, Inhabited

/-- A managed policy of the account's own. -/
structure Policy where
  name : String
  versions : List VersionSummary
  deriving DecidableEq, Repr, Inhabited

/-- A user. -/
structure User where
  hasProfile : Bool := false
  keys : NameSet := Dict.empty
  certificates : NameSet := Dict.empty
  /-- The policies written into it. -/
  inline : NameSet := Dict.empty
  /-- The resource names of the managed policies attached to it. -/
  attached : NameSet := Dict.empty
  groups : NameSet := Dict.empty
  deriving DecidableEq, Repr, Inhabited

/-- Whether nothing depends on a user. -/
def User.isBare (user : User) : Bool :=
  !user.hasProfile && user.keys.isEmpty && user.certificates.isEmpty && user.inline.isEmpty
    && user.attached.isEmpty && user.groups.isEmpty

end Iam

/-- The IAM of one account. -/
structure Iam where
  roles : Dict Iam.Role := Dict.empty
  /-- The account's own policies by their resource names. -/
  policies : Dict Iam.Policy := Dict.empty
  users : Dict Iam.User := Dict.empty
  /-- The groups with the resource names of the policies attached to them. -/
  groups : Dict NameSet := Dict.empty
  deriving DecidableEq, Repr, Inhabited

namespace Iam

/-! ## Setting up -/

/-- Change a role, if there is one of the name. -/
def changeRole (iam : Iam) (role : String) (f : Role → Role) : Iam :=
  { iam with roles := iam.roles.modify role f }

/-- Change a user, if there is one of the name. -/
def changeUser (iam : Iam) (user : String) (f : User → User) : Iam :=
  { iam with users := iam.users.modify user f }

/-- Change a group, if there is one of the name. -/
def changeGroup (iam : Iam) (group : String) (f : NameSet → NameSet) : Iam :=
  { iam with groups := iam.groups.modify group f }

/-- Add a role that has nothing, in place of one of the name. -/
def addRole (iam : Iam) (role path : String) : Iam :=
  { iam with roles := iam.roles.insert role { path } }

/-- Attach a managed policy to a role, if there is one of the name. -/
def attachRolePolicy (iam : Iam) (role arn : String) : Iam :=
  iam.changeRole role fun r => { r with attached := r.attached.add arn }

/-- Write a policy into a role, if there is one of the name. -/
def putRolePolicy (iam : Iam) (role policy : String) : Iam :=
  iam.changeRole role fun r => { r with inline := r.inline.add policy }

/-- The resource name of a managed policy of an account. -/
def policyArn (account policy : String) : String :=
  "arn:aws:iam::" ++ account ++ ":policy/" ++ policy

/-- The versions of a policy: the default one, and so many old ones. -/
def versionsOf (extra : Nat) : List VersionSummary :=
  ⟨"v1", true⟩ :: (List.range extra).map fun i => ⟨"v" ++ toString (i + 2), false⟩

/-- Add a managed policy with so many old versions, in place of one of the name. -/
def addPolicy (iam : Iam) (account policy : String) (extra : Nat) : Iam :=
  { iam with policies := iam.policies.insert (policyArn account policy) ⟨policy, versionsOf extra⟩ }

/-- Add a user that has nothing, in place of one of the name. -/
def addUser (iam : Iam) (user : String) : Iam :=
  { iam with users := iam.users.insert user {} }

/-- Give a user a login profile. -/
def setProfile (iam : Iam) (user : String) : Iam :=
  iam.changeUser user fun u => { u with hasProfile := true }

/-- Give a user an access key. -/
def addAccessKey (iam : Iam) (user key : String) : Iam :=
  iam.changeUser user fun u => { u with keys := u.keys.add key }

/-- Give a user a signing certificate. -/
def addCertificate (iam : Iam) (user certificate : String) : Iam :=
  iam.changeUser user fun u => { u with certificates := u.certificates.add certificate }

/-- Write a policy into a user. -/
def putUserPolicy (iam : Iam) (user policy : String) : Iam :=
  iam.changeUser user fun u => { u with inline := u.inline.add policy }

/-- Attach a managed policy to a user. -/
def attachUserPolicy (iam : Iam) (user arn : String) : Iam :=
  iam.changeUser user fun u => { u with attached := u.attached.add arn }

/-- Add a group, unless there is one of the name. -/
def addGroup (iam : Iam) (group : String) : Iam :=
  if iam.groups.contains group then iam
  else { iam with groups := iam.groups.insert group Dict.empty }

/-- Add a user to a group, which is added if need be. -/
def addToGroup (iam : Iam) (user group : String) : Iam :=
  (iam.addGroup group).changeUser user fun u => { u with groups := u.groups.add group }

/-- Attach a managed policy to a group, which is added if need be. -/
def attachGroupPolicy (iam : Iam) (group arn : String) : Iam :=
  (iam.addGroup group).changeGroup group (·.add arn)

/-! ## Listings -/

/-- A role that must exist. -/
def role (iam : Iam) (name : String) : Except ServiceError.Reason Role :=
  match iam.roles.get? name with
  | some role => .ok role
  | none => .error (.noEntity ("role " ++ name))

/-- A user that must exist. -/
def user (iam : Iam) (name : String) : Except ServiceError.Reason User :=
  match iam.users.get? name with
  | some user => .ok user
  | none => .error (.noEntity ("user " ++ name))

/-- A policy that must exist. -/
def policy (iam : Iam) (arn : String) : Except ServiceError.Reason Policy :=
  match iam.policies.get? arn with
  | some policy => .ok policy
  | none => .error (.noEntity ("policy " ++ arn))

/-- The policies attached under a set of resource names; each has the name after the last slash. -/
def attachedPolicies (arns : NameSet) : List PolicySummary :=
  arns.keys.map fun arn => ⟨Text.afterLast '/' arn, arn⟩

/-- The principals that a policy is attached to. -/
def entities (iam : Iam) (arn : String) : PolicyEntities where
  users := (iam.users.entries.filter (·.2.attached.contains arn)).map Prod.fst
  groups := (iam.groups.entries.filter (·.2.contains arn)).map Prod.fst
  roles := (iam.roles.entries.filter (·.2.attached.contains arn)).map Prod.fst

/-- What a listing returns. -/
def answer (iam : Iam) : (query : Query) → Except ServiceError.Reason query.Answer
  | .roles => .ok (iam.roles.entries.map fun (name, role) => ⟨name, role.path⟩)
  | .rolePolicies role => return attachedPolicies (← iam.role role).attached
  | .roleInline role => return (← iam.role role).inline.keys
  | .localPolicies => .ok (iam.policies.entries.map fun (arn, policy) => ⟨policy.name, arn⟩)
  | .policyEntities arn => .ok (iam.entities arn)
  | .policyVersions arn => return (← iam.policy arn).versions
  | .users => .ok iam.users.keys
  | .accessKeys user => return (← iam.user user).keys.keys
  | .certificates user => return (← iam.user user).certificates.keys
  | .userInline user => return (← iam.user user).inline.keys
  | .userPolicies user => return attachedPolicies (← iam.user user).attached
  | .userGroups user => return (← iam.user user).groups.keys

/-! ## Removals -/

/-- A set without a name, which must be in it. -/
def without (names : NameSet) (name what : String) : Except ServiceError.Reason NameSet :=
  if names.contains name then .ok (names.erase name) else .error (.noEntity (what ++ " " ++ name))

/-- Remove a version of a policy, unless it is the default one. -/
def withoutVersion (policy : Policy) (arn version : String) : Except ServiceError.Reason Policy :=
  match policy.versions.find? (·.id = version) with
  | none => .error (.noEntity ("version " ++ version))
  | some found =>
    if found.isDefault then
      .error (.inUse ("default version " ++ version ++ " of " ++ arn))
    else .ok { policy with versions := policy.versions.eraseP (·.id = version) }

/-- Whether a policy is attached to nothing. -/
def isDetached (iam : Iam) (arn : String) : Bool :=
  let entities := iam.entities arn
  entities.users.isEmpty && entities.groups.isEmpty && entities.roles.isEmpty

/-- The account after a removal. -/
def apply (iam : Iam) : Removal → Except ServiceError.Reason Iam
  | .detachRolePolicy role arn => do
    let attached ← without (← iam.role role).attached arn "attachment"
    return iam.changeRole role fun r => { r with attached }
  | .deleteRoleInline role policy => do
    let inline ← without (← iam.role role).inline policy "inline policy"
    return iam.changeRole role fun r => { r with inline }
  | .deleteRole role => do
    let found ← iam.role role
    if found.attached.isEmpty && found.inline.isEmpty then
      return { iam with roles := iam.roles.erase role }
    else .error (.inUse ("role " ++ role))
  | .detachGroupPolicy group arn =>
    match iam.groups.get? group with
    | none => .error (.noEntity ("group " ++ group))
    | some attached => do
      let attached ← without attached arn "attachment"
      return iam.changeGroup group fun _ => attached
  | .deleteVersion arn version => do
    let policy ← withoutVersion (← iam.policy arn) arn version
    return { iam with policies := iam.policies.modify arn fun _ => policy }
  | .deletePolicy arn => do
    let policy ← iam.policy arn
    if policy.versions.length ≤ 1 && iam.isDetached arn then
      return { iam with policies := iam.policies.erase arn }
    else .error (.inUse ("policy " ++ arn))
  | .deleteAccessKey user key => do
    let keys ← without (← iam.user user).keys key "access key"
    return iam.changeUser user fun u => { u with keys }
  | .deleteCertificate user certificate => do
    let certificates ← without (← iam.user user).certificates certificate "certificate"
    return iam.changeUser user fun u => { u with certificates }
  | .deleteUserInline user policy => do
    let inline ← without (← iam.user user).inline policy "inline policy"
    return iam.changeUser user fun u => { u with inline }
  | .detachUserPolicy user arn => do
    let attached ← without (← iam.user user).attached arn "attachment"
    return iam.changeUser user fun u => { u with attached }
  | .leaveGroup user group => do
    let groups ← without (← iam.user user).groups group "group membership"
    return iam.changeUser user fun u => { u with groups }
  | .deleteUser user => do
    if (← iam.user user).isBare then return { iam with users := iam.users.erase user }
    else .error (.inUse ("user " ++ user))

/-- Delete the login profile of a user, and tell whether there was one. -/
def dropProfile (iam : Iam) (user : String) : Except ServiceError.Reason (Bool × Iam) := do
  let found ← iam.user user
  return (found.hasProfile, iam.changeUser user fun u => { u with hasProfile := false })

/-! ## Requests -/

/-- What a request returns, and the account after it. -/
def respond (iam : Iam) : (request : Request) → Except ServiceError.Reason request.Answer × Iam
  | .query query => (iam.answer query, iam)
  | .remove removal =>
    match iam.apply removal with
    | .ok after => (.ok (), after)
    | .error reason => (.error reason, iam)
  | .deleteLoginProfile user =>
    match iam.dropProfile user with
    | .ok (had, after) => (.ok had, after)
    | .error reason => (.error reason, iam)

/-- Record a request and answer it, unless it is registered to fail. -/
def serve (request : Request) (service : Journaled Iam Request) :
    Except ServiceError request.Answer × Journaled Iam Request :=
  let recorded := service.record request
  if service.fails request.entry then (.error ⟨.iam, .refused request.entry⟩, recorded)
  else
    let (reply, iam) := service.state.respond request
    (reply.mapError (ServiceError.mk .iam), { recorded with state := iam })

/-- Every request is recorded, whatever becomes of it. -/
theorem calls_serve (request : Request) (service : Journaled Iam Request) :
    (serve request service).2.calls = service.calls ++ [request] := by
  unfold serve
  split <;> rfl

/-- A listing changes nothing. -/
theorem state_serve_query (query : Query) (service : Journaled Iam Request) :
    (serve (.query query) service).2.state = service.state := by
  unfold serve
  split <;> rfl

end Iam

end AccountLending
