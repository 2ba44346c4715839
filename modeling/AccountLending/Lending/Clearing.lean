import AccountLending.Engine

/-!
# Clearing an account

Emptying the IAM of an account that was taken back.  Roles go first, then the managed policies of
the account, which roles may have held, then users.  Whatever depends on a role, policy or user goes
before it.  Nothing stops a clearing: each artifact is tried once, and what became of it is an entry
of the report.  A role, policy or user whose dependents could not be listed is left.

* `isProtectedRole` — the roles that are never touched, and which keep the policies attached to
  them;
* `clear` — the whole clearing, which returns the entries in the order in which they are made.
-/

namespace AccountLending.Lending

open Iam (Query Removal RoleSummary PolicySummary)

/-! ## Protected roles -/

/-- Whether a role is protected by its name: it is the admin role, one of the further roles of the
settings, or a role that belongs to a service. -/
def isProtectedName (settings : ReclaimSettings) (role : String) : Bool :=
  role = settings.adminRole || Text.hasPrefix "AWSServiceRoleFor" role
    || settings.protectedRoles.contains role

/-- Whether a role is protected, by its name or by its path. -/
def isProtectedRole (settings : ReclaimSettings) (role : RoleSummary) : Bool :=
  Text.hasPrefix "/aws-service-role/" role.path || isProtectedName settings role.name

/-! ## Single artifacts -/

/-- Where a clearing takes place: the account that log lines name and the session that requests
use. -/
structure Site where
  account : String
  session : Session

/-- Make an entry. -/
def note (site : Site) (artifact : Artifact) : Engine (List Artifact) := do
  let line := artifact.logLine site.account
  Engine.log line.level line.message
  return [artifact]

/-- What became of an artifact whose removal was requested. -/
def statusOf : Except ServiceError Unit → Artifact.Status
  | .ok () => .succeeded
  | .error failure => .failed failure.message

/-- An artifact to be removed, under the kind and the name that its entry has. -/
structure Target where
  kind : Artifact.Kind
  name : String
  removal : Removal

/-- Try to remove an artifact. -/
def attempt (site : Site) (target : Target) : Engine (List Artifact) := do
  let reply ← Engine.iam site.session (.remove target.removal)
  note site ⟨target.kind, target.name, statusOf reply⟩

/-- Do something for each item of a list, and join the entries. -/
def forEach {α : Type} (act : α → Engine (List Artifact)) : List α → Engine (List Artifact)
  | [] => return []
  | item :: rest => do
    let entries ← act item
    let others ← forEach act rest
    return entries ++ others

/-! ## Dependents of a principal -/

/-- A kind of dependents of a principal: how they are listed, and how each of them is removed. -/
structure Dependents where
  /-- What is listed, in words. -/
  words : String
  query : Query
  targets : query.Answer → List Target

/-- The dependents of a role. -/
def roleDependents (role : String) : List Dependents :=
  [{ words := "attached policies"
     query := .rolePolicies role
     targets := fun (policies : List PolicySummary) => policies.map fun policy =>
       ⟨.rolePolicyAttachment, role ++ "/" ++ policy.name, .detachRolePolicy role policy.arn⟩ },
   { words := "inline policies"
     query := .roleInline role
     targets := fun (policies : List String) => policies.map fun policy =>
       ⟨.roleInlinePolicy, role ++ "/" ++ policy, .deleteRoleInline role policy⟩ }]

/-- The dependents of a user, apart from the login profile. -/
def userDependents (user : String) : List Dependents :=
  [{ words := "access keys"
     query := .accessKeys user
     targets := fun (keys : List String) => keys.map fun key =>
       ⟨.accessKey, user ++ "/" ++ key, .deleteAccessKey user key⟩ },
   { words := "signing certificates"
     query := .certificates user
     targets := fun (certificates : List String) => certificates.map fun certificate =>
       ⟨.signingCertificate, user ++ "/" ++ certificate, .deleteCertificate user certificate⟩ },
   { words := "inline policies"
     query := .userInline user
     targets := fun (policies : List String) => policies.map fun policy =>
       ⟨.userInlinePolicy, user ++ "/" ++ policy, .deleteUserInline user policy⟩ },
   { words := "attached policies"
     query := .userPolicies user
     targets := fun (policies : List PolicySummary) => policies.map fun policy =>
       ⟨.userPolicyAttachment, user ++ "/" ++ policy.name, .detachUserPolicy user policy.arn⟩ },
   { words := "groups"
     query := .userGroups user
     targets := fun (groups : List String) => groups.map fun group =>
       ⟨.groupMembership, user ++ "/" ++ group, .leaveGroup user group⟩ }]

/-- Remove what depends on a principal.  Also returns why the principal has to be left, when a
listing failed; the last failure counts. -/
def strip (site : Site) (principal : String) (blocked : Option String) :
    List Dependents → Engine (List Artifact × Option String)
  | [] => return ([], blocked)
  | dependents :: rest => do
    match ← Engine.iam site.session (.query dependents.query) with
    | .ok answer =>
      let entries ← forEach (attempt site) (dependents.targets answer)
      let (others, blocked) ← strip site principal blocked rest
      return (entries ++ others, blocked)
    | .error failure =>
      let entries ← note site
        ⟨.listing, principal ++ "/" ++ dependents.words, .failed failure.message⟩
      let (others, blocked) ←
        strip site principal (some ("could not list " ++ dependents.words)) rest
      return (entries ++ others, blocked)

/-- Remove a principal after its dependents, unless it has to be left. -/
def removePrincipal (site : Site) (dependents : List Dependents) (target : Target) :
    Engine (List Artifact) := do
  let (entries, blocked) ← strip site target.name none dependents
  match blocked with
  | some reason => return entries ++ (← note site ⟨target.kind, target.name, .skipped reason⟩)
  | none => return entries ++ (← attempt site target)

/-! ## Roles -/

/-- Remove a role. -/
def removeRole (site : Site) (role : String) : Engine (List Artifact) :=
  removePrincipal site (roleDependents role) ⟨.role, role, .deleteRole role⟩

/-- Remove the roles of a listing that are not protected. -/
def removeListedRoles (site : Site) (settings : ReclaimSettings) :
    List RoleSummary → Engine (List Artifact) :=
  forEach fun role =>
    if isProtectedRole settings role then do
      Engine.log .debug ("Keeping protected role " ++ role.path ++ role.name)
      return []
    else removeRole site role.name

/-- Remove all roles that are not protected, and return the names of those that are. -/
def removeRoles (site : Site) (settings : ReclaimSettings) :
    Engine (List Artifact × List String) := do
  match ← Engine.iam site.session (.query .roles) with
  | .error failure => return (← note site ⟨.listing, "roles", .failed failure.message⟩, [])
  | .ok roles =>
    let entries ← removeListedRoles site settings roles
    return (entries, (roles.filter (isProtectedRole settings)).map (·.name))

/-! ## Managed policies -/

/-- The attachments of a policy as targets, first those to users, then groups, then roles. -/
def attachments (policy : PolicySummary) (entities : Iam.PolicyEntities) : List Target :=
  entities.users.map (fun user =>
      ⟨.policyAttachment, policy.name ++ "/user/" ++ user, .detachUserPolicy user policy.arn⟩)
    ++ entities.groups.map (fun group =>
      ⟨.policyAttachment, policy.name ++ "/group/" ++ group, .detachGroupPolicy group policy.arn⟩)
    ++ entities.roles.map (fun role =>
      ⟨.policyAttachment, policy.name ++ "/role/" ++ role, .detachRolePolicy role policy.arn⟩)

/-- The versions of a policy other than the default one, as targets. -/
def oldVersions (policy : PolicySummary) (versions : List Iam.VersionSummary) : List Target :=
  (versions.filter (!·.isDefault)).map fun version =>
    ⟨.policyVersion, policy.name ++ "/" ++ version.id, .deleteVersion policy.arn version.id⟩

/-- Make the entries of a policy that is left because a listing failed. -/
def leavePolicy (site : Site) (policy : PolicySummary) (part reason : String)
    (failure : ServiceError) : Engine (List Artifact) := do
  let listing ← note site ⟨.listing, policy.name ++ "/" ++ part, .failed failure.message⟩
  let left ← note site ⟨.policy, policy.name, .skipped reason⟩
  return listing ++ left

/-- Delete a policy's old versions and then the policy. -/
def deletePolicy (site : Site) (policy : PolicySummary) : Engine (List Artifact) := do
  match ← Engine.iam site.session (.query (.policyVersions policy.arn)) with
  | .error failure => leavePolicy site policy "versions" "could not list policy versions" failure
  | .ok versions =>
    let entries ← forEach (attempt site) (oldVersions policy versions)
    let last ← attempt site ⟨.policy, policy.name, .deletePolicy policy.arn⟩
    return entries ++ last

/-- Remove a policy: detach it, delete its old versions, then the policy.  A policy that is attached
to a protected role is left as it is. -/
def removePolicy (site : Site) (settings : ReclaimSettings) (kept : List String)
    (policy : PolicySummary) : Engine (List Artifact) := do
  match ← Engine.iam site.session (.query (.policyEntities policy.arn)) with
  | .error failure => leavePolicy site policy "entities" "could not list attached entities" failure
  | .ok entities =>
    -- only the name is known of a role here; `kept` has those that are protected by their path
    match entities.roles.find? (fun role => kept.contains role ||
      isProtectedName settings role) with
    | some role =>
      note site ⟨.policy, policy.name, .skipped ("attached to protected role " ++ role)⟩
    | none =>
      let detached ← forEach (attempt site) (attachments policy entities)
      let deleted ← deletePolicy site policy
      return detached ++ deleted

/-- Remove the account's own policies, where `kept` are the roles that were left because they are
protected. -/
def removePolicies (site : Site) (settings : ReclaimSettings) (kept : List String) :
    Engine (List Artifact) := do
  match ← Engine.iam site.session (.query .localPolicies) with
  | .error failure => note site ⟨.listing, "local policies", .failed failure.message⟩
  | .ok policies => forEach (removePolicy site settings kept) policies

/-! ## Users -/

/-- What became of a login profile. -/
def profileStatus : Except ServiceError Bool → Artifact.Status
  | .ok true => .succeeded
  | .ok false => .skipped "no login profile"
  | .error failure => .failed failure.message

/-- Remove a user. -/
def removeUser (site : Site) (user : String) : Engine (List Artifact) := do
  let reply ← Engine.iam site.session (.deleteLoginProfile user)
  let profile ← note site ⟨.loginProfile, user, profileStatus reply⟩
  let others ← removePrincipal site (userDependents user) ⟨.user, user, .deleteUser user⟩
  return profile ++ others

/-- Remove all users. -/
def removeUsers (site : Site) : Engine (List Artifact) := do
  match ← Engine.iam site.session (.query .users) with
  | .error failure => note site ⟨.listing, "users", .failed failure.message⟩
  | .ok users => forEach (removeUser site) users

/-! ## The whole account -/

/-- Clear an account, and return the entries of its report. -/
def clear (site : Site) (settings : ReclaimSettings) : Engine (List Artifact) := do
  let (roles, kept) ← removeRoles site settings
  let policies ← removePolicies site settings kept
  let users ← removeUsers site
  return roles ++ policies ++ users

end AccountLending.Lending
