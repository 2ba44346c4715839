import AccountLending.Proofs.Clearing.Policies
import AccountLending.Proofs.Clearing.Roles
import AccountLending.Proofs.Clearing.Users
import AccountLending.Proofs.Uses
import AccountLending.World

/-!
# What a whole clearing does

* `cleared`, `clearDeeds` — what is left of an account, and what is done, by what the account has
  and by which requests are registered to fail;
* `does_clear` — the run against the IAM of one account;
* `World.run_clear` — the run in a world, which changes nothing but that account and the log;
* `requests_trace_clear` — the requests of the run are those of its deeds, in the same order.
-/

namespace AccountLending

namespace Lending

variable {failing : NameSet} {iam : Iam} {site : Site} {settings : ReclaimSettings}

/-! ## One account alone -/

/-- An account after its roles were to be removed. -/
def afterRoles (failing : NameSet) (settings : ReclaimSettings) (iam : Iam) : Iam :=
  { iam with roles := rolesLeft failing settings iam.roles }

/-- An account after its roles and then its policies were to be removed. -/
def afterPolicies (failing : NameSet) (settings : ReclaimSettings) (iam : Iam) : Iam :=
  policiesAfter failing settings (keptNames failing settings iam) (afterRoles failing settings iam)

/-- Whether a policy is detached and deleted when an account is cleared. -/
def isCleared (failing : NameSet) (settings : ReclaimSettings) (iam : Iam) : String → Bool :=
  isGone failing settings (keptNames failing settings iam) (afterRoles failing settings iam)

/-- An account after it was to be cleared. -/
def cleared (failing : NameSet) (settings : ReclaimSettings) (iam : Iam) : Iam :=
  let detached := afterPolicies failing settings iam
  { detached with users := usersLeft failing detached.users }

/-- What is done to clear an account. -/
def clearDeeds (failing : NameSet) (settings : ReclaimSettings) (iam : Iam) : List Deed :=
  rolesDeeds failing settings iam.roles
    ++ policiesDeeds failing settings (keptNames failing settings iam)
      (afterRoles failing settings iam)
    ++ usersDeeds failing (afterPolicies failing settings iam).users

theorem cleared_roles_get? (role : String) :
    (cleared failing settings iam).roles.get? role =
      ((rolesLeft failing settings iam.roles).get? role).map
      fun content => { content with
        attached := roleHolder.survivors failing (isCleared failing settings iam) role content } :=
  Dict.get?_each _ _ role

theorem cleared_policies_get? (arn : String) :
    (cleared failing settings iam).policies.get? arn = (iam.policies.get? arn).bind fun content =>
      if isCleared failing settings iam arn then
        policyLeft failing (afterRoles failing settings iam) ⟨content.name, arn⟩ content
      else some content :=
  Dict.get?_filterMap _ _ arn

theorem afterPolicies_users_get? (failing : NameSet) (settings : ReclaimSettings) (iam : Iam)
    (user : String) :
    (afterPolicies failing settings iam).users.get? user = (iam.users.get? user).map fun content =>
      userHolder.set (userHolder.survivors failing (isCleared failing settings iam) user content)
        content :=
  Dict.get?_each _ _ user

theorem does_clear (failing : NameSet) (iam : Iam) (site : Site) (settings : ReclaimSettings) :
    Does failing (clear site settings) iam (clearDeeds failing settings iam)
      (cleared failing settings iam) := by
  rw [Does, clearDeeds, Deed.entries_append, Deed.entries_append, Deed.calls_append,
    Deed.calls_append, List.append_assoc (Deed.calls _)]
  refine Leads.bind_of_eq leads_removeRoles ?_ rfl
  refine Leads.bind_of_eq does_removePolicies ?_ rfl
  exact Leads.bind_of_eq does_removeUsers (leads_done _) (List.append_nil _).symm

/-! ## The calls of a clearing -/

/-- The calls that a clearing makes: requests to the IAM of a session, and lines for the log. -/
def IsOwnCall (session : Session) : Call → Prop
  | .cloud (.iam (some other) _) => other = session
  | .host (.log _) => True
  | _ => False

theorem uses_iam (session : Session) (request : Iam.Request) :
    (Engine.iam session request).Uses (IsOwnCall session) :=
  ⟨rfl, fun _ => trivial⟩

theorem uses_note (artifact : Artifact) : (note site artifact).Uses (IsOwnCall site.session) :=
  ⟨trivial, fun _ => trivial⟩

theorem uses_attempt (target : Target) : (attempt site target).Uses (IsOwnCall site.session) :=
  (uses_iam _ _).bind fun _ => uses_note _

theorem uses_forEach {α : Type} {allowed : Call → Prop} {act : α → Engine (List Artifact)}
    {items : List α} (h : ∀ item ∈ items, (act item).Uses allowed) :
    (forEach act items).Uses allowed := by
  induction items with
  | nil => trivial
  | cons item rest ih =>
    have hrest := ih fun other hother => h other (List.mem_cons_of_mem _ hother)
    exact (h item List.mem_cons_self).bind fun _ => hrest.bind fun _ => trivial

theorem uses_strip (principal : String) (blocked : Option String) (dependents : List Dependents) :
    (strip site principal blocked dependents).Uses (IsOwnCall site.session) := by
  induction dependents generalizing blocked with
  | nil => trivial
  | cons first rest ih =>
    apply (uses_iam _ _).bind
    intro reply
    cases reply with
    | ok answer =>
      exact (uses_forEach fun target _ => uses_attempt target).bind fun _ =>
        (ih _).bind fun _ => trivial
    | error failure => exact (uses_note _).bind fun _ => (ih _).bind fun _ => trivial

theorem uses_removePrincipal (dependents : List Dependents) (target : Target) :
    (removePrincipal site dependents target).Uses (IsOwnCall site.session) := by
  refine (uses_strip _ _ _).bind fun (_, blocked) => ?_
  cases blocked with
  | some reason => exact (uses_note _).bind fun _ => trivial
  | none => exact (uses_attempt _).bind fun _ => trivial

theorem uses_removeRoles : (removeRoles site settings).Uses (IsOwnCall site.session) := by
  apply (uses_iam _ _).bind
  intro reply
  cases reply with
  | error failure => exact (uses_note _).bind fun _ => trivial
  | ok roles =>
    refine (uses_forEach fun role _ => ?_).bind fun _ => trivial
    split
    · exact ⟨trivial, fun _ => trivial⟩
    · exact uses_removePrincipal _ _

theorem uses_removePolicy (kept : List String) (policy : Iam.PolicySummary) :
    (removePolicy site settings kept policy).Uses (IsOwnCall site.session) := by
  have hleave : ∀ part reason failure,
      (leavePolicy site policy part reason failure).Uses (IsOwnCall site.session) :=
    fun _ _ _ => (uses_note _).bind fun _ => (uses_note _).bind fun _ => trivial
  apply (uses_iam _ _).bind
  intro reply
  cases reply with
  | error failure => exact hleave _ _ _
  | ok entities =>
    dsimp only
    split
    · exact uses_note _
    · refine (uses_forEach fun target _ => uses_attempt target).bind fun _ =>
        Program.Uses.bind ?_ fun _ => trivial
      apply (uses_iam _ _).bind
      intro reply
      cases reply with
      | error failure => exact hleave _ _ _
      | ok versions =>
        exact (uses_forEach fun target _ => uses_attempt target).bind fun _ =>
          (uses_attempt _).bind fun _ => trivial

theorem uses_clear (site : Site) (settings : ReclaimSettings) :
    (clear site settings).Uses (IsOwnCall site.session) := by
  refine uses_removeRoles.bind fun _ => Program.Uses.bind ?_ fun _ =>
    Program.Uses.bind ?_ fun _ => trivial
  · apply (uses_iam _ _).bind
    intro reply
    cases reply with
    | error failure => exact uses_note _
    | ok policies => exact uses_forEach fun policy _ => uses_removePolicy _ policy
  · apply (uses_iam _ _).bind
    intro reply
    cases reply with
    | error failure => exact uses_note _
    | ok users =>
      refine uses_forEach fun user _ => ?_
      exact (uses_iam _ _).bind fun _ => (uses_note _).bind fun _ =>
        (uses_removePrincipal _ _).bind fun _ => trivial

end Lending

theorem Cloud.iamOf_changeIam (cloud : Cloud) (account other : String)
    (f : Journaled Iam Iam.Request → Journaled Iam Iam.Request) :
    (cloud.changeIam account f).iamOf other =
      if other = account then f (cloud.iamOf account) else cloud.iamOf other := by
  simp only [changeIam, iamOf, Dict.get?_insert]
  split <;> rfl

/-- Opening a session changes neither the organization nor any account's IAM. -/
theorem Cloud.assumeRole_keeps (cloud : Cloud) (arn name : String) :
    (cloud.assumeRole arn name).2.organization = cloud.organization ∧
      ∀ other, (cloud.assumeRole arn name).2.iamOf other = cloud.iamOf other := by
  unfold Cloud.assumeRole
  split
  · exact ⟨rfl, fun _ => rfl⟩
  · dsimp only
    split
    · exact ⟨rfl, fun _ => rfl⟩
    · refine ⟨rfl, fun other => ?_⟩
      rw [Cloud.iamOf_changeIam]
      split
      · rename_i hother
        rw [hother]
        rfl
      · rfl

namespace World

/-- A world that differs from another one only in the IAM of one account and in the log. -/
structure IsSameBut (account : String) (before after : World) : Prop where
  organization : after.cloud.organization = before.cloud.organization
  identity : after.cloud.identity = before.cloud.identity
  iamOf : ∀ other, other ≠ account → after.cloud.iamOf other = before.cloud.iamOf other
  host : { after.host with log := [] } = { before.host with log := [] }

theorem IsSameBut.refl (account : String) (world : World) : IsSameBut account world world :=
  ⟨rfl, rfl, fun _ _ => rfl, rfl⟩

theorem IsSameBut.serve {session : Session} {before world : World} {call : Call}
    (hcall : Lending.IsOwnCall session call) (h : IsSameBut session.accessKey before world) :
    IsSameBut session.accessKey before (World.serve call world).2 := by
  match call, hcall with
  | .cloud (.iam (some _) request), rfl =>
    refine ⟨h.organization, h.identity, fun other hother => ?_, h.host⟩
    rw [← h.iamOf other hother]
    exact (Cloud.iamOf_changeIam _ _ _ _).trans (if_neg hother)
  | .host (.log line), _ => exact ⟨h.organization, h.identity, h.iamOf, h.host⟩

/-- Clearing an account does its deeds in the account of the session, and leaves the rest of the
world. -/
theorem run_clear (world : World) (site : Lending.Site) (settings : ReclaimSettings) :
    let service := world.cloud.iamOf site.session.accessKey
    let deeds := Lending.clearDeeds service.failing settings service.state
    (world.run (Lending.clear site settings)).1 = Lending.Deed.entries deeds ∧
      (world.run (Lending.clear site settings)).2.cloud.iamOf site.session.accessKey =
        ⟨Lending.cleared service.failing settings service.state,
          service.calls ++ Lending.Deed.calls deeds, service.failing⟩ ∧
      IsSameBut site.session.accessKey world (world.run (Lending.clear site settings)).2 := by
  intro service deeds
  have hrun := Lending.does_clear service.failing service.state site settings service.calls
  have huses := Lending.uses_clear site settings
  have hproject := huses.run_project World.serve Lending.alone
    (fun world => world.cloud.iamOf site.session.accessKey) (fun call world hcall => ?_) world
  -- in the account of the session the world answers just as the account alone does
  · rw [show world.cloud.iamOf site.session.accessKey =
      ⟨service.state, service.calls, service.failing⟩ from rfl, hrun] at hproject
    refine ⟨hproject.1, hproject.2, ?_⟩
    exact huses.run_keeps (fun _ _ hcall => IsSameBut.serve hcall)
      (IsSameBut.refl site.session.accessKey world)
  · match call, hcall with
    | .cloud (.iam (some _) request), rfl =>
      exact ⟨rfl, (Cloud.iamOf_changeIam _ _ _ _).trans (if_pos rfl)⟩
    | .host (.log line), _ => exact ⟨rfl, rfl⟩

end World

namespace Lending

/-! ## The requests of a clearing -/

/-- The request of a call to an account's IAM. -/
def iamRequest? : Call → Option Iam.Request
  | .cloud (.iam _ request) => some request
  | _ => none

/-- The journal of an account's IAM has the requests that were made in its session. -/
theorem calls_iamOf_of_uses {α : Type} {session : Session} {program : Engine α}
    (h : program.Uses (IsOwnCall session)) (world : World) :
    ((world.run program).2.cloud.iamOf session.accessKey).calls =
      (world.cloud.iamOf session.accessKey).calls
        ++ (program.trace World.serve world).filterMap iamRequest? := by
  induction program generalizing world with
  | done a => exact (List.append_nil _).symm
  | call call next ih =>
    have hnext := ih _ (h.2 (World.serve call world).1) (World.serve call world).2
    apply hnext.trans
    match call, h.1 with
    | .cloud (.iam (some _) request), rfl =>
      have hcalls : ((World.serve (.cloud (.iam (some session) request)) world).2.cloud.iamOf
          session.accessKey).calls = (world.cloud.iamOf session.accessKey).calls ++ [request] := by
        apply (congrArg Journaled.calls ((Cloud.iamOf_changeIam _ _ _ _).trans (if_pos rfl))).trans
        exact Iam.calls_serve request _
      rw [hcalls, List.append_assoc]
      rfl
    | .host (.log line), _ => rfl

/-- The requests of a clearing are those of its deeds, in the same order. -/
theorem requests_trace_clear (site : Site) (settings : ReclaimSettings) (world : World) :
    ((clear site settings).trace World.serve world).filterMap iamRequest? =
      Deed.calls (clearDeeds (world.cloud.iamOf site.session.accessKey).failing settings
        (world.cloud.iamOf site.session.accessKey).state) := by
  have hcalls := calls_iamOf_of_uses (uses_clear site settings) world
  rw [(world.run_clear site settings).2.1] at hcalls
  exact (List.append_cancel_left hcalls).symm

/-- The requests of a clearing's deeds are among its calls. -/
theorem mem_trace_clear (site : Site) {settings : ReclaimSettings} {world : World}
    {request : Iam.Request} (h : request ∈
      Deed.calls (clearDeeds (world.cloud.iamOf site.session.accessKey).failing settings
      (world.cloud.iamOf site.session.accessKey).state)) :
    .cloud (.iam (some site.session) request) ∈ (clear site settings).trace World.serve world := by
  rw [← requests_trace_clear] at h
  obtain ⟨call, hmem, hrequest⟩ := List.mem_filterMap.1 h
  have hown := (uses_clear site settings).mem_trace hmem
  match call, hown with
  | .cloud (.iam (some _) other), rfl =>
    obtain rfl : other = request := Option.some.inj hrequest
    exact hmem
  | .host (.log line), _ => simp [iamRequest?] at hrequest

end Lending

end AccountLending
