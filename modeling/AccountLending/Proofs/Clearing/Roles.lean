import AccountLending.Proofs.Clearing.Principals

/-!
# How roles are removed

The roles of an account that are not protected are removed one after the other; a protected role is
left as it is.

* `rolePrincipal` — the columns of a role: the policies attached to it and those written into it;
* `rolesLeft`, `rolesDeeds` — what is left of the roles, and what is done;
* `leads_removeRoles` — the run.
-/

namespace AccountLending.Lending

open Iam (Query Removal RoleSummary)

/-! ## One role -/

/-- The managed policies attached to a role. -/
def roleAttached (role : String) : Column Iam.Role where
  dependents := (roleDependents role).get ⟨0, by simp [roleDependents]⟩
  target arn :=
    ⟨.rolePolicyAttachment, role ++ "/" ++ Text.afterLast '/' arn, .detachRolePolicy role arn⟩
  names := (·.attached)
  set names role := { role with attached := names }

/-- The policies written into a role. -/
def roleInline (role : String) : Column Iam.Role where
  dependents := (roleDependents role).get ⟨1, by simp [roleDependents]⟩
  target policy := ⟨.roleInlinePolicy, role ++ "/" ++ policy, .deleteRoleInline role policy⟩
  names := (·.inline)
  set names role := { role with inline := names }

/-- A role as a principal. -/
def rolePrincipal (role : String) : Principal Iam.Role where
  columns := [roleAttached role, roleInline role]
  target := ⟨.role, role, .deleteRole role⟩
  isBare content := content.attached.isEmpty && content.inline.isEmpty
  inUse := .inUse ("role " ++ role)

/-- An account with a role of a content, or without it. -/
def placeRole (iam : Iam) (role : String) (content : Option Iam.Role) : Iam :=
  { iam with roles := iam.roles.put role content }

theorem rolePrincipal_holds (iam : Iam) (role : String) :
    (rolePrincipal role).Holds (placeRole iam role) where
  columns column hcolumn := by
    simp only [rolePrincipal, List.mem_cons, List.not_mem_nil, or_false] at hcolumn
    rcases hcolumn with rfl | rfl
    · refine ⟨fun _ _ => rfl, fun _ => rfl, fun _ _ _ => rfl, fun x => ?_, fun x name hname => ?_⟩
      · refine ⟨Iam.attachedPolicies x.attached, ?_, ?_⟩
        · simp [roleAttached, roleDependents, placeRole, Iam.answer, Iam.role]
        · simp [roleAttached, roleDependents, Iam.attachedPolicies]
      · simp only [roleAttached] at hname
        simp [placeRole, roleAttached, Iam.apply, Iam.role, Iam.without, hname,
          Iam.changeRole, bind, Except.bind, pure, Except.pure]
    · refine ⟨fun _ _ => rfl, fun _ => rfl, fun _ _ _ => rfl, fun x => ?_, fun x name hname => ?_⟩
      · refine ⟨x.inline.keys, ?_, ?_⟩
        · simp [roleInline, roleDependents, placeRole, Iam.answer, Iam.role]
        · rfl
      · simp only [roleInline] at hname
        simp [placeRole, roleInline, Iam.apply, Iam.role, Iam.without, hname, Iam.changeRole, bind,
          Except.bind, pure, Except.pure]
  deleted x := by
    cases hbare : x.attached.isEmpty && x.inline.isEmpty <;>
      simp [placeRole, rolePrincipal, Iam.apply, Iam.role, hbare, bind, Except.bind, pure,
        Except.pure]

variable {failing : NameSet} {iam : Iam} {site : Site} {settings : ReclaimSettings}

theorem placeRole_get? (iam : Iam) (role : String) :
    placeRole iam role (iam.roles.get? role) = iam := by
  rw [placeRole, Dict.put_get?]

theorem does_removeRole (iam : Iam) {role : String} {content : Iam.Role}
    (h : iam.roles.get? role = some content) :
    Does failing (removeRole site role) iam ((rolePrincipal role).deeds failing content)
      (placeRole iam role ((rolePrincipal role).left failing content)) := by
  have hremove := Principal.does failing site (rolePrincipal_holds iam role) content
  rwa [← h, placeRole_get?] at hremove

/-! ## All roles -/

/-- Whether a role of a name and content is protected. -/
def isKept (settings : ReclaimSettings) (role : String) (content : Iam.Role) : Bool :=
  isProtectedRole settings ⟨role, content.path⟩

/-- The names of the protected roles, as far as the roles can be listed. -/
def keptNames (failing : NameSet) (settings : ReclaimSettings) (iam : Iam) : List String :=
  if refused failing (.query .roles) then []
  else (iam.roles.entries.filter fun e => isKept settings e.1 e.2).map Prod.fst

/-- What is left of a role. -/
def roleLeft (failing : NameSet) (settings : ReclaimSettings) (role : String) (content : Iam.Role) :
    Option Iam.Role :=
  if isKept settings role content then some content else (rolePrincipal role).left failing content

/-- What is left of the roles. -/
def rolesLeft (failing : NameSet) (settings : ReclaimSettings) (roles : Dict Iam.Role) :
    Dict Iam.Role :=
  if refused failing (.query .roles) then roles else roles.filterMap (roleLeft failing settings)

/-- What is done to a role. -/
def roleDeeds (failing : NameSet) (settings : ReclaimSettings) (role : String)
    (content : Iam.Role) : List Deed :=
  if isKept settings role content then [] else (rolePrincipal role).deeds failing content

/-- What is done to the roles. -/
def rolesDeeds (failing : NameSet) (settings : ReclaimSettings) (roles : Dict Iam.Role) :
    List Deed :=
  if refused failing (.query .roles) then [.unlisted .roles "roles"]
  else .listed .roles :: roles.entries.flatMap fun e => roleDeeds failing settings e.1 e.2

/-- The roles of a listing are removed or kept. -/
theorem does_removeListedRoles :
    Does failing
      (removeListedRoles site settings (iam.roles.entries.map fun e => ⟨e.1, e.2.path⟩)) iam
      (iam.roles.entries.flatMap fun e => roleDeeds failing settings e.1 e.2)
      { iam with roles := iam.roles.filterMap (roleLeft failing settings) } := by
  have hroles :=
    does_forEach_entries failing iam.roles (fun roles => { iam with roles }) (fun _ => true)
      (fun e => (⟨e.1, e.2.path⟩ : RoleSummary))
      (fun role => if isProtectedRole settings role then do
          Engine.log .debug ("Keeping protected role " ++ role.path ++ role.name)
          return []
        else removeRole site role.name)
      (fun e => roleDeeds failing settings e.1 e.2) (roleLeft failing settings) ?_
  · simp only [List.filter_true, if_true] at hroles
    exact hroles
  intro now role content _ hnow _
  unfold roleDeeds roleLeft isKept
  split
  · rw [← hnow, Dict.put_get?]
    exact (leads_log _ _).bind (leads_done _)
  · exact does_removeRole { iam with roles := now } hnow

theorem leads_removeRoles :
    Leads failing (removeRoles site settings) iam
      (Deed.entries (rolesDeeds failing settings iam.roles), keptNames failing settings iam)
      (Deed.calls (rolesDeeds failing settings iam.roles))
      { iam with roles := rolesLeft failing settings iam.roles } := by
  unfold removeRoles rolesDeeds keptNames rolesLeft
  cases hrefused : refused failing (.query .roles) with
  | true =>
    refine Leads.bind_of_eq (leads_iam_refused hrefused) ?_ rfl
    exact Leads.bind_of_eq (leads_note site _) (leads_done _) rfl
  | false =>
    -- the names that are remembered are those of the protected roles of the listing
    have hkept : ((iam.roles.entries.map fun e => (⟨e.1, e.2.path⟩ : RoleSummary)).filter
        (isProtectedRole settings)).map (·.name) =
          (iam.roles.entries.filter fun e => isKept settings e.1 e.2).map Prod.fst := by
      rw [List.filter_map, List.map_map]
      rfl
    refine Leads.bind_of_eq (leads_query hrefused rfl) ?_ rfl
    refine Leads.bind_of_eq does_removeListedRoles ?_ (List.append_nil _).symm
    rw [if_neg Bool.false_ne_true, ← hkept]
    exact leads_done _

end AccountLending.Lending
