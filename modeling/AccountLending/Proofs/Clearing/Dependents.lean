import AccountLending.Proofs.Clearing.Requests

/-!
# Dependents go first

Whatever is registered to fail, a clearing deletes a role, a policy or a user only after everything
that depended on it when the clearing began was asked to be removed.  Part of this may have been
done in an earlier phase: a policy is detached from the roles when these are removed, and from the
users when the policies are, and what was detached before is not listed any more.

* `dues` — the requests that are due before a deletion;
* `precedes_dues` — each of them comes before the deletion, in its own phase or in an earlier one;
* `DependentsFirst` — the order of the calls of a clearing, clause by clause;
* `World.clear_dependents_first` — every clearing keeps to that order.
-/

namespace AccountLending

namespace Lending

open Iam (Query Removal PolicySummary)

/-- The requests that are due before a deletion: those that remove what depends on the role, the
policy or the user in an account. -/
def dues (iam : Iam) : Removal → List Iam.Request
  | .deleteRole role => (iam.roles.get? role).elim [] fun content =>
    content.attached.keys.map (fun arn => .remove (.detachRolePolicy role arn))
      ++ content.inline.keys.map fun policy => .remove (.deleteRoleInline role policy)
  | .deletePolicy arn =>
    (iam.entities arn).users.map (fun user => .remove (.detachUserPolicy user arn))
      ++ (iam.entities arn).groups.map (fun group => .remove (.detachGroupPolicy group arn))
      ++ (iam.entities arn).roles.map (fun role => .remove (.detachRolePolicy role arn))
      ++ (iam.policies.get? arn).elim [] fun content =>
        (oldOf content).map fun version => .remove (.deleteVersion arn version.id)
  | .deleteUser user => .deleteLoginProfile user :: (iam.users.get? user).elim [] fun content =>
    content.keys.keys.map (fun key => .remove (.deleteAccessKey user key))
      ++ content.certificates.keys.map
        (fun certificate => .remove (.deleteCertificate user certificate))
      ++ content.inline.keys.map (fun policy => .remove (.deleteUserInline user policy))
      ++ content.attached.keys.map (fun arn => .remove (.detachUserPolicy user arn))
      ++ content.groups.keys.map fun group => .remove (.leaveGroup user group)
  | _ => []

variable {failing : NameSet} {iam : Iam} {settings : ReclaimSettings}

theorem exists_of_mem_elim {α β : Type} {o : Option α} {f : α → List β} {b : β}
    (h : b ∈ o.elim [] f) : ∃ a, o = some a ∧ b ∈ f a := by
  cases o with
  | none => exact absurd h List.not_mem_nil
  | some a => exact ⟨a, rfl, h⟩

/-! ## Within one phase -/

section

variable {ρ : Type} {d : Dict ρ}

/-- In a phase, what is due for one item comes before its deletion when it belongs to that item's
requests. -/
theorem precedes_phase (deletion : String → Removal) {all : Query} {listed : List (String × ρ)}
    (hlisted : listed.Sublist d.entries) {calls : String × ρ → List Iam.Request}
    (h : ∀ e, Concludes (deletion e.1) (calls e))
    (hfinal : ∀ name, (deletion name).isFinal = true) (hinjective : Function.Injective deletion)
    {name : String} {request : Iam.Request} (hrequest : request.isLandmark = false)
    (hdue : ∀ x, d.get? name = some x → .remove (deletion name) ∈ calls (name, x) →
      request ∈ calls (name, x)) :
    Precedes (· = request) (· = .remove (deletion name)) (.query all :: listed.flatMap calls) := by
  have hlisting : ∀ a ∈ [Iam.Request.query all], a ≠ .remove (deletion name) := by simp
  refine Precedes.append (.of_forall_not hlisting) (.flatMap fun e he => ?_)
  obtain ⟨other, x⟩ := e
  by_cases hother : other = name
  · subst hother
    have hx := (Dict.mem_entries_iff d other x).1 (hlisted.subset he)
    exact (h (other, x)).precedes hrequest (hfinal other) (hdue x hx)
  · refine .of_forall_not fun a ha heq => hother ?_
    subst heq
    exact (hinjective ((h (other, x)).eq_of_mem (hfinal name) ha)).symm

end

/-! ## Roles -/

/-- What is due for a role are the removals of its columns. -/
theorem exists_column_of_mem_dues_role {role : String} {request : Iam.Request}
    (h : request ∈ dues iam (.deleteRole role)) :
    ∃ content, iam.roles.get? role = some content ∧ ∃ column ∈ (rolePrincipal role).columns, ∃ name,
      (column.names content).contains name = true ∧
      request = .remove (column.target name).removal := by
  obtain ⟨content, hcontent, h⟩ := exists_of_mem_elim h
  refine ⟨content, hcontent, ?_⟩
  rcases List.mem_append.1 h with h | h <;> obtain ⟨name, hname, rfl⟩ := List.mem_map.1 h
  · exact ⟨roleAttached role, by simp [rolePrincipal], name,
      (NameSet.mem_keys_iff _ _).1 hname, rfl⟩
  · exact ⟨roleInline role, by simp [rolePrincipal], name, (NameSet.mem_keys_iff _ _).1 hname, rfl⟩

theorem precedes_rolesDeeds (failing : NameSet) (settings : ReclaimSettings) {role : String}
    {request : Iam.Request} (h : request ∈ dues iam (.deleteRole role)) :
    Precedes (· = request) (· = .remove (.deleteRole role))
      (Deed.calls (rolesDeeds failing settings iam.roles)) := by
  obtain ⟨content, hrole, column, hcolumn, name, hname, rfl⟩ := exists_column_of_mem_dues_role h
  rw [calls_rolesDeeds]
  refine precedes_phase .deleteRole (listedOf_sublist _ _ _)
    (fun e => concludes_roleDeeds failing settings e.1 e.2) (fun _ => rfl)
    (fun _ _ => Removal.deleteRole.inj) ((isPlain_rolePrincipal role column hcolumn).2 name) ?_
  intro found hfound hdeleted
  obtain rfl : content = found := Option.some.inj (hrole.symm.trans hfound)
  unfold roleDeeds at hdeleted ⊢
  split at hdeleted
  · exact absurd hdeleted List.not_mem_nil
  · rename_i hkept
    rw [if_neg hkept]
    exact Principal.mem_calls_deeds (isPlain_rolePrincipal role) (disjoint_rolePrincipal role)
      rfl hdeleted hcolumn hname

/-! ## Policies -/

/-- What is requested for a role that is listed and not protected, is requested for the roles. -/
theorem mem_calls_rolesDeeds {role : String} {content : Iam.Role}
    (hrole : iam.roles.get? role = some content) (hlisted : refused failing (.query .roles) = false)
    (hkept : isKept settings role content = false)
    {request : Iam.Request}
    (h : request ∈ Deed.calls ((rolePrincipal role).deeds failing content)) :
    request ∈ Deed.calls (rolesDeeds failing settings iam.roles) := by
  rw [calls_rolesDeeds, listedOf, hlisted]
  refine List.mem_cons_of_mem _ (List.mem_flatMap.2 ⟨(role, content), ?_, ?_⟩)
  · exact (Dict.mem_entries_iff iam.roles role content).2 hrole
  · rwa [roleDeeds, hkept]

/-- A role whose policies cannot be listed is left with all of them. -/
theorem mem_entities_afterRoles {arn role : String} {content : Iam.Role}
    (hrole : iam.roles.get? role = some content) (hattached : content.attached.contains arn = true)
    (hunlisted : (roleAttached role).isUnlisted failing = true) :
    role ∈ ((afterRoles failing settings iam).entities arn).roles := by
  rw [mem_entities_roles_iff, afterRoles, rolesLeft]
  split
  · exact ⟨content, hrole, hattached⟩
  rw [Dict.get?_filterMap, hrole, Option.bind_some, roleLeft]
  split
  · exact ⟨content, rfl, hattached⟩
  have hleft : (rolePrincipal role).left failing content =
      some (stripLeft failing (rolePrincipal role).columns content) := by
    simp [Principal.left, Principal.isBlocked, rolePrincipal, hunlisted]
  have hnames : (stripLeft failing (rolePrincipal role).columns content).attached =
      (roleAttached role).survivors failing content :=
    names_stripLeft (disjoint_rolePrincipal role) (rolePrincipal_holds {} role).columns
      List.mem_cons_self content
  refine ⟨_, hleft, ?_⟩
  rw [hnames, Column.survivors, NameSet.contains_keep, hunlisted, Bool.true_or, Bool.and_true]
  exact hattached

/-- When the roles are removed a policy is detached from those that held it, unless they hold it
afterwards. -/
theorem mem_entities_afterRoles_or (failing : NameSet) (settings : ReclaimSettings)
    {arn role : String} (h : role ∈ (iam.entities arn).roles) :
    role ∈ ((afterRoles failing settings iam).entities arn).roles ∨
      .remove (.detachRolePolicy role arn) ∈
        Deed.calls (rolesDeeds failing settings iam.roles) := by
  obtain ⟨content, hrole, hattached⟩ := mem_entities_roles_iff.1 h
  cases hroles : refused failing (.query .roles) with
  | true =>
    left
    rwa [afterRoles, rolesLeft, if_pos hroles]
  | false =>
    cases hkept : isKept settings role content with
    | true =>
      exact .inl (mem_entities_roles_iff.2 ⟨content, rolesLeft_get? failing hrole hkept, hattached⟩)
    | false =>
      cases hunlisted : (roleAttached role).isUnlisted failing with
      | true => exact .inl (mem_entities_afterRoles hrole hattached hunlisted)
      | false =>
        refine .inr (mem_calls_rolesDeeds hrole hroles hkept ?_)
        rw [Principal.calls_deeds, calls_stripDeeds failing _ (disjoint_rolePrincipal role)]
        refine List.mem_append_left _ (List.mem_flatMap.2 ⟨roleAttached role,
          List.mem_cons_self, ?_⟩)
        rw [if_neg (by rw [hunlisted]; exact Bool.false_ne_true)]
        exact List.mem_cons_of_mem _ (List.mem_map.2
          ⟨arn, (NameSet.mem_keys_iff _ _).2 hattached, rfl⟩)

theorem exists_attachment (policy : PolicySummary) (entities : Iam.PolicyEntities)
    {removal : Removal}
    (h : (∃ user ∈ entities.users, removal = .detachUserPolicy user policy.arn) ∨
      (∃ group ∈ entities.groups, removal = .detachGroupPolicy group policy.arn) ∨
      ∃ role ∈ entities.roles, removal = .detachRolePolicy role policy.arn) :
    ∃ target ∈ attachments policy entities, target.removal = removal := by
  simp only [attachments, List.mem_append, List.mem_map]
  rcases h with ⟨user, huser, rfl⟩ | ⟨group, hgroup, rfl⟩ | ⟨role, hrole, rfl⟩
  · exact ⟨_, .inl (.inl ⟨user, huser, rfl⟩), rfl⟩
  · exact ⟨_, .inl (.inr ⟨group, hgroup, rfl⟩), rfl⟩
  · exact ⟨_, .inr ⟨role, hrole, rfl⟩, rfl⟩

/-- A policy is only deleted when its detachments and the deletion of its old versions were
requested too. -/
theorem mem_calls_policyDeeds {kept : List String} {policy : PolicySummary} {content : Iam.Policy}
    (h : .remove (.deletePolicy policy.arn) ∈
      Deed.calls (policyDeeds failing settings kept iam policy content)) :
    (∀ target ∈ attachments policy (iam.entities policy.arn),
      .remove target.removal ∈ Deed.calls (policyDeeds failing settings kept iam policy content)) ∧
    ∀ version ∈ oldOf content, .remove (.deleteVersion policy.arn version.id) ∈
      Deed.calls (policyDeeds failing settings kept iam policy content) := by
  rw [calls_policyDeeds] at h
  split at h
  swap
  · simp at h
  rename_i hreached
  split at h
  · obtain ⟨target, htarget, heq⟩ : ∃ target ∈ attachments policy (iam.entities policy.arn),
        target.removal = .deletePolicy policy.arn := by
      simpa using h
    exact absurd heq (Removal.ne_of_isFinal (isFinal_of_mem_attachments htarget) rfl)
  rename_i hlisted
  rw [calls_policyDeeds, if_pos hreached, if_neg hlisted]
  constructor
  · intro target htarget
    exact List.mem_cons_of_mem _ (List.mem_append_left _ (List.mem_map.2 ⟨target, htarget, rfl⟩))
  · intro version hversion
    refine List.mem_cons_of_mem _ (List.mem_append_right _ (List.mem_cons_of_mem _ ?_))
    exact List.mem_append_left _ (List.mem_map.2 ⟨version, hversion, rfl⟩)

/-- What is requested for a policy whenever it is deleted comes before its deletion. -/
theorem precedes_policiesDeeds_of_mem (failing : NameSet) (settings : ReclaimSettings)
    (kept : List String) {arn : String} {request : Iam.Request}
    (hrequest : request.isLandmark = false)
    (hdue : ∀ content, iam.policies.get? arn = some content → .remove (.deletePolicy arn) ∈
        Deed.calls (policyDeeds failing settings kept iam ⟨content.name, arn⟩ content) →
      request ∈ Deed.calls (policyDeeds failing settings kept iam ⟨content.name, arn⟩ content)) :
    Precedes (· = request) (· = .remove (.deletePolicy arn))
      (Deed.calls (policiesDeeds failing settings kept iam)) := by
  have hconcludes : ∀ e : String × Iam.Policy, Concludes (.deletePolicy e.1)
      (Deed.calls (policyDeeds failing settings kept iam ⟨e.2.name, e.1⟩ e.2)) :=
    fun e => concludes_policyDeeds failing settings kept iam ⟨e.2.name, e.1⟩ e.2
  rw [calls_policiesDeeds]
  exact precedes_phase .deletePolicy (listedOf_sublist _ _ _) hconcludes (fun _ => rfl)
    (fun _ _ => Removal.deletePolicy.inj) hrequest hdue

/-- A policy is detached before its deletion from each principal that it is attached to. -/
theorem precedes_policiesDeeds_of_attached (failing : NameSet) (settings : ReclaimSettings)
    (kept : List String) {arn : String} {removal : Removal} (hremoval : removal.isFinal = false)
    (h : (∃ user ∈ (iam.entities arn).users, removal = .detachUserPolicy user arn) ∨
      (∃ group ∈ (iam.entities arn).groups, removal = .detachGroupPolicy group arn) ∨
        ∃ role ∈ (iam.entities arn).roles, removal = .detachRolePolicy role arn) :
    Precedes (· = .remove removal) (· = .remove (.deletePolicy arn))
      (Deed.calls (policiesDeeds failing settings kept iam)) := by
  refine precedes_policiesDeeds_of_mem failing settings kept hremoval fun content _ hdeleted => ?_
  obtain ⟨target, htarget, rfl⟩ := exists_attachment ⟨content.name, arn⟩ (iam.entities arn) h
  exact (mem_calls_policyDeeds hdeleted).1 target htarget

/-- What is due for a policy was requested with the roles, or comes before its deletion. -/
theorem precedes_policiesDeeds (failing : NameSet) (settings : ReclaimSettings) {arn : String}
    {request : Iam.Request} (h : request ∈ dues iam (.deletePolicy arn)) :
    request ∈ Deed.calls (rolesDeeds failing settings iam.roles) ∨
      Precedes (· = request) (· = .remove (.deletePolicy arn))
        (Deed.calls (policiesDeeds failing settings (keptNames failing settings iam)
          (afterRoles failing settings iam))) := by
  simp only [dues, List.mem_append, List.mem_map] at h
  rcases h with ((⟨user, huser, rfl⟩ | ⟨group, hgroup, rfl⟩) | ⟨role, hrole, rfl⟩) | hversion
  · exact .inr (precedes_policiesDeeds_of_attached _ _ _ rfl (.inl ⟨user, huser, rfl⟩))
  · exact .inr (precedes_policiesDeeds_of_attached _ _ _ rfl (.inr (.inl ⟨group, hgroup, rfl⟩)))
  · rcases mem_entities_afterRoles_or failing settings hrole with hrole | hrequested
    · exact .inr (precedes_policiesDeeds_of_attached _ _ _ rfl (.inr (.inr ⟨role, hrole, rfl⟩)))
    · exact .inl hrequested
  · obtain ⟨content, harn, hversion⟩ := exists_of_mem_elim hversion
    obtain ⟨version, hold, rfl⟩ := List.mem_map.1 hversion
    refine .inr (precedes_policiesDeeds_of_mem _ _ _ rfl fun found hfound hdeleted => ?_)
    obtain rfl : content = found := Option.some.inj (harn.symm.trans hfound)
    exact (mem_calls_policyDeeds hdeleted).2 version hold

/-! ## Users -/

/-- What is due for a user are the deletion of its login profile and the removals of its columns. -/
theorem exists_column_of_mem_dues_user {user : String} {request : Iam.Request}
    (h : request ∈ dues iam (.deleteUser user)) : request = .deleteLoginProfile user ∨
    ∃ content, iam.users.get? user = some content ∧ ∃ column ∈ (userPrincipal user).columns, ∃ name,
      (column.names content).contains name = true ∧
      request = .remove (column.target name).removal := by
  refine (List.mem_cons.1 h).imp_right fun h => ?_
  obtain ⟨content, hcontent, h⟩ := exists_of_mem_elim h
  refine ⟨content, hcontent, ?_⟩
  simp only [List.mem_append, List.mem_map, NameSet.mem_keys_iff] at h
  rcases h with
    (((⟨name, hname, rfl⟩ | ⟨name, hname, rfl⟩) | ⟨name, hname, rfl⟩) | ⟨name, hname, rfl⟩) |
    ⟨name, hname, rfl⟩
  · exact ⟨userKeys user, by simp [userPrincipal], name, hname, rfl⟩
  · exact ⟨userCertificates user, by simp [userPrincipal], name, hname, rfl⟩
  · exact ⟨userInline user, by simp [userPrincipal], name, hname, rfl⟩
  · exact ⟨userAttached user, by simp [userPrincipal], name, hname, rfl⟩
  · exact ⟨userGroups user, by simp [userPrincipal], name, hname, rfl⟩

/-- When the policies are removed a policy is detached from a user that held it, unless the user
holds it afterwards. -/
theorem contains_survivors_or (failing : NameSet) (settings : ReclaimSettings) {user arn : String}
    {content : Iam.User} (huser : iam.users.get? user = some content)
    (hattached : content.attached.contains arn = true) :
    (userHolder.survivors failing (isCleared failing settings iam) user content).contains arn =
        true ∨
      .remove (.detachUserPolicy user arn) ∈ Deed.calls (policiesDeeds failing settings
        (keptNames failing settings iam) (afterRoles failing settings iam)) := by
  cases hcleared : isCleared failing settings iam arn with
  | false =>
    left
    rw [Holder.survivors, NameSet.contains_keep, hcleared, Bool.not_false, Bool.true_or,
      Bool.and_true]
    exact hattached
  | true =>
    right
    simp only [isCleared, isGone, Bool.and_eq_true, Bool.not_eq_true'] at hcleared
    obtain ⟨⟨hlisted, hpolicy⟩, hreached⟩ := hcleared
    obtain ⟨policy, hpolicy⟩ := Option.isSome_iff_exists.1 hpolicy
    have hmem : user ∈ ((afterRoles failing settings iam).entities arn).users :=
      (Holder.mem_names_iff userHolder).2 ⟨content, huser, hattached⟩
    obtain ⟨target, htarget, hremoval⟩ := exists_attachment ⟨policy.name, arn⟩
      ((afterRoles failing settings iam).entities arn) (.inl ⟨user, hmem, rfl⟩)
    rw [calls_policiesDeeds, listedOf, hlisted]
    refine List.mem_cons_of_mem _ (List.mem_flatMap.2
      ⟨(arn, policy), (Dict.mem_entries_iff _ _ _).2 hpolicy, ?_⟩)
    rw [calls_policyDeeds, if_pos hreached, ← hremoval]
    exact List.mem_cons_of_mem _ (List.mem_append_left _ (List.mem_map.2 ⟨target, htarget, rfl⟩))

/-- What depends on a user either was requested to be removed with the policies or is there when the
users are removed: only the attachments of the user are touched before. -/
theorem contains_column_or (failing : NameSet) (settings : ReclaimSettings) {user name : String}
    {content : Iam.User} (huser : iam.users.get? user = some content) {column : Column Iam.User}
    (hcolumn : column ∈ (userPrincipal user).columns)
    (hname : (column.names content).contains name = true) :
    (column.names (profileLeft failing user
        (userHolder.set (userHolder.survivors failing (isCleared failing settings iam) user content)
          content))).contains name = true ∨
      .remove (column.target name).removal ∈ Deed.calls (policiesDeeds failing settings
        (keptNames failing settings iam) (afterRoles failing settings iam)) := by
  simp only [userPrincipal, List.mem_cons, List.not_mem_nil, or_false] at hcolumn
  rcases hcolumn with rfl | rfl | rfl | rfl | rfl
  · exact .inl hname
  · exact .inl hname
  · exact .inl hname
  · exact contains_survivors_or failing settings huser hname
  · exact .inl hname

/-- What is requested for a user whenever it is deleted comes before its deletion. -/
theorem precedes_usersDeeds_of_mem (failing : NameSet) (users : Dict Iam.User) {user : String}
    {request : Iam.Request} (hrequest : request.isLandmark = false)
    (hdue : ∀ content, users.get? user = some content →
      .remove (.deleteUser user) ∈ Deed.calls (userDeeds failing user content) →
      request ∈ Deed.calls (userDeeds failing user content)) :
    Precedes (· = request) (· = .remove (.deleteUser user))
      (Deed.calls (usersDeeds failing users)) := by
  rw [calls_usersDeeds]
  exact precedes_phase .deleteUser (listedOf_sublist _ _ _)
    (fun e => concludes_userDeeds failing e.1 e.2)
    (fun _ => rfl) (fun _ _ => Removal.deleteUser.inj) hrequest hdue

/-- What is due for a user was requested with the policies, or comes before its deletion. -/
theorem precedes_usersDeeds (failing : NameSet) (settings : ReclaimSettings) {user : String}
    {request : Iam.Request} (h : request ∈ dues iam (.deleteUser user)) :
    request ∈ Deed.calls (policiesDeeds failing settings (keptNames failing settings iam)
        (afterRoles failing settings iam)) ∨
      Precedes (· = request) (· = .remove (.deleteUser user))
        (Deed.calls (usersDeeds failing (afterPolicies failing settings iam).users)) := by
  rcases exists_column_of_mem_dues_user h with
    rfl | ⟨content, huser, column, hcolumn, name, hname, rfl⟩
  · exact .inr (precedes_usersDeeds_of_mem failing _ rfl fun content _ _ => List.mem_cons_self)
  have hplain := isPlain_userPrincipal user
  have hleft := afterPolicies_users_get? failing settings iam user
  rw [huser, Option.map_some] at hleft
  refine (contains_column_or failing settings huser hcolumn hname).symm.imp_right fun hname =>
    precedes_usersDeeds_of_mem failing _ ((hplain column hcolumn).2 name)
      fun found hfound hdeleted => ?_
  obtain rfl := Option.some.inj (hleft.symm.trans hfound)
  rcases List.mem_cons.1 hdeleted with hdeleted | hdeleted
  · simp at hdeleted
  · exact List.mem_cons_of_mem _
      (Principal.mem_calls_deeds hplain (disjoint_userPrincipal user) rfl hdeleted hcolumn hname)

/-! ## The whole account -/

theorem ne_of_filter {calls marks : List Iam.Request}
    (h : (calls.filter Iam.Request.isLandmark).Sublist marks) {deletion : Removal}
    (hfinal : deletion.isFinal = true) (hnot : .remove deletion ∉ marks) :
    ∀ request ∈ calls, request ≠ .remove deletion := by
  rintro request hrequest rfl
  exact hnot (h.subset (List.mem_filter.2 ⟨hrequest, hfinal⟩))

/-- Whatever is due for a deletion comes before it, in its own phase or in an earlier one. -/
theorem precedes_dues (failing : NameSet) (settings : ReclaimSettings) {deletion : Removal}
    {request : Iam.Request} (h : request ∈ dues iam deletion) :
    Precedes (· = request) (· = .remove deletion)
      (Deed.calls (clearDeeds failing settings iam)) := by
  let kept := keptNames failing settings iam
  have hroles := filter_rolesDeeds failing settings iam.roles
  have hpolicies := filter_policiesDeeds failing settings kept (afterRoles failing settings iam)
  have husers := filter_usersDeeds failing (afterPolicies failing settings iam).users
  rw [clearDeeds, Deed.calls_append, Deed.calls_append]
  cases deletion with
  | deleteRole role =>
    have hphase := precedes_rolesDeeds failing settings h
    exact (hphase.append (.of_forall_not (ne_of_filter hpolicies rfl (by simp)))).append
      (.of_forall_not (ne_of_filter husers rfl (by simp)))
  | deletePolicy arn =>
    have hbefore : ∀ a ∈ Deed.calls (rolesDeeds failing settings iam.roles),
        a ≠ .remove (.deletePolicy arn) :=
      ne_of_filter hroles rfl (by simp)
    refine Precedes.append ?_ (.of_forall_not (ne_of_filter husers rfl (by simp)))
    rcases precedes_policiesDeeds failing settings h with hmem | hphase
    · exact .append_of_mem hbefore hmem rfl
    · exact .append (.of_forall_not hbefore) hphase
  | deleteUser user =>
    have hbefore : ∀ a ∈ Deed.calls (rolesDeeds failing settings iam.roles),
        a ≠ .remove (.deleteUser user) :=
      ne_of_filter hroles rfl (by simp)
    have hbetween :
        ∀ a ∈ Deed.calls (policiesDeeds failing settings kept (afterRoles failing settings iam)),
        a ≠ .remove (.deleteUser user) :=
      ne_of_filter hpolicies rfl (by simp)
    rw [List.append_assoc]
    refine Precedes.append (.of_forall_not hbefore) ?_
    rcases precedes_usersDeeds failing settings h with hmem | hphase
    · exact .append_of_mem hbetween hmem rfl
    · exact .append (.of_forall_not hbetween) hphase
  | _ => exact absurd h List.not_mem_nil

theorem count_clearDeeds_le_one (failing : NameSet) (settings : ReclaimSettings) (iam : Iam)
    {request : Iam.Request} (hlandmark : request.isLandmark = true) :
    (Deed.calls (clearDeeds failing settings iam)).count request ≤ 1 := by
  rw [← List.count_filter hlandmark]
  exact Nat.le_trans ((filter_clearDeeds failing settings iam).count_le request)
    (List.nodup_iff_count_le_one.1 (nodup_landmarks iam) request)

/-- All policies and all users are listed, whatever became of the roles. -/
theorem mem_calls_clearDeeds (failing : NameSet) (settings : ReclaimSettings) (iam : Iam) :
    .query .localPolicies ∈ Deed.calls (clearDeeds failing settings iam) ∧
      .query .users ∈ Deed.calls (clearDeeds failing settings iam) := by
  rw [clearDeeds, Deed.calls_append, Deed.calls_append, calls_policiesDeeds, calls_usersDeeds]
  exact ⟨List.mem_append_left _ (List.mem_append_right _ List.mem_cons_self),
    List.mem_append_right _ List.mem_cons_self⟩

theorem count_clearDeeds_of_mem {request : Iam.Request} (hlandmark : request.isLandmark = true)
    (h : request ∈ Deed.calls (clearDeeds failing settings iam)) :
    (Deed.calls (clearDeeds failing settings iam)).count request = 1 :=
  Nat.le_antisymm (count_clearDeeds_le_one failing settings iam hlandmark)
    (List.one_le_count_iff.2 h)

/-- Among the deletions of one kind no listing is followed by anything. -/
theorem pairwise_deletions (names : List String) (deletion : String → Removal) (all : Query)
    (second : Iam.Request) : (names.map fun name => Iam.Request.remove (deletion name)).Pairwise
      fun earlier later => earlier = .query all → later ≠ second :=
  List.pairwise_map.2 (List.pairwise_of_forall fun _ _ hearlier => Iam.Request.noConfusion hearlier)

theorem landmarks_roles_first (iam : Iam) (role : String) :
    (landmarks iam).Pairwise fun earlier later =>
    earlier = .query .localPolicies → later ≠ .remove (.deleteRole role) := by
  simp only [landmarks, List.pairwise_append, List.pairwise_cons, pairwise_deletions]
  simp

theorem landmarks_policies_first (iam : Iam) (arn : String) :
    (landmarks iam).Pairwise fun earlier later =>
    earlier = .query .users → later ≠ .remove (.deletePolicy arn) := by
  simp only [landmarks, List.pairwise_append, List.pairwise_cons, pairwise_deletions]
  simp

/-- The order of two landmarks is that of the phases. -/
theorem pairwise_clearDeeds (failing : NameSet) (settings : ReclaimSettings)
    {first second : Iam.Request} (hfirst : first.isLandmark = true)
    (hsecond : second.isLandmark = true)
    (h : (landmarks iam).Pairwise fun earlier later => earlier = first → later ≠ second) :
    (Deed.calls (clearDeeds failing settings iam)).Pairwise fun earlier later =>
      earlier = first → later ≠ second := by
  have hfilter := List.pairwise_filter.1 (h.sublist (filter_clearDeeds failing settings iam))
  refine hfilter.imp fun {earlier later} hordered hearlier hlater => ?_
  exact hordered (hearlier ▸ hfirst) (hlater ▸ hsecond) hearlier hlater

/-! ## The calls of a run -/

/-- How often a request was made to the IAM of a session. -/
def timesAsked (session : Session) (request : Iam.Request)
    (history : List (Exchange Call.Reply)) : Nat :=
  (history.map (·.op)).count (.cloud (.iam (some session) request))

/-- The order in which an account is cleared, told by what it had in the beginning and by the calls
with their replies. -/
structure DependentsFirst (session : Session) (start : Iam) (history : List (Exchange Call.Reply)) :
    Prop where
  /-- No role, policy or user is deleted twice. -/
  once : ∀ deletion : Removal,
    deletion.isFinal = true → timesAsked session (.remove deletion) history ≤ 1
  /-- Before a deletion, each listing of what depends on it was answered. -/
  listed : ∀ deletion : Removal, ∀ query ∈ deletion.listings,
    Precedes (IsListed session query) (IsAsked session (.remove deletion)) history
  /-- Before a deletion, the removal of whatever depended on it in the beginning was tried. -/
  tried : ∀ deletion : Removal, ∀ request ∈ dues start deletion,
    Precedes (IsAsked session request) (IsAsked session (.remove deletion)) history
  /-- The policies and the users are listed once. -/
  policies_once : timesAsked session (.query .localPolicies) history = 1
  users_once : timesAsked session (.query .users) history = 1
  /-- Once the policies are listed, no role is deleted any more. -/
  roles_first : ∀ role, history.Pairwise fun earlier later =>
    IsAsked session (.query .localPolicies) earlier →
    ¬ IsAsked session (.remove (.deleteRole role)) later
  /-- Once the users are listed, no policy is deleted any more. -/
  policies_first : ∀ arn, history.Pairwise fun earlier later =>
    IsAsked session (.query .users) earlier → ¬ IsAsked session (.remove (.deletePolicy arn)) later

section

variable {session : Session} {history : List (Exchange Call.Reply)} {request other : Iam.Request}

/-- The requests of a history to the IAM of an account. -/
def requestsOf (history : List (Exchange Call.Reply)) : List Iam.Request :=
  history.filterMap fun exchange => iamRequest? exchange.op

theorem iamRequest?_of_isAsked {exchange : Exchange Call.Reply}
    (h : IsAsked session request exchange) : iamRequest? exchange.op = some request := by
  rw [h]
  rfl

theorem isAsked_iff {exchange : Exchange Call.Reply} (hown : IsOwnCall session exchange.op) :
    IsAsked session request exchange ↔ iamRequest? exchange.op = some request := by
  refine ⟨iamRequest?_of_isAsked, fun h => ?_⟩
  unfold IsAsked
  match exchange.op, hown, h with
  | .cloud (.iam (some _) _), rfl, h => rw [Option.some.inj h]
  | .host (.log _), _, h => cases h

theorem timesAsked_eq (hown : ∀ exchange ∈ history, IsOwnCall session exchange.op) :
    timesAsked session request history = (requestsOf history).count request := by
  rw [timesAsked, requestsOf, List.count, List.count, List.countP_map, List.countP_filterMap]
  refine List.countP_congr fun exchange hexchange => ?_
  have hiff : exchange.op = .cloud (.iam (some session) request) ↔
      iamRequest? exchange.op = some request :=
    isAsked_iff (hown exchange hexchange)
  simp only [Function.comp_apply, beq_iff_eq, hiff]
  cases iamRequest? exchange.op <;> simp

theorem precedes_of_requestsOf (hown : ∀ exchange ∈ history, IsOwnCall session exchange.op)
    (h : Precedes (· = request) (· = other) (requestsOf history)) :
    Precedes (IsAsked session request) (IsAsked session other) history := by
  rintro before asked after rfl hasked
  have hsplit :
      requestsOf (before ++ asked :: after) = requestsOf before ++ other :: requestsOf after := by
    rw [requestsOf, List.filterMap_append]
    exact congrArg (_ ++ ·) (List.filterMap_cons_some (iamRequest?_of_isAsked hasked))
  obtain ⟨_, hmem, rfl⟩ := h _ _ _ hsplit rfl
  obtain ⟨exchange, hexchange, hrequest⟩ := List.mem_filterMap.1 hmem
  exact ⟨exchange, hexchange,
    (isAsked_iff (hown exchange (List.mem_append_left _ hexchange))).2 hrequest⟩

theorem pairwise_of_requestsOf
    (h : (requestsOf history).Pairwise fun earlier later => earlier = request → later ≠ other) :
    history.Pairwise fun earlier later => IsAsked session request earlier →
    ¬ IsAsked session other later := by
  refine (List.pairwise_filterMap.1 h).imp fun hordered hearlier hlater => ?_
  exact hordered _ (iamRequest?_of_isAsked hearlier) _ (iamRequest?_of_isAsked hlater) rfl rfl

end

end Lending

open Lending

/-- Whatever an account has and whatever is registered to fail, a clearing deletes each role, policy
and user at most once, only after all listings of what depends on it were answered, and only after
the removal of everything that depended on it in the beginning was tried.  The roles are dealt with
before the policies, and the policies before the users. -/
theorem World.clear_dependents_first (world : World) (site : Site) (settings : ReclaimSettings) :
    DependentsFirst site.session (world.cloud.iamOf site.session.accessKey).state
      ((clear site settings).exchanges World.serve world) := by
  let service := world.cloud.iamOf site.session.accessKey
  have hown : ∀ exchange ∈ (clear site settings).exchanges World.serve world,
      IsOwnCall site.session exchange.op :=
    fun _ hexchange => (uses_clear site settings).mem_exchanges hexchange
  have hrequests : requestsOf ((clear site settings).exchanges World.serve world) =
      Deed.calls (clearDeeds service.failing settings service.state) := by
    rw [← requests_trace_clear, ← Program.map_op_exchanges, List.filterMap_map]
    rfl
  obtain ⟨hpolicies, husers⟩ := mem_calls_clearDeeds service.failing settings service.state
  exact {
    once := fun deletion hfinal => by
      rw [timesAsked_eq hown, hrequests]
      exact count_clearDeeds_le_one service.failing settings service.state hfinal
    listed :=
      fun deletion query hquery => foresees_clear site settings hquery World World.serve world
    tried := fun deletion request hrequest => by
      apply precedes_of_requestsOf hown
      rw [hrequests]
      exact precedes_dues service.failing settings hrequest
    policies_once := by
      rw [timesAsked_eq hown, hrequests]
      exact count_clearDeeds_of_mem rfl hpolicies
    users_once := by
      rw [timesAsked_eq hown, hrequests]
      exact count_clearDeeds_of_mem rfl husers
    roles_first := fun role => by
      apply pairwise_of_requestsOf
      rw [hrequests]
      exact pairwise_clearDeeds service.failing settings rfl rfl
        (landmarks_roles_first service.state role)
    policies_first := fun arn => by
      apply pairwise_of_requestsOf
      rw [hrequests]
      exact pairwise_clearDeeds service.failing settings rfl rfl
        (landmarks_policies_first service.state arn) }

end AccountLending
