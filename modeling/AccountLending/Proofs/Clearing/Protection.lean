import AccountLending.Proofs.Clearing.Whole

/-!
# What becomes of protected roles

A protected role is never deleted, and none of the policies written into it is.  A managed policy of
the account is detached from it in one case only: the roles could not be listed, so that a role
which is protected by its path alone is not known to be protected when the policies are removed.

* `IsOverlooked` — that case;
* `World.clear_protected_role` — what a clearing asks for and what it leaves, of a protected role.
-/

namespace AccountLending

/-- The role that a removal is about. -/
def Iam.Removal.role? : Removal → Option String
  | .detachRolePolicy role _ | .deleteRoleInline role _ | .deleteRole role => some role
  | _ => none

namespace Lending

open Iam (Query Removal PolicySummary PolicyEntities)

variable {failing : NameSet} {iam : Iam} {settings : ReclaimSettings}

/-- The protection of the roles that a policy is attached to is overlooked: the roles cannot be
listed, the policy and its attachments can be, and none of the roles is protected by its name. -/
structure IsOverlooked (failing : NameSet) (settings : ReclaimSettings) (iam : Iam) (arn : String) :
    Prop where
  unlisted : refused failing (.query .roles) = true
  listed : refused failing (.query .localPolicies) = false
  policy : iam.policies.contains arn = true
  entities : refused failing (.query (.policyEntities arn)) = false
  unnamed : ∀ role content, iam.roles.get? role = some content →
    content.attached.contains arn = true → isProtectedName settings role = false

/-! ## Which removals are tried -/

theorem remove_mem_calls_iff {removal : Removal} {deeds : List Deed} :
    Iam.Request.remove removal ∈ Deed.calls deeds ↔
      ∃ target reply, .tried target reply ∈ deeds ∧ target.removal = removal := by
  rw [Deed.calls, List.mem_filterMap]
  constructor
  · rintro ⟨deed, hdeed, hcall⟩
    cases deed with
    | tried target reply => exact ⟨target, reply, hdeed, by simpa [Deed.call?] using hcall⟩
    | _ => simp [Deed.call?] at hcall
  · rintro ⟨target, reply, hdeed, rfl⟩
    exact ⟨_, hdeed, rfl⟩

/-- What is removed with a role is its own. -/
theorem role_of_tried_role {role : String} {content : Iam.Role} {target : Target}
    {reply : Except ServiceError Unit}
    (h : .tried target reply ∈ (rolePrincipal role).deeds failing content) :
    target.removal.role? = some role := by
  refine Principal.forall_deeds (P := fun deed => ∀ target reply, deed = .tried target reply →
    target.removal.role? = some role) (by simp) (by simp) ?_ (by simp) ?_ content _ h _ _ rfl
  · intro column hcolumn name reply target reply' heq
    obtain ⟨rfl, -⟩ := Deed.tried.inj heq
    simp only [rolePrincipal, List.mem_cons, List.not_mem_nil, or_false] at hcolumn
    rcases hcolumn with rfl | rfl <;> rfl
  · intro reply target reply' heq
    obtain ⟨rfl, -⟩ := Deed.tried.inj heq
    rfl

/-- Nothing that is removed with a user is about a role. -/
theorem role_of_tried_user {user : String} {content : Iam.User} {target : Target}
    {reply : Except ServiceError Unit} (h : .tried target reply ∈ userDeeds failing user content) :
    target.removal.role? = none := by
  rcases List.mem_cons.1 h with h | h
  · simp at h
  refine Principal.forall_deeds (P := fun deed => ∀ target reply, deed = .tried target reply →
    target.removal.role? = none) (by simp) (by simp) ?_ (by simp) ?_ _ _ h _ _ rfl
  · intro column hcolumn name reply target reply' heq
    obtain ⟨rfl, -⟩ := Deed.tried.inj heq
    simp only [userPrincipal, List.mem_cons, List.not_mem_nil, or_false] at hcolumn
    rcases hcolumn with rfl | rfl | rfl | rfl | rfl <;> rfl
  · intro reply target reply' heq
    obtain ⟨rfl, -⟩ := Deed.tried.inj heq
    rfl

theorem role_of_tried_deletion {policy : PolicySummary} {isReleased : Bool} {content : Iam.Policy}
    {target : Target} {reply : Except ServiceError Unit}
    (h : .tried target reply ∈ deletionDeeds failing policy isReleased content) :
    target.removal.role? = none := by
  have hversions :
      ∀ versions content, .tried target reply ∈ versionDeeds failing policy versions content →
      target.removal.role? = none := by
    intro versions
    induction versions with
    | nil => simp [versionDeeds]
    | cons version rest ih =>
      intro content h
      rcases List.mem_cons.1 h with h | h
      · obtain ⟨rfl, -⟩ := Deed.tried.inj h
        rfl
      · exact ih _ h
  unfold deletionDeeds at h
  split at h
  · simp at h
  · simp only [List.mem_cons, List.mem_append, List.not_mem_nil, or_false, reduceCtorEq,
      false_or] at h
    rcases h with h | h
    · exact hversions _ _ h
    · obtain ⟨rfl, -⟩ := Deed.tried.inj h
      rfl

/-- A removal about a role that is tried for a policy detaches the policy from it. -/
theorem tried_policy_iff (failing : NameSet) {kept : List String} (policy : PolicySummary)
    (content : Iam.Policy) {removal : Removal} {role : String} (hrole : removal.role? = some role) :
    (∃ target reply, .tried target reply ∈ policyDeeds failing settings kept iam policy content ∧
        target.removal = removal) ↔
      isReached failing settings kept iam policy.arn = true ∧
      role ∈ (iam.entities policy.arn).roles ∧ removal = .detachRolePolicy role policy.arn := by
  unfold policyDeeds isReached
  cases hrefused : refused failing (.query (.policyEntities policy.arn)) with
  | true => simp
  | false =>
    cases hprotector : protector? settings kept (iam.entities policy.arn) with
    | some protector => simp
    | none =>
      -- of the removals for a policy, only its detachments from roles are about a role
      simp only [Bool.false_eq_true, if_false, Bool.not_false, Option.isNone_none,
        Bool.and_true, true_and]
      constructor
      · rintro ⟨target, reply, htried, rfl⟩
        rcases List.mem_cons.1 htried with htried | htried
        · simp at htried
        rcases List.mem_append.1 htried with htried | htried
        · obtain ⟨target, htarget, heq⟩ := List.mem_map.1 htried
          obtain ⟨rfl, -⟩ := Deed.tried.inj heq
          simp only [attachments, List.mem_append, List.mem_map] at htarget
          rcases htarget with (⟨user, -, rfl⟩ | ⟨group, -, rfl⟩) | ⟨other, hother, rfl⟩
          · simp [Removal.role?] at hrole
          · simp [Removal.role?] at hrole
          · obtain rfl : other = role := by simpa [Removal.role?] using hrole
            exact ⟨hother, rfl⟩
        · rw [role_of_tried_deletion htried] at hrole
          simp at hrole
      · rintro ⟨hmem, rfl⟩
        refine ⟨roleHolder.target policy role,
          granted failing (.detachRolePolicy role policy.arn), ?_, rfl⟩
        refine List.mem_cons_of_mem _ (List.mem_append_left _ (List.mem_map.2 ⟨_, ?_, rfl⟩))
        exact List.mem_append_right _ (List.mem_map.2 ⟨role, hmem, rfl⟩)

/-! ## One protected role -/

variable {role : String} {content : Iam.Role}

theorem rolesLeft_get? (failing : NameSet) (hrole : iam.roles.get? role = some content)
    (hkept : isKept settings role content = true) :
    (rolesLeft failing settings iam.roles).get? role = some content := by
  unfold rolesLeft
  split
  · exact hrole
  · rw [Dict.get?_filterMap, hrole, Option.bind_some, roleLeft, if_pos hkept]

theorem mem_entities_roles_iff {iam : Iam} {arn role : String} :
    role ∈ (iam.entities arn).roles ↔
      ∃ content, iam.roles.get? role = some content ∧ content.attached.contains arn = true :=
  Holder.mem_names_iff roleHolder

/-- A policy that is attached to a protected role is cleared exactly when the protection is
overlooked. -/
theorem isCleared_iff_isOverlooked (hrole : iam.roles.get? role = some content)
    (hkept : isKept settings role content = true) {arn : String}
    (hattached : content.attached.contains arn = true) :
    isCleared failing settings iam arn = true ↔ IsOverlooked failing settings iam arn := by
  have hcleared : isCleared failing settings iam arn = true ↔
      refused failing (.query .localPolicies) = false ∧ iam.policies.contains arn = true ∧
        isReached failing settings (keptNames failing settings iam)
          (afterRoles failing settings iam) arn = true := by
    simp only [isCleared, isGone, Bool.and_eq_true, Bool.not_eq_true', and_assoc]
    rfl
  rw [hcleared]
  cases hunlisted : refused failing (.query .roles) with
  | false =>
    -- the role is known to be protected, since it was listed
    have hkeeps : (keptNames failing settings iam).contains role = true := by
      rw [keptNames, if_neg (by rw [hunlisted]; exact Bool.false_ne_true), List.contains_iff_mem,
        Dict.mem_map_fst_filter hrole]
      exact hkept
    have hmem : role ∈ ((afterRoles failing settings iam).entities arn).roles :=
      mem_entities_roles_iff.2 ⟨content, rolesLeft_get? failing hrole hkept, hattached⟩
    constructor
    · rintro ⟨-, -, hreached⟩
      simp only [isReached, Bool.and_eq_true, Option.isNone_iff_eq_none, protector?,
        List.find?_eq_none] at hreached
      have hnot := hreached.2 role hmem
      rw [hkeeps, Bool.true_or] at hnot
      exact absurd rfl hnot
    · intro hoverlooked
      exact absurd hoverlooked.unlisted (by rw [hunlisted]; exact Bool.false_ne_true)
  | true =>
    -- no role is known by its path, and none was removed either
    have hnames : keptNames failing settings iam = [] := if_pos hunlisted
    have hafter : afterRoles failing settings iam = iam := by
      rw [afterRoles, rolesLeft, if_pos hunlisted]
    rw [hnames, hafter]
    have hreached : isReached failing settings [] iam arn = true ↔
        refused failing (.query (.policyEntities arn)) = false ∧
          ∀ role content, iam.roles.get? role = some content →
            content.attached.contains arn = true → isProtectedName settings role = false := by
      simp only [isReached, Bool.and_eq_true, Option.isNone_iff_eq_none, protector?,
        List.find?_eq_none, mem_entities_roles_iff]
      simp
    rw [hreached]
    constructor
    · rintro ⟨hlisted, hpolicy, hentities, hunnamed⟩
      exact ⟨hunlisted, hlisted, hpolicy, hentities, hunnamed⟩
    · rintro ⟨-, hlisted, hpolicy, hentities, hunnamed⟩
      exact ⟨hlisted, hpolicy, hentities, hunnamed⟩

/-- Removing the roles removes nothing of a protected one. -/
theorem remove_not_mem_rolesDeeds (hrole : iam.roles.get? role = some content)
    (hkept : isKept settings role content = true) {removal : Removal}
    (habout : removal.role? = some role) :
    ¬ Iam.Request.remove removal ∈ Deed.calls (rolesDeeds failing settings iam.roles) := by
  rw [remove_mem_calls_iff]
  rintro ⟨target, reply, htried, rfl⟩
  unfold rolesDeeds at htried
  split at htried
  · simp at htried
  rcases List.mem_cons.1 htried with htried | htried
  · simp at htried
  obtain ⟨⟨other, found⟩, hentry, htried⟩ := List.mem_flatMap.1 htried
  unfold roleDeeds at htried
  split at htried
  · simp at htried
  · rename_i hnot
    obtain rfl : other = role := Option.some.inj ((role_of_tried_role htried).symm.trans habout)
    have hfound := (Dict.mem_entries_iff iam.roles other found).1 hentry
    obtain rfl : content = found := Option.some.inj (hrole.symm.trans hfound)
    exact hnot hkept

theorem remove_not_mem_usersDeeds {removal : Removal} (habout : removal.role? = some role)
    (users : Dict Iam.User) :
    ¬ Iam.Request.remove removal ∈ Deed.calls (usersDeeds failing users) := by
  rw [remove_mem_calls_iff]
  rintro ⟨target, reply, htried, rfl⟩
  unfold usersDeeds at htried
  split at htried
  · simp at htried
  rcases List.mem_cons.1 htried with htried | htried
  · simp at htried
  obtain ⟨e, -, htried⟩ := List.mem_flatMap.1 htried
  rw [role_of_tried_user htried] at habout
  simp at habout

/-- A removal about a protected role is tried exactly when it detaches a policy whose protection is
overlooked. -/
theorem tried_iff_isOverlooked (hrole : iam.roles.get? role = some content)
    (hkept : isKept settings role content = true) {removal : Removal}
    (habout : removal.role? = some role) :
    Iam.Request.remove removal ∈ Deed.calls (clearDeeds failing settings iam) ↔
      ∃ arn, removal = .detachRolePolicy role arn ∧ content.attached.contains arn = true ∧
        IsOverlooked failing settings iam arn := by
  -- only the removal of the policies reaches a protected role
  rw [clearDeeds, Deed.calls_append, Deed.calls_append, List.mem_append, List.mem_append,
    or_iff_left (remove_not_mem_usersDeeds habout _),
    or_iff_right (remove_not_mem_rolesDeeds hrole hkept habout), remove_mem_calls_iff]
  constructor
  · rintro ⟨target, reply, htried, rfl⟩
    unfold policiesDeeds at htried
    split at htried
    · simp at htried
    rename_i hlisted
    rcases List.mem_cons.1 htried with htried | htried
    · simp at htried
    obtain ⟨⟨arn, policy⟩, hentry, htried⟩ := List.mem_flatMap.1 htried
    obtain ⟨hreached, hmem, hremoval⟩ := (tried_policy_iff failing _ _ habout).1
      ⟨target, reply, htried, rfl⟩
    obtain ⟨found, hfound, hattached⟩ := mem_entities_roles_iff.1 hmem
    obtain rfl : content = found :=
      Option.some.inj ((rolesLeft_get? failing hrole hkept).symm.trans hfound)
    refine ⟨arn, hremoval, hattached, (isCleared_iff_isOverlooked hrole hkept hattached).1 ?_⟩
    have hpolicy : iam.policies.contains arn = true := by
      rw [Dict.contains, (Dict.mem_entries_iff iam.policies arn policy).1 hentry]
      rfl
    rw [isCleared, isGone, hreached, Bool.not_eq_true _ |>.mp hlisted]
    simpa [afterRoles] using hpolicy
  · rintro ⟨arn, rfl, hattached, hoverlooked⟩
    have hcleared := (isCleared_iff_isOverlooked hrole hkept hattached).2 hoverlooked
    simp only [isCleared, isGone, Bool.and_eq_true] at hcleared
    obtain ⟨policy, hpolicy⟩ := Option.isSome_iff_exists.1 hoverlooked.policy
    have hmem : role ∈ ((afterRoles failing settings iam).entities arn).roles :=
      mem_entities_roles_iff.2 ⟨content, rolesLeft_get? failing hrole hkept, hattached⟩
    obtain ⟨target, reply, htried, hremoval⟩ :=
      (tried_policy_iff failing ⟨policy.name, arn⟩ policy habout).2 ⟨hcleared.2, hmem, rfl⟩
    refine ⟨target, reply, ?_, hremoval⟩
    rw [policiesDeeds, if_neg (by rw [hoverlooked.listed]; exact Bool.false_ne_true)]
    refine List.mem_cons_of_mem _ (List.mem_flatMap.2 ⟨(arn, policy), ?_, htried⟩)
    exact (Dict.mem_entries_iff iam.policies arn policy).2 hpolicy

/-- What is left of a protected role. -/
theorem cleared_protected (failing : NameSet) (settings : ReclaimSettings)
    (hrole : iam.roles.get? role = some content) (hkept : isKept settings role content = true) :
    ∃ attached, (cleared failing settings iam).roles.get? role = some { content with attached } ∧
      ∀ arn, attached.contains arn = true ↔ content.attached.contains arn = true ∧
        (IsOverlooked failing settings iam arn →
          refused failing (.remove (.detachRolePolicy role arn)) = true) := by
  refine ⟨roleHolder.survivors failing (isCleared failing settings iam) role content, ?_,
    fun arn => ?_⟩
  · rw [cleared_roles_get?, rolesLeft_get? failing hrole hkept, Option.map_some]
  · rw [Holder.survivors, NameSet.contains_keep, Bool.and_eq_true]
    apply and_congr_right
    intro hattached
    rw [← isCleared_iff_isOverlooked hrole hkept hattached]
    cases isCleared failing settings iam arn <;> simp [roleHolder]

end Lending

open Lending

/-- Of a protected role, a clearing never deletes anything but attachments of managed policies, and
it detaches exactly those policies whose protection is overlooked.  What is left is the role with
its path and its written policies, and with all attachments but those that were detached. -/
theorem World.clear_protected_role (world : World) (site : Site) (settings : ReclaimSettings)
    {role : String} {content : Iam.Role}
    (hrole : (world.cloud.iamOf site.session.accessKey).state.roles.get? role = some content)
    (hprotected : isProtectedRole settings ⟨role, content.path⟩ = true) :
    let before := world.cloud.iamOf site.session.accessKey
    let after := (world.run (clear site settings)).2.cloud.iamOf site.session.accessKey
    ∃ calls attached, after.calls = before.calls ++ calls ∧
      after.state.roles.get? role = some { content with attached } ∧
      (∀ removal : Iam.Removal, removal.role? = some role → (.remove removal ∈ calls ↔
        ∃ arn, removal = .detachRolePolicy role arn ∧ content.attached.contains arn = true ∧
          IsOverlooked before.failing settings before.state arn)) ∧
      ∀ arn, attached.contains arn = true ↔ content.attached.contains arn = true ∧
        (IsOverlooked before.failing settings before.state arn →
          refused before.failing (.remove (.detachRolePolicy role arn)) = true) := by
  intro before after
  obtain ⟨-, hafter, -⟩ := world.run_clear site settings
  obtain ⟨attached, hleft, hattached⟩ :=
    cleared_protected before.failing settings hrole hprotected
  refine ⟨Deed.calls (clearDeeds before.failing settings before.state), attached, ?_, ?_,
    ?_, hattached⟩
  · exact congrArg Journaled.calls hafter
  · rw [← hleft]
    exact congrArg (fun service => service.state.roles.get? role) hafter
  · exact fun removal => tried_iff_isOverlooked hrole hprotected

/-! ## A role that is overlooked -/

/-- An account with a service's role, to which a policy of the account is attached. -/
def serviceRoleIam : Iam :=
  ((({} : Iam).addRole "svc" "/aws-service-role/x.amazonaws.com/").addPolicy
    "111122223333" "kept" 0)
    |>.attachRolePolicy "svc" (Iam.policyArn "111122223333" "kept")

/-- A world with that account, in which roles cannot be listed. -/
def serviceRoleWorld : World where
  cloud := (Cloud.ofCaller (.ok "999999999999")).changeIam "111122223333" fun _ =>
    ⟨serviceRoleIam, [], NameSet.ofNames ["ListRoles:"]⟩

/-- The account of the service's role. -/
def serviceRoleSite : Site := ⟨"111122223333", Cloud.sessionOf "111122223333"⟩

theorem serviceRole_get? :
    (serviceRoleWorld.cloud.iamOf serviceRoleSite.session.accessKey).state.roles.get? "svc" =
      some ⟨"/aws-service-role/x.amazonaws.com/",
        NameSet.ofNames [Iam.policyArn "111122223333" "kept"], Dict.empty⟩ := by
  decide +kernel

theorem clear_detaches_serviceRole :
    let after := (serviceRoleWorld.run (clear serviceRoleSite {})).2.cloud.iamOf "111122223333"
    isProtectedRole {} ⟨"svc", "/aws-service-role/x.amazonaws.com/"⟩ = true ∧
      .remove (.detachRolePolicy "svc" (Iam.policyArn "111122223333" "kept")) ∈ after.calls ∧
      after.state.roles.get? "svc" =
        some ⟨"/aws-service-role/x.amazonaws.com/", Dict.empty, Dict.empty⟩ := by
  decide +kernel

theorem clear_protected_serviceRole :
    let after := (serviceRoleWorld.run (clear serviceRoleSite {})).2.cloud.iamOf "111122223333"
    ∃ calls attached, after.calls = calls ∧
      after.state.roles.get? "svc" =
        some ⟨"/aws-service-role/x.amazonaws.com/", attached, Dict.empty⟩ ∧
      .remove (.deleteRole "svc") ∉ calls := by
  obtain ⟨calls, attached, hcalls, hrole, hremovals, -⟩ :=
    serviceRoleWorld.clear_protected_role serviceRoleSite {} serviceRole_get? (by decide)
  refine ⟨calls, attached, ?_, hrole, fun hmem => ?_⟩
  · exact hcalls.trans (List.nil_append calls)
  · obtain ⟨arn, hremoval, -⟩ := (hremovals (.deleteRole "svc") rfl).1 hmem
    simp at hremoval

end AccountLending
