import AccountLending.Proofs.Clearing.Emptied

/-!
# What survives a clearing

Whatever is registered to fail, it can be told from the account beforehand what a clearing leaves of
it.  A user, a role or a policy survives exactly when the listing of its kind is refused, or one of
the requests for its own removal is, or it is protected.  So the failure of a request for one of
them never keeps another.

* `userRequests`, `roleRequests`, `policyRequests` — the requests for the removal of one artifact;
* `Principal.isSome_left` — a principal is left exactly when one of its requests is refused;
* `World.clear_survivors` — who is left after a clearing.
-/

namespace AccountLending

namespace Lending

open Iam (Query Removal PolicySummary PolicyEntities VersionSummary)

variable {ρ : Type} {failing : NameSet} {iam : Iam} {settings : ReclaimSettings}

/-! ## Principals -/

/-- Of each column its own survivors are left, since no other column touches it. -/
theorem names_stripLeft {columns : List (Column ρ)} {place : ρ → Iam}
    (hdisjoint : AreDisjoint columns) (hholds : ∀ column ∈ columns, column.Holds place)
    {column : Column ρ} (hcolumn : column ∈ columns)
    (x : ρ) : column.names (stripLeft failing columns x) = column.survivors failing x := by
  induction columns generalizing x with
  | nil => simp at hcolumn
  | cons first rest ih =>
    obtain ⟨hfirst, hdisjoint⟩ := List.pairwise_cons.1 hdisjoint
    have hset := (hholds first List.mem_cons_self).names_set
    have hcons :
        stripLeft failing (first :: rest) x = stripLeft failing rest (first.left failing x) := rfl
    rw [hcons]
    rcases List.mem_cons.1 hcolumn with rfl | hcolumn
    · refine stripLeft_keeps (P := fun y => column.names y = column.survivors failing x)
        ?_ (hset _ x)
      exact fun later hlater names y hy => (hfirst later hlater names y).1.trans hy
    · have hrest :=
        ih hdisjoint (fun other hother => hholds other (List.mem_cons_of_mem _ hother)) hcolumn
      have hsame := (hfirst column hcolumn (first.survivors failing x) x).2
      apply (hrest (first.left failing x)).trans
      rw [Column.survivors, Column.left, hsame, Column.survivors]

/-- A column that can be listed is empty afterwards unless the removal of one of its names is
refused. -/
theorem Column.isEmpty_survivors {column : Column ρ}
    (hlisted : column.isUnlisted failing = false) (x : ρ) :
    (column.survivors failing x).isEmpty =
      !(column.names x).keys.any fun name =>
        refused failing (.remove (column.target name).removal) := by
  simp only [survivors, hlisted, Bool.false_or]
  exact NameSet.isEmpty_keep _ _

/-- The requests for the removal of a principal of a content. -/
def Principal.requests (principal : Principal ρ) (x : ρ) : List Iam.Request :=
  principal.columns.map (fun column => .query column.dependents.query)
    ++ principal.columns.flatMap (fun column =>
      (column.names x).keys.map fun name => .remove (column.target name).removal)
    ++ [.remove principal.target.removal]

/-- A principal that needs its columns to be empty is left exactly when one of the requests for its
removal is refused, or something else stands against its deletion. -/
theorem Principal.isSome_left (failing : NameSet) {principal : Principal ρ}
    {place : Option ρ → Iam} {x : ρ} (isFree : Bool) (hholds : principal.Holds place)
    (hdisjoint : AreDisjoint principal.columns)
    (hbare : principal.isBare (stripLeft failing principal.columns x) = (isFree &&
      principal.columns.all fun column =>
        (column.names (stripLeft failing principal.columns x)).isEmpty)) :
    (principal.left failing x).isSome =
      (!isFree || (principal.requests x).any (refused failing)) := by
  have hleft : (principal.left failing x).isSome = (principal.isBlocked failing ||
      refused failing (.remove principal.target.removal) ||
        !principal.isBare (stripLeft failing principal.columns x)) := by
    rw [left]
    split <;> simp_all
  have hrequests : (principal.requests x).any (refused failing) = (principal.isBlocked failing ||
      principal.columns.any (fun column => (column.names x).keys.any fun name =>
        refused failing (.remove (column.target name).removal)) ||
      refused failing (.remove principal.target.removal)) := by
    simp only [requests, List.any_append, List.any_map, List.any_flatMap, List.any_cons,
      List.any_nil, Bool.or_false, isBlocked]
    rfl
  rw [hleft, hrequests, hbare]
  cases hblocked : principal.isBlocked failing with
  | true => simp
  | false =>
    -- all columns were listed, so what is left of them is what was refused
    have hlisted : ∀ column ∈ principal.columns, column.isUnlisted failing = false := by
      simpa [isBlocked] using hblocked
    have hempty : (principal.columns.all fun column =>
        (column.names (stripLeft failing principal.columns x)).isEmpty) =
          !principal.columns.any fun column => (column.names x).keys.any fun name =>
            refused failing (.remove (column.target name).removal) := by
      rw [List.not_any_eq_all_not, Bool.eq_iff_iff, List.all_eq_true, List.all_eq_true]
      refine forall₂_congr fun column hcolumn => ?_
      rw [names_stripLeft hdisjoint hholds.columns hcolumn,
        Column.isEmpty_survivors (hlisted column hcolumn)]
    rw [hempty]
    cases isFree <;> cases refused failing (.remove principal.target.removal) <;> simp

/-! ## Users -/

/-- The requests for the removal of a user of a content: its login profile is deleted if it has one,
each kind of its dependents is listed, each of them is removed, and then it is deleted. -/
def userRequests (user : String) (content : Iam.User) : List Iam.Request :=
  (if content.hasProfile then [.deleteLoginProfile user] else [])
    ++ [.query (.accessKeys user), .query (.certificates user), .query (.userInline user),
      .query (.userPolicies user), .query (.userGroups user)]
    ++ content.keys.keys.map (fun key => .remove (.deleteAccessKey user key))
    ++ content.certificates.keys.map
      (fun certificate => .remove (.deleteCertificate user certificate))
    ++ content.inline.keys.map (fun policy => .remove (.deleteUserInline user policy))
    ++ content.attached.keys.map (fun arn => .remove (.detachUserPolicy user arn))
    ++ content.groups.keys.map (fun group => .remove (.leaveGroup user group))
    ++ [.remove (.deleteUser user)]

/-- Besides the requests of a principal there is the one that deletes a login profile. -/
theorem any_userRequests (user : String) (content : Iam.User) :
    (userRequests user content).any (refused failing) =
      (content.hasProfile && refused failing (.deleteLoginProfile user) ||
        ((userPrincipal user).requests content).any (refused failing)) := by
  have hprofile : (if content.hasProfile then [Iam.Request.deleteLoginProfile user] else []).any
      (refused failing) = (content.hasProfile && refused failing (.deleteLoginProfile user)) := by
    cases content.hasProfile <;> simp
  simp only [userRequests, List.any_append, hprofile]
  simp only [Principal.requests, userPrincipal, List.any_append, List.map_cons, List.map_nil,
    List.flatMap_cons, List.flatMap_nil, List.append_nil, List.any_cons, List.any_nil,
    Bool.or_false,
    Bool.or_assoc]
  rfl

theorem isSome_userLeft (user : String) (content : Iam.User) :
    (userLeft failing user content).isSome = (userRequests user content).any (refused failing) := by
  let isFree := !(content.hasProfile && refused failing (.deleteLoginProfile user))
  have hleft := Principal.isSome_left failing (x := profileLeft failing user content) isFree
    (userPrincipal_holds {} user) (disjoint_userPrincipal user) ?_
  · rw [userLeft, hleft, any_userRequests, Bool.not_not]
    rfl
  -- no column touches what is left of the login profile
  · have hprofile : (stripLeft failing (userPrincipal user).columns
        (profileLeft failing user content)).hasProfile = !isFree := by
      refine stripLeft_keeps (P := fun content : Iam.User => content.hasProfile = !isFree) ?_ ?_
      · intro column hcolumn names x hx
        simp only [userPrincipal, List.mem_cons, List.not_mem_nil, or_false] at hcolumn
        rcases hcolumn with rfl | rfl | rfl | rfl | rfl <;> exact hx
      · rw [profileLeft, Bool.not_not]
    simp only [userPrincipal, List.all_cons, List.all_nil, Bool.and_true] at hprofile ⊢
    rw [Iam.User.isBare, hprofile, Bool.not_not]
    simp only [Bool.and_assoc]
    rfl

/-- A policy that was detached from a user before is none whose detachment is refused. -/
theorem any_userRequests_survivors (gone : String → Bool) (user : String) (content : Iam.User) :
    (userRequests user
      (userHolder.set (userHolder.survivors failing gone user content) content)).any
      (refused failing) = (userRequests user content).any (refused failing) := by
  have hattached : ((userHolder.survivors failing gone user content).keys.any fun arn =>
      refused failing (.remove (.detachUserPolicy user arn))) =
        content.attached.keys.any fun arn =>
          refused failing (.remove (.detachUserPolicy user arn)) :=
    NameSet.any_keys_keep fun arn harn => by
      simp only [userHolder]
      rw [harn, Bool.or_true]
  simp only [userRequests, List.any_append, List.any_map, Function.comp_def]
  rw [← hattached]
  rfl

/-- A user survives exactly when the users cannot be listed or one of its own requests is
refused. -/
theorem users_cleared_iff (user : String) :
    (cleared failing settings iam).users.contains user = true ↔
      ∃ content, iam.users.get? user = some content ∧ (refused failing (.query .users) = true ∨
        ∃ request ∈ userRequests user content, refused failing request = true) := by
  rw [cleared, Dict.contains, usersLeft]
  cases hrefused : refused failing (.query .users) with
  | true =>
    rw [if_pos rfl, afterPolicies_users_get?, Option.isSome_map, Option.isSome_iff_exists]
    simp
  | false =>
    rw [if_neg Bool.false_ne_true, Dict.get?_filterMap, afterPolicies_users_get?]
    cases iam.users.get? user with
    | none => simp
    | some content =>
      rw [Option.map_some, Option.bind_some, isSome_userLeft, any_userRequests_survivors,
        List.any_eq_true]
      simp

/-! ## Roles -/

/-- The requests for the removal of a role of a content: both kinds of its policies are listed, each
of them is removed, and then it is deleted. -/
def roleRequests (role : String) (content : Iam.Role) : List Iam.Request :=
  [.query (.rolePolicies role), .query (.roleInline role)]
    ++ content.attached.keys.map (fun arn => .remove (.detachRolePolicy role arn))
    ++ content.inline.keys.map (fun policy => .remove (.deleteRoleInline role policy))
    ++ [.remove (.deleteRole role)]

theorem requests_rolePrincipal (role : String) (content : Iam.Role) :
    (rolePrincipal role).requests content = roleRequests role content := by
  simp only [Principal.requests, rolePrincipal, List.map_cons, List.map_nil, List.flatMap_cons,
    List.flatMap_nil, List.append_nil, roleRequests, List.append_assoc]
  rfl

theorem isSome_roleLeft (role : String) (content : Iam.Role) :
    ((rolePrincipal role).left failing content).isSome =
      (roleRequests role content).any (refused failing) := by
  rw [Principal.isSome_left failing true (rolePrincipal_holds {} role)
    (disjoint_rolePrincipal role) ?_, requests_rolePrincipal]
  · rfl
  · simp only [rolePrincipal, List.all_cons, List.all_nil, Bool.and_true, Bool.true_and]
    rfl

/-- A role survives exactly when it is protected, or the roles cannot be listed, or one of its own
requests is refused. -/
theorem roles_cleared_iff (role : String) :
    (cleared failing settings iam).roles.contains role = true ↔
      ∃ content, iam.roles.get? role = some content ∧ (isKept settings role content = true ∨
        refused failing (.query .roles) = true ∨
          ∃ request ∈ roleRequests role content, refused failing request = true) := by
  rw [Dict.contains, cleared_roles_get?, Option.isSome_map, rolesLeft]
  cases hrefused : refused failing (.query .roles) with
  | true =>
    rw [if_pos rfl, Option.isSome_iff_exists]
    simp
  | false =>
    rw [if_neg Bool.false_ne_true, Dict.get?_filterMap]
    cases iam.roles.get? role with
    | none => simp
    | some content =>
      rw [Option.bind_some, roleLeft]
      cases hkept : isKept settings role content with
      | true => simp [hkept]
      | false =>
        rw [if_neg Bool.false_ne_true, isSome_roleLeft, List.any_eq_true]
        simp [hkept]

/-! ## Policies -/

/-- The requests for the removal of a policy of a content: its attachments and its versions are
listed, each attachment and each old version is removed, and then it is deleted. -/
def policyRequests (iam : Iam) (arn : String) (content : Iam.Policy) : List Iam.Request :=
  [.query (.policyEntities arn), .query (.policyVersions arn)]
    ++ (iam.entities arn).users.map (fun user => .remove (.detachUserPolicy user arn))
    ++ (iam.entities arn).groups.map (fun group => .remove (.detachGroupPolicy group arn))
    ++ (iam.entities arn).roles.map (fun role => .remove (.detachRolePolicy role arn))
    ++ (oldOf content).map (fun version => .remove (.deleteVersion arn version.id))
    ++ [.remove (.deletePolicy arn)]

/-- A policy whose detachment from a role is refused is attached to it after the roles were to be
removed, if it was before. -/
theorem mem_entities_afterRoles_iff {arn role : String}
    (hrefused : refused failing (.remove (.detachRolePolicy role arn)) = true) :
    role ∈ ((afterRoles failing settings iam).entities arn).roles ↔
    role ∈ (iam.entities arn).roles := by
  rw [mem_entities_roles_iff, mem_entities_roles_iff, afterRoles, rolesLeft]
  split
  · rfl
  rw [Dict.get?_filterMap]
  cases iam.roles.get? role with
  | none => simp
  | some content =>
    have hattached : (stripLeft failing (rolePrincipal role).columns content).attached =
        (roleAttached role).survivors failing content :=
      names_stripLeft (disjoint_rolePrincipal role) (rolePrincipal_holds {} role).columns
        List.mem_cons_self content
    -- the detachment was refused before too: the role has something left and could not be deleted
    have hsurvives : ((roleAttached role).survivors failing content).contains arn =
        content.attached.contains arn := by
      have hkeeps : refused failing (.remove ((roleAttached role).target arn).removal) = true :=
        hrefused
      rw [Column.survivors, NameSet.contains_keep, hkeeps, Bool.or_true, Bool.and_true]
      rfl
    simp only [Option.bind_some, Option.some.injEq, exists_eq_left', roleLeft]
    split
    · simp
    constructor
    · rintro ⟨left, hleft, hmem⟩
      rw [Principal.left] at hleft
      split at hleft
      · rwa [← Option.some.inj hleft, hattached, hsurvives] at hmem
      · simp at hleft
    · intro hmem
      have hsome : ((rolePrincipal role).left failing content).isSome = true := by
        rw [isSome_roleLeft, List.any_eq_true]
        refine ⟨.remove (.detachRolePolicy role arn), ?_, hrefused⟩
        simp [roleRequests, NameSet.mem_keys_iff, hmem]
      rw [Principal.left] at hsome ⊢
      split at hsome
      · rename_i hstays
        rw [if_pos hstays]
        exact ⟨_, rfl, by rwa [hattached, hsurvives]⟩
      · simp at hsome

/-- A policy is released from everything exactly when none of its detachments is refused. -/
theorem isReleased_afterRoles (failing : NameSet) (settings : ReclaimSettings) (iam : Iam)
    (policy : PolicySummary) :
    isReleased failing policy ((afterRoles failing settings iam).entities policy.arn) =
      isReleased failing policy (iam.entities policy.arn) := by
  have hroles : (((afterRoles failing settings iam).entities policy.arn).roles.all fun role =>
      !refused failing (.remove (.detachRolePolicy role policy.arn))) =
        (iam.entities policy.arn).roles.all fun role =>
          !refused failing (.remove (.detachRolePolicy role policy.arn)) := by
    rw [Bool.eq_iff_iff, List.all_eq_true, List.all_eq_true]
    refine forall_congr' fun role => ?_
    cases hrefused : refused failing (.remove (.detachRolePolicy role policy.arn)) with
    | true => rw [mem_entities_afterRoles_iff hrefused]
    | false => simp
  simp only [isReleased, attachments, List.all_append, List.all_map, Function.comp_def]
  rw [hroles]
  rfl

theorem isSome_deletionLeft (policy : PolicySummary) (isReleased : Bool) (content : Iam.Policy) :
    (deletionLeft failing policy isReleased content).isSome =
      (refused failing (.query (.policyVersions policy.arn)) ||
        refused failing (.remove (.deletePolicy policy.arn)) ||
          !(decide ((versionsLeft failing policy.arn (oldOf content) content).versions.length ≤ 1)
            && isReleased)) := by
  unfold deletionLeft policyDeletion
  cases refused failing (.query (.policyVersions policy.arn)) with
  | true => rfl
  | false =>
    cases refused failing (.remove (.deletePolicy policy.arn)) with
    | true => rfl
    | false =>
      cases hdeletable :
        decide ((versionsLeft failing policy.arn (oldOf content) content).versions.length ≤ 1)
          && isReleased <;> simp [hdeletable]

/-- A policy that is reached is left exactly when one of the requests for its removal is refused,
apart from the listing of its attachments. -/
theorem isSome_policyLeft {arn : String} {content : Iam.Policy} (hsound : content.IsSound)
    (hentities : refused failing (.query (.policyEntities arn)) = false) :
    (policyLeft failing (afterRoles failing settings iam) ⟨content.name, arn⟩ content).isSome =
      (policyRequests iam arn content).any (refused failing) := by
  have hlength : (decide ((versionsLeft failing arn (oldOf content) content).versions.length ≤ 1)) =
      !(oldOf content).any fun version =>
        refused failing (.remove (.deleteVersion arn version.id)) := by
    rw [Bool.eq_iff_iff, decide_eq_true_iff, length_trimmed_le_one_iff failing arn hsound,
      Bool.not_eq_true', List.any_eq_false]
    simp only [Bool.not_eq_true]
  have hdetached : isReleased failing ⟨content.name, arn⟩ (iam.entities arn) =
      !((iam.entities arn).users.any
        (fun user => refused failing (.remove (.detachUserPolicy user arn))) ||
        (iam.entities arn).groups.any (fun group =>
          refused failing (.remove (.detachGroupPolicy group arn))) ||
        (iam.entities arn).roles.any fun role =>
          refused failing (.remove (.detachRolePolicy role arn))) := by
    simp only [isReleased, attachments, List.all_append, List.all_map, Function.comp_def,
      Bool.not_or, List.not_any_eq_all_not]
  have hreleased := isReleased_afterRoles failing settings iam ⟨content.name, arn⟩
  rw [policyLeft, hreleased, isSome_deletionLeft, hlength, hdetached]
  simp only [policyRequests, List.any_append, List.any_map, Function.comp_def, List.any_cons,
    List.any_nil, Bool.or_false, hentities, Bool.false_or, Bool.not_and, Bool.not_not]
  ac_rfl

theorem isCleared_iff (settings : ReclaimSettings)
    (hlisted : refused failing (.query .roles) = false)
    {arn : String} {content : Iam.Policy} (harn : iam.policies.get? arn = some content) :
    isCleared failing settings iam arn = true ↔ refused failing (.query .localPolicies) = false ∧
      refused failing (.query (.policyEntities arn)) = false ∧ ¬ IsHeld settings iam arn := by
  have hpolicy : (afterRoles failing settings iam).policies.contains arn = true := by
    simp [afterRoles, Dict.contains, harn]
  rw [isCleared, isGone, hpolicy, Bool.and_true, isReached, Bool.and_eq_true, Bool.and_eq_true,
    protector?_isNone_iff hlisted, Bool.not_eq_true', Bool.not_eq_true']

/-- When the roles could be listed, a policy survives exactly when the policies cannot be listed, or
a protected role holds it, or one of its own requests is refused. -/
theorem policies_cleared_iff (hsound : iam.IsSound)
    (hlisted : refused failing (.query .roles) = false) (arn : String) :
    (cleared failing settings iam).policies.contains arn = true ↔
      ∃ content, iam.policies.get? arn = some content ∧
        (refused failing (.query .localPolicies) = true ∨ IsHeld settings iam arn ∨
          ∃ request ∈ policyRequests iam arn content, refused failing request = true) := by
  rw [Dict.contains, cleared_policies_get?]
  cases harn : iam.policies.get? arn with
  | none => simp
  | some content =>
    have hcleared := isCleared_iff settings hlisted harn
    simp only [Option.bind_some, Option.some.injEq, exists_eq_left']
    cases hreached : isCleared failing settings iam arn with
    | true =>
      obtain ⟨hpolicies, hentities, hfree⟩ := hcleared.1 hreached
      rw [if_pos rfl, isSome_policyLeft (hsound arn content harn) hentities,
        List.any_eq_true, hpolicies]
      simp [hfree]
    | false =>
      -- a policy that is not reached is not listed, or is held, or its attachments cannot be listed
      have hleft := mt hcleared.2 (ne_true_of_eq_false hreached)
      simp only [Bool.false_eq_true, if_false, Option.isSome_some, true_iff]
      by_contra hnone
      obtain ⟨hpolicies, hrest⟩ := not_or.1 hnone
      obtain ⟨hfree, hrequests⟩ := not_or.1 hrest
      refine hleft ⟨Bool.not_eq_true _ |>.mp hpolicies, ?_, hfree⟩
      rw [← Bool.not_eq_true]
      exact fun hentities => hrequests ⟨_, by simp [policyRequests], hentities⟩

end Lending

open Lending

/-- Who is left of an account after a clearing, whatever is registered to fail, when each of its
policies has one default version and versions of different names (`hsound`, which `IsBuilt.isSound`
gives for every account that was set up).  A user survives exactly when the users cannot be listed
or one of the requests for its own removal is refused, a role when it is protected besides, and a
policy, as long as the roles can be listed, when a protected role holds it besides. -/
theorem World.clear_survivors (world : World) (site : Site) (settings : ReclaimSettings)
    (hsound : (world.cloud.iamOf site.session.accessKey).state.IsSound) :
    let before := world.cloud.iamOf site.session.accessKey
    let after := ((world.run (clear site settings)).2.cloud.iamOf site.session.accessKey).state
    (∀ user, after.users.contains user = true ↔
      ∃ content, before.state.users.get? user = some content ∧
        (refused before.failing (.query .users) = true ∨
          ∃ request ∈ userRequests user content, refused before.failing request = true)) ∧
    (∀ role, after.roles.contains role = true ↔
      ∃ content, before.state.roles.get? role = some content ∧
        (isProtectedRole settings ⟨role, content.path⟩ = true ∨
          refused before.failing (.query .roles) = true ∨
            ∃ request ∈ roleRequests role content, refused before.failing request = true)) ∧
    (refused before.failing (.query .roles) = false → ∀ arn, after.policies.contains arn = true ↔
      ∃ content, before.state.policies.get? arn = some content ∧
        (refused before.failing (.query .localPolicies) = true ∨ IsHeld settings before.state arn ∨
          ∃ request ∈ policyRequests before.state arn content,
            refused before.failing request = true)) := by
  intro before after
  obtain ⟨-, hafter, -⟩ := world.run_clear site settings
  have hstate : after = cleared before.failing settings before.state :=
    congrArg Journaled.state hafter
  rw [hstate]
  exact ⟨users_cleared_iff, roles_cleared_iff, policies_cleared_iff hsound⟩

/-! ## An account in which some requests are refused -/

/-- An account with two users, a role, and a policy that is attached to the second user and to a
group. -/
def crowdIam : Iam :=
  ({} : Iam).addPolicy "111122223333" "old" 1
    |>.addUser "alice"
    |>.addAccessKey "alice" "key"
    |>.addUser "bob"
    |>.attachUserPolicy "bob" (Iam.policyArn "111122223333" "old")
    |>.attachGroupPolicy "staff" (Iam.policyArn "111122223333" "old")
    |>.addRole "builder" "/"

/-- The requests that are refused: neither the access key of the first user nor the old version of
the policy can be deleted. -/
def crowdFailing : NameSet := NameSet.ofNames ["DeleteAccessKey:alice/key",
  "DeletePolicyVersion:" ++ Iam.policyArn "111122223333" "old" ++ "/v2"]

/-- A world with that account, in which those requests are refused. -/
def crowdWorld : World where
  cloud := (Cloud.ofCaller (.ok "999999999999")).changeIam "111122223333" fun _ =>
    ⟨crowdIam, [], crowdFailing⟩

/-- The account of the two users. -/
def crowdSite : Site := ⟨"111122223333", Cloud.sessionOf "111122223333"⟩

theorem iamOf_crowdWorld :
    crowdWorld.cloud.iamOf crowdSite.session.accessKey = ⟨crowdIam, [], crowdFailing⟩ :=
  (Cloud.iamOf_changeIam _ _ _ _).trans (if_pos rfl)

theorem isSound_crowdWorld :
    (crowdWorld.cloud.iamOf crowdSite.session.accessKey).state.IsSound := by
  have hsound : crowdIam.IsSound := Iam.isSound_empty.addPolicy "111122223333" "old" 1
  rwa [iamOf_crowdWorld]

/-- The first user and the policy survive; the other user and the role do not. -/
theorem clear_survivors_crowd :
    let after :=
      ((crowdWorld.run (clear crowdSite {})).2.cloud.iamOf crowdSite.session.accessKey).state
    after.users.contains "alice" = true ∧ after.users.contains "bob" = false ∧
      after.roles.contains "builder" = false ∧
      after.policies.contains (Iam.policyArn "111122223333" "old") = true := by
  have hsurvivors := crowdWorld.clear_survivors crowdSite {} isSound_crowdWorld
  rw [iamOf_crowdWorld] at hsurvivors
  obtain ⟨husers, hroles, hpolicies⟩ := hsurvivors
  refine ⟨(husers "alice").2 ⟨{ keys := NameSet.ofNames ["key"] }, by decide +kernel, .inr ?_⟩,
    ?_, ?_,
    (hpolicies (by decide +kernel) _).2
      ⟨⟨"old", Iam.versionsOf 1⟩, by decide +kernel, .inr (.inr ?_)⟩⟩
  · exact ⟨.remove (.deleteAccessKey "alice" "key"), by decide +kernel, by decide +kernel⟩
  · have hbob : crowdIam.users.get? "bob" =
        some { attached := NameSet.ofNames [Iam.policyArn "111122223333" "old"] } := by
      decide +kernel
    rw [← Bool.not_eq_true, husers, hbob]
    rintro ⟨content, hcontent, hrefused⟩
    obtain rfl := Option.some.inj hcontent
    revert hrefused
    decide +kernel
  · have hbuilder : crowdIam.roles.get? "builder" = some { path := "/" } := by decide +kernel
    rw [← Bool.not_eq_true, hroles, hbuilder]
    rintro ⟨content, hcontent, hrefused⟩
    obtain rfl := Option.some.inj hcontent
    revert hrefused
    decide +kernel
  · exact ⟨.remove (.deleteVersion (Iam.policyArn "111122223333" "old") "v2"), by decide +kernel,
      by decide +kernel⟩

end AccountLending
