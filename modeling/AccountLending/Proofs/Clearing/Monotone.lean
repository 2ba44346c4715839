import AccountLending.Proofs.Clearing.Removing
import AccountLending.Proofs.Clearing.Rerunning

/-!
# Protecting more roles

When further roles are protected, fewer policies are reached, and so nothing is removed that was
left before: whatever survives a clearing survives it with more roles protected.  Users are no
exception, although a policy that is left stays attached to them: the user's own removal detaches it
anyway, so no user stays because of it.

* `ReclaimSettings.IsExtendedBy` — settings that differ from others in that they protect further
  roles;
* `isCleared_of_extended` — a policy that is cleared with more roles protected is cleared with
  fewer;
* `cleared_isWithin_cleared` — what is left is within what is left with more roles protected;
* `World.clear_extended` — the same of two clearings in a world.
-/

namespace AccountLending

/-- Settings that are the same as others but for further roles that they protect. -/
structure ReclaimSettings.IsExtendedBy (settings extended : ReclaimSettings) : Prop where
  same : { extended with protectedRoles := settings.protectedRoles } = settings
  roles : ∀ role ∈ settings.protectedRoles, role ∈ extended.protectedRoles

/-! ## Changing two dictionaries -/

/-- What is changed or dropped entry by entry in two dictionaries, one within the other. -/
theorem Dict.IsWithin.filterMap {α β : Type} {within : α → α → Prop} {within' : β → β → Prop}
    {d e : Dict α} {f g : String → α → Option β} (h : d.IsWithin within e)
    (hstep : ∀ name x y, d.get? name = some x → e.get? name = some y → within x y →
      ∀ left, f name x = some left → ∃ more, g name y = some more ∧ within' left more) :
    (d.filterMap f).IsWithin within' (e.filterMap g) := by
  intro name left hleft
  rw [Dict.get?_filterMap, Option.bind_eq_some_iff] at hleft
  obtain ⟨x, hx, hleft⟩ := hleft
  obtain ⟨y, hy, hxy⟩ := h name x hx
  obtain ⟨more, hmore, hwithin⟩ := hstep name x y hx hy hxy left hleft
  exact ⟨more, by rw [Dict.get?_filterMap, hy, Option.bind_some, hmore], hwithin⟩

theorem NameSet.IsWithin.keep {names others : NameSet} {p q : String → Bool}
    (h : names.IsWithin others) (hpq : ∀ name, p name = true → q name = true) :
    NameSet.IsWithin (names.keep p) (others.keep q) := by
  intro name hname
  rw [NameSet.contains_keep, Bool.and_eq_true] at hname ⊢
  exact ⟨h name hname.1, hpq name hname.2⟩

theorem NameSet.IsWithin.of_keep (names : NameSet) (p : String → Bool) :
    NameSet.IsWithin (names.keep p) names := by
  intro name hname
  rw [NameSet.contains_keep, Bool.and_eq_true] at hname
  exact hname.1

namespace Lending

open Iam (Query Removal PolicySummary PolicyEntities VersionSummary)

variable {failing : NameSet} {iam : Iam} {settings extended : ReclaimSettings}

/-! ## Roles -/

theorem isProtectedName_of_extended (h : settings.IsExtendedBy extended) {role : String}
    (hname : isProtectedName settings role = true) : isProtectedName extended role = true := by
  have hadmin : extended.adminRole = settings.adminRole := by rw [← h.same]
  simp only [isProtectedName, Bool.or_eq_true, List.contains_iff_mem, hadmin] at hname ⊢
  exact hname.imp_right (h.roles role)

theorem isKept_of_extended (h : settings.IsExtendedBy extended) {role : String} {content : Iam.Role}
    (hkept : isKept settings role content = true) : isKept extended role content = true := by
  rw [isKept, isProtectedRole, Bool.or_eq_true] at hkept ⊢
  exact hkept.imp_right (isProtectedName_of_extended h)

/-- What is left of a principal is what is left of its columns. -/
theorem Principal.eq_stripLeft {ρ : Type} {principal : Principal ρ} {x left : ρ}
    (h : principal.left failing x = some left) : left = stripLeft failing principal.columns x := by
  rw [Principal.left] at h
  split at h
  · exact (Option.some.inj h).symm
  · simp at h

/-- What is left of a role is within it. -/
theorem isWithin_of_left {role : String} {content left : Iam.Role}
    (h : (rolePrincipal role).left failing content = some left) : left.IsWithin content := by
  rw [Principal.eq_stripLeft h]
  exact ⟨rfl, .of_keep _ _, .of_keep _ _⟩

/-- What is left of a role is within what is left of it with more roles protected. -/
theorem rolesLeft_isWithin (h : settings.IsExtendedBy extended) (roles : Dict Iam.Role) :
    (rolesLeft failing settings roles).IsWithin Iam.Role.IsWithin
      (rolesLeft failing extended roles) := by
  have hrefl : roles.IsWithin Eq roles := .refl (fun _ => rfl) roles
  unfold rolesLeft
  split
  · exact .refl Iam.Role.IsWithin.refl roles
  refine hrefl.filterMap fun role content _ _ _ heq left hleft => ?_
  subst heq
  unfold roleLeft at hleft ⊢
  cases hkept : isKept extended role content with
  | true =>
    refine ⟨content, if_pos rfl, ?_⟩
    split at hleft
    · exact Option.some.inj hleft ▸ .refl content
    · exact isWithin_of_left hleft
  | false =>
    -- what is not protected now was not protected before
    have hfree := mt (isKept_of_extended h) (ne_true_of_eq_false hkept)
    rw [if_neg hfree] at hleft
    exact ⟨left, hleft, .refl left⟩

/-! ## Policies -/

theorem mem_keptNames_of_extended (h : settings.IsExtendedBy extended) {role : String}
    (hkept : (keptNames failing settings iam).contains role = true) :
    (keptNames failing extended iam).contains role = true := by
  rw [List.contains_iff_mem] at hkept ⊢
  unfold keptNames at hkept ⊢
  split at hkept
  · simp at hkept
  · rename_i hlisted
    obtain ⟨e, he, rfl⟩ := List.mem_map.1 hkept
    obtain ⟨hentry, hrole⟩ := List.mem_filter.1 he
    rw [if_neg hlisted]
    exact List.mem_map_of_mem (List.mem_filter.2 ⟨hentry, isKept_of_extended h hrole⟩)

/-- A policy that is attached to no role that is known to be protected, with more roles protected,
is attached to none with fewer. -/
theorem protector?_of_extended (h : settings.IsExtendedBy extended) {arn : String}
    (hnone : protector? extended (keptNames failing extended iam)
      ((afterRoles failing extended iam).entities arn) = none) :
    protector? settings (keptNames failing settings iam)
      ((afterRoles failing settings iam).entities arn) = none := by
  rw [protector?, List.find?_eq_none] at hnone ⊢
  intro role hmem hknown
  obtain ⟨content, hrole, hattached⟩ := mem_entities_roles_iff.1 hmem
  obtain ⟨more, hmore, hwithin⟩ := rolesLeft_isWithin h iam.roles role content hrole
  have hstill : role ∈ ((afterRoles failing extended iam).entities arn).roles :=
    mem_entities_roles_iff.2 ⟨more, hmore, hwithin.attached arn hattached⟩
  refine hnone role hstill ?_
  rw [Bool.or_eq_true] at hknown ⊢
  exact hknown.imp (mem_keptNames_of_extended h) (isProtectedName_of_extended h)

/-- A policy that is cleared with more roles protected is cleared with fewer. -/
theorem isCleared_of_extended (h : settings.IsExtendedBy extended) {arn : String}
    (hcleared : isCleared failing extended iam arn = true) :
    isCleared failing settings iam arn = true := by
  simp only [isCleared, isGone, isReached, Bool.and_eq_true, Option.isNone_iff_eq_none]
    at hcleared ⊢
  obtain ⟨hlisted, hentities, hnone⟩ := hcleared
  exact ⟨hlisted, hentities, protector?_of_extended h hnone⟩

theorem isWithin_versionOutcome (arn version : String) (content : Iam.Policy) :
    (versionOutcome failing arn version content).2.IsWithin content := by
  unfold versionOutcome
  split
  · exact .refl content
  · split
    · rename_i hleft
      exact Iam.isWithin_of_withoutVersion hleft
    · exact .refl content

theorem isWithin_versionsLeft (arn : String) (versions : List VersionSummary)
    (content : Iam.Policy) : (versionsLeft failing arn versions content).IsWithin content := by
  induction versions generalizing content with
  | nil => exact .refl content
  | cons version rest ih =>
    exact Iam.Policy.IsWithin.trans _ _ _ (ih _) (isWithin_versionOutcome arn version.id content)

/-- What is left of a policy is within it. -/
theorem isWithin_of_policyLeft {policy : PolicySummary} {content left : Iam.Policy}
    (h : policyLeft failing iam policy content = some left) : left.IsWithin content := by
  unfold policyLeft deletionLeft at h
  split at h
  · exact Option.some.inj h ▸ .refl content
  · dsimp only at h
    split at h
    · simp at h
    · exact Option.some.inj h ▸ isWithin_versionsLeft _ _ content

/-- What is left of the attachments of a principal when fewer policies were detached. -/
theorem Holder.survivors_isWithin {ρ : Type} (holder : Holder ρ) {gone fewer : String → Bool}
    (hgone : ∀ arn, fewer arn = true → gone arn = true) {name : String} {x y : ρ}
    (hxy : (holder.attached x).IsWithin (holder.attached y)) :
    (holder.survivors failing gone name x).IsWithin (holder.survivors failing fewer name y) := by
  refine hxy.keep fun arn harn => ?_
  rw [Bool.or_eq_true, Bool.not_eq_true'] at harn ⊢
  refine harn.imp_left fun hleft => ?_
  rw [← Bool.not_eq_true] at hleft ⊢
  exact mt (hgone arn) hleft

/-! ## Users -/

/-- What is left of a user is within what is left of it when it had more. -/
theorem isWithin_of_userLeft {user : String} {x y left more : Iam.User} (hxy : x.IsWithin y)
    (hleft : userLeft failing user x = some left) (hmore : userLeft failing user y = some more) :
    left.IsWithin more := by
  have hcolumns : ∀ column ∈ (userPrincipal user).columns,
      (column.names (profileLeft failing user x)).IsWithin
        (column.names (profileLeft failing user y)) →
        (column.names left).IsWithin (column.names more) := by
    intro column hcolumn hnames
    have hholds := (userPrincipal_holds {} user).columns
    rw [Principal.eq_stripLeft hleft, Principal.eq_stripLeft hmore,
      names_stripLeft (disjoint_userPrincipal user) hholds hcolumn,
      names_stripLeft (disjoint_userPrincipal user) hholds hcolumn]
    exact hnames.keep fun _ => id
  constructor
  · rw [Principal.eq_stripLeft hleft, Principal.eq_stripLeft hmore]
    intro hprofile
    have hboth := (Bool.and_eq_true _ _).mp hprofile
    exact (Bool.and_eq_true _ _).mpr ⟨hxy.hasProfile hboth.1, hboth.2⟩
  · exact hcolumns (userKeys user) (by simp [userPrincipal]) hxy.keys
  · exact hcolumns (userCertificates user) (by simp [userPrincipal]) hxy.certificates
  · exact hcolumns (userInline user) (by simp [userPrincipal]) hxy.inline
  · exact hcolumns (userAttached user) (by simp [userPrincipal]) hxy.attached
  · exact hcolumns (userGroups user) (by simp [userPrincipal]) hxy.groups

/-- Which users survive does not depend on what is protected. -/
theorem users_cleared_contains (settings extended : ReclaimSettings) (user : String) :
    (cleared failing settings iam).users.contains user =
      (cleared failing extended iam).users.contains user := by
  rw [Bool.eq_iff_iff, users_cleared_iff, users_cleared_iff]

theorem isWithin_of_attached {names others : NameSet} (h : names.IsWithin others)
    (content : Iam.User) :
    (userHolder.set names content).IsWithin (userHolder.set others content) :=
  ⟨id, .refl content.keys, .refl content.certificates, .refl content.inline, h,
    .refl content.groups⟩

theorem users_afterPolicies_isWithin (h : settings.IsExtendedBy extended) :
    (afterPolicies failing settings iam).users.IsWithin Iam.User.IsWithin
      (afterPolicies failing extended iam).users := by
  intro user left hleft
  rw [afterPolicies_users_get?] at hleft
  obtain ⟨content, hcontent, rfl⟩ := Option.map_eq_some_iff.1 hleft
  rw [afterPolicies_users_get?, hcontent, Option.map_some]
  exact ⟨_, rfl, isWithin_of_attached
    (userHolder.survivors_isWithin (fun _ => isCleared_of_extended h) (.refl content.attached))
    content⟩

theorem users_cleared_isWithin (h : settings.IsExtendedBy extended) :
    (cleared failing settings iam).users.IsWithin Iam.User.IsWithin
      (cleared failing extended iam).users := by
  have hdetached : (afterPolicies failing settings iam).users.IsWithin Iam.User.IsWithin
      (afterPolicies failing extended iam).users := users_afterPolicies_isWithin h
  intro user left hleft
  -- the user is there in both cases, so it only has to be seen what it has
  have hcontains : (cleared failing settings iam).users.contains user =
      (cleared failing extended iam).users.contains user :=
        users_cleared_contains settings extended user
  simp only [Dict.contains, hleft, Option.isSome_some] at hcontains
  obtain ⟨more, hmore⟩ := Option.isSome_iff_exists.1 hcontains.symm
  refine ⟨more, hmore, ?_⟩
  rw [cleared, usersLeft] at hleft hmore
  cases hrefused : refused failing (.query .users) with
  | true =>
    rw [hrefused, if_pos rfl] at hleft hmore
    obtain ⟨found, hfound, hwithin⟩ := hdetached user left hleft
    obtain rfl := Option.some.inj (hfound.symm.trans hmore)
    exact hwithin
  | false =>
    rw [hrefused, if_neg Bool.false_ne_true, Dict.get?_filterMap, Option.bind_eq_some_iff]
      at hleft hmore
    obtain ⟨x, hx, hleft⟩ := hleft
    obtain ⟨y, hy, hmore⟩ := hmore
    obtain ⟨found, hfound, hwithin⟩ := hdetached user x hx
    obtain rfl := Option.some.inj (hfound.symm.trans hy)
    exact isWithin_of_userLeft hwithin hleft hmore

/-! ## The whole account -/

/-- What is left of an account is within what is left of it with more roles protected. -/
theorem cleared_isWithin_cleared (h : settings.IsExtendedBy extended) :
    (cleared failing settings iam).IsWithin (cleared failing extended iam) where
  roles role left hleft := by
    rw [cleared_roles_get?] at hleft
    obtain ⟨x, hx, rfl⟩ := Option.map_eq_some_iff.1 hleft
    obtain ⟨y, hy, hwithin⟩ := rolesLeft_isWithin h iam.roles role x hx
    have hattached : (roleHolder.survivors failing (isCleared failing settings iam) role x).IsWithin
        (roleHolder.survivors failing (isCleared failing extended iam) role y) :=
      roleHolder.survivors_isWithin (fun _ => isCleared_of_extended h) hwithin.attached
    rw [cleared_roles_get?, hy, Option.map_some]
    exact ⟨_, rfl, hwithin.path, hattached, hwithin.inline⟩
  policies arn left hleft := by
    rw [cleared_policies_get?, Option.bind_eq_some_iff] at hleft
    obtain ⟨content, harn, hleft⟩ := hleft
    rw [cleared_policies_get?, harn, Option.bind_some]
    cases hcleared : isCleared failing extended iam arn with
    | true =>
      -- which of its attachments are refused to be removed does not depend on the settings
      have hreleased : ∀ settings : ReclaimSettings,
          policyLeft failing (afterRoles failing settings iam) ⟨content.name, arn⟩ content =
            policyLeft failing iam ⟨content.name, arn⟩ content := by
        intro settings
        rw [policyLeft, policyLeft, isReleased_afterRoles failing settings iam ⟨content.name, arn⟩]
      rw [isCleared_of_extended h hcleared, if_pos rfl, hreleased] at hleft
      rw [if_pos rfl, hreleased]
      exact ⟨left, hleft, .refl left⟩
    | false =>
      refine ⟨content, if_neg Bool.false_ne_true, ?_⟩
      split at hleft
      · exact isWithin_of_policyLeft hleft
      · exact Option.some.inj hleft ▸ .refl content
  users := users_cleared_isWithin h
  groups group left hleft := by
    rw [cleared_groups_get?] at hleft
    obtain ⟨attached, hgroup, rfl⟩ := Option.map_eq_some_iff.1 hleft
    rw [cleared_groups_get?, hgroup, Option.map_some]
    exact ⟨_, rfl, groupHolder.survivors_isWithin (fun _ => isCleared_of_extended h)
      (.refl attached)⟩

end Lending

open Lending

/-- Protecting more roles never takes anything away: whatever a clearing leaves, it leaves with more
roles protected, whatever is registered to fail.  Nor does it keep a user that would be gone. -/
theorem World.clear_extended (world : World) (site : Site) {settings extended : ReclaimSettings}
    (h : settings.IsExtendedBy extended) :
    let after (settings : ReclaimSettings) : Iam :=
      ((world.run (clear site settings)).2.cloud.iamOf site.session.accessKey).state
    (after settings).IsWithin (after extended) ∧
      ∀ user, (after settings).users.contains user = false →
        (after extended).users.contains user = false := by
  intro after
  let service := world.cloud.iamOf site.session.accessKey
  have hafter : ∀ settings, after settings = cleared service.failing settings service.state :=
    fun settings => congrArg Journaled.state (world.run_clear site settings).2.1
  rw [hafter, hafter]
  refine ⟨cleared_isWithin_cleared h, fun user hgone => ?_⟩
  rwa [← users_cleared_contains settings]

/-! ## A role that may be protected or not -/

/-- An account with a role that a policy is attached to, as it is to a user. -/
def deployerIam : Iam :=
  ({} : Iam).addPolicy "111122223333" "deploy" 0
    |>.addRole "deployer" "/"
    |>.attachRolePolicy "deployer" (Iam.policyArn "111122223333" "deploy")
    |>.addUser "alice"
    |>.attachUserPolicy "alice" (Iam.policyArn "111122223333" "deploy")

/-- A world with that account, in which the role cannot be deleted. -/
def deployerWorld : World where
  cloud := (Cloud.ofCaller (.ok "999999999999")).changeIam "111122223333" fun _ =>
    ⟨deployerIam, [], NameSet.ofNames ["DeleteRole:deployer"]⟩

/-- The account of the role. -/
def deployerSite : Site := ⟨"111122223333", Cloud.sessionOf "111122223333"⟩

/-- The role loses its policy unless it is protected, and the user is gone in both cases. -/
theorem clear_extended_deployer :
    let after (settings : ReclaimSettings) : Iam :=
      ((deployerWorld.run (clear deployerSite settings)).2.cloud.iamOf
        deployerSite.session.accessKey).state
    let protecting : ReclaimSettings := { protectedRoles := ["deployer"] }
    (∃ more, (after protecting).roles.get? "deployer" = some more ∧
      Iam.Role.IsWithin ⟨"/", {}, {}⟩ more) ∧
      (after protecting).policies.contains (Iam.policyArn "111122223333" "deploy") = true ∧
      (after protecting).users.contains "alice" = false := by
  intro after protecting
  have hextends : ReclaimSettings.IsExtendedBy {} protecting := ⟨rfl, by simp⟩
  obtain ⟨hwithin, husers⟩ := deployerWorld.clear_extended deployerSite hextends
  have hrole : (after {}).roles.get? "deployer" = some ⟨"/", {}, {}⟩ := by decide +kernel
  exact ⟨hwithin.roles "deployer" _ hrole, by decide +kernel, husers "alice" (by decide +kernel)⟩

end AccountLending
