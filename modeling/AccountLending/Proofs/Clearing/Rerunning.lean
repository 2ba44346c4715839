import AccountLending.Proofs.Clearing.Survivors

/-!
# Clearing an account again and again

A clearing that could not do everything is run again.  As long as the roles could be listed each
time, it does not matter what the earlier runs left undone: a run of which nothing is refused leaves
the account as a single such run would have.  The account is then settled, and a further run finds
nothing to remove.

* `IsSwept` — what a run that does not fail leaves of an account, down to the groups;
* `IsSwept.of_cleared` — sweeping what another run left is sweeping the account;
* `IsSettled` — the accounts of which nothing is removed;
* `World.clear_again` — runs in a row, each with its own failures, and then one without any.
-/

namespace AccountLending

namespace Lending

open Iam (Query Removal PolicySummary PolicyEntities VersionSummary)
open Deed

variable {failing : NameSet} {iam before after : Iam} {settings : ReclaimSettings}

/-! ## Groups -/

theorem mem_entities_groups_iff {arn group : String} :
    group ∈ (iam.entities arn).groups ↔
      ∃ attached, iam.groups.get? group = some attached ∧ attached.contains arn = true :=
  Holder.mem_names_iff groupHolder

theorem cleared_groups_get? (group : String) :
    (cleared failing settings iam).groups.get? group = (iam.groups.get? group).map fun attached =>
      groupHolder.survivors failing (isCleared failing settings iam) group attached :=
  Dict.get?_each _ _ group

/-- A policy stays attached to a group unless it is cleared and its detachment is not refused. -/
theorem mem_entities_groups_cleared_iff {arn group : String} :
    group ∈ ((cleared failing settings iam).entities arn).groups ↔
    group ∈ (iam.entities arn).groups ∧ (isCleared failing settings iam arn = true →
        refused failing (.remove (.detachGroupPolicy group arn)) = true) := by
  rw [mem_entities_groups_iff, mem_entities_groups_iff, cleared_groups_get?]
  cases iam.groups.get? group with
  | none => simp
  | some attached =>
    simp only [Option.map_some, Option.some.injEq, exists_eq_left', Holder.survivors,
      NameSet.contains_keep, Bool.and_eq_true]
    refine and_congr_right fun _ => ?_
    cases isCleared failing settings iam arn <;> simp [groupHolder]

/-! ## Swept accounts -/

/-- An account has been swept: it has been emptied, and those of its policies that went are detached
from its groups. -/
structure IsSwept (settings : ReclaimSettings) (before after : Iam) : Prop
    extends IsEmptied settings before after where
  groups : ∀ group, after.groups.contains group = before.groups.contains group
  attached : ∀ group arn, group ∈ (after.entities arn).groups ↔
    group ∈ (before.entities arn).groups ∧
    (before.policies.contains arn = true → IsHeld settings before arn)

/-- What a swept account is depends on what it was only. -/
theorem IsSwept.eq {other : Iam} (h : IsSwept settings before after)
    (h' : IsSwept settings before other) : after = other := by
  have hroles : after.roles = other.roles :=
    Dict.ext_get? fun role => (h.roles role).trans (h'.roles role).symm
  have hpolicies : after.policies = other.policies :=
    Dict.ext_get? fun arn => Option.ext fun policy =>
      (h.policies arn policy).trans (h'.policies arn policy).symm
  have husers : after.users = other.users :=
    Dict.ext_get? fun user => (h.users user).trans (h'.users user).symm
  have hgroups : after.groups = other.groups := by
    apply Dict.ext_get?
    intro group
    have hthere := (h.groups group).trans (h'.groups group).symm
    have hattached :
        ∀ arn, group ∈ (after.entities arn).groups ↔ group ∈ (other.entities arn).groups :=
      fun arn => (h.attached group arn).trans (h'.attached group arn).symm
    simp only [mem_entities_groups_iff] at hattached
    rw [Dict.contains, Dict.contains] at hthere
    cases hafter : after.groups.get? group with
    | none =>
      rw [hafter, Option.isSome_none, eq_comm, Option.isSome_eq_false_iff,
        Option.isNone_iff_eq_none] at hthere
      rw [hthere]
    | some names =>
      rw [hafter, Option.isSome_some, eq_comm, Option.isSome_iff_exists] at hthere
      obtain ⟨others, hother⟩ := hthere
      simp only [hafter, hother, Option.some.injEq, exists_eq_left'] at hattached
      rw [hother, NameSet.ext_contains fun arn => Bool.eq_iff_iff.2 (hattached arn)]
  cases after
  cases other
  simp_all

/-! ## After an earlier run -/

theorem isHeld_iff (arn : String) : IsHeld settings iam arn ↔
    ∃ role content,
      ((iam.roles.get? role).filter fun content => isKept settings role content) = some content ∧
        content.attached.contains arn = true := by
  simp only [IsHeld, Option.filter_eq_some_iff, and_assoc]

/-- A run that could list the roles leaves the protected ones as they were. -/
theorem filter_cleared_roles (hlisted : refused failing (.query .roles) = false) (role : String) :
    ((cleared failing settings iam).roles.get? role).filter
      (fun content => isKept settings role content) =
      (iam.roles.get? role).filter fun content => isKept settings role content := by
  cases hrole : iam.roles.get? role with
  | none =>
    have hnone : (rolesLeft failing settings iam.roles).get? role = none := by
      rw [rolesLeft, hlisted, if_neg Bool.false_ne_true, Dict.get?_filterMap, hrole,
        Option.bind_none]
    rw [cleared_roles_get?, hnone, Option.map_none]
  | some content =>
    cases hkept : isKept settings role content with
    | true => rw [cleared_roles_of_isKept hlisted hrole hkept]
    | false =>
      rw [cleared_roles_get?, rolesLeft, hlisted, if_neg Bool.false_ne_true,
        Dict.get?_filterMap, hrole, Option.bind_some, roleLeft, hkept, if_neg Bool.false_ne_true,
        Principal.left]
      -- what is left of a role has its path, so it is not protected either
      have hpath :
          (stripLeft failing (rolePrincipal role).columns content).path = content.path := by
        refine stripLeft_keeps (P := fun left : Iam.Role => left.path = content.path) ?_ rfl
        intro column hcolumn names left hleft
        simp only [rolePrincipal, List.mem_cons, List.not_mem_nil, or_false] at hcolumn
        rcases hcolumn with rfl | rfl <;> exact hleft
      rw [isKept] at hkept
      split
      · simp [Option.filter_some, isKept, hpath, hkept]
      · simp [Option.filter_some, isKept, hkept]

theorem isHeld_cleared_iff (hlisted : refused failing (.query .roles) = false) (arn : String) :
    IsHeld settings (cleared failing settings iam) arn ↔ IsHeld settings iam arn := by
  simp only [isHeld_iff, filter_cleared_roles hlisted]

/-- A policy that is still attached to a group is still there, if it was: it is deleted only after
it was detached from everything. -/
theorem contains_cleared_of_attached {arn group : String}
    (h : group ∈ ((cleared failing settings iam).entities arn).groups) :
    (cleared failing settings iam).policies.contains arn = iam.policies.contains arn := by
  obtain ⟨hattached, hrefused⟩ := mem_entities_groups_cleared_iff.1 h
  rw [Dict.contains, Dict.contains, cleared_policies_get?]
  cases iam.policies.get? arn with
  | none => rfl
  | some content =>
    rw [Option.bind_some]
    split
    · rename_i hcleared
      have hstands : refused failing
          (.remove (groupHolder.target ⟨content.name, arn⟩ group).removal) = true :=
            hrefused hcleared
      have hreleased : isReleased failing ⟨content.name, arn⟩ (iam.entities arn) = false := by
        rw [isReleased, List.all_eq_false]
        refine ⟨groupHolder.target ⟨content.name, arn⟩ group, ?_, by simp [hstands]⟩
        exact List.mem_append_left _ (List.mem_append_right _ (List.mem_map_of_mem hattached))
      have hsame := isReleased_afterRoles failing settings iam ⟨content.name, arn⟩
      rw [policyLeft, isSome_deletionLeft, hsame, hreleased]
      simp
    · rfl

/-- A policy stays attached to a group when a protected role holds it, and when it is none of the
account. -/
theorem mem_entities_groups_cleared_of_isHeld (hlisted : refused failing (.query .roles) = false)
    {arn group : String} (hattached : group ∈ (iam.entities arn).groups)
    (hheld : iam.policies.contains arn = true → IsHeld settings iam arn) :
    group ∈ ((cleared failing settings iam).entities arn).groups := by
  have hkeeps : isCleared failing settings iam arn = false := by
    cases hpolicy : iam.policies.contains arn with
    | true => exact isCleared_of_isHeld hlisted (hheld hpolicy)
    | false =>
      have hnone : (afterRoles failing settings iam).policies.contains arn = false := hpolicy
      rw [isCleared, isGone, hnone, Bool.and_false, Bool.false_and]
  refine mem_entities_groups_cleared_iff.2 ⟨hattached, fun hcleared => ?_⟩
  exact absurd (hkeeps.symm.trans hcleared) Bool.false_ne_true

/-- Sweeping what an earlier run left of an account is sweeping the account, when that run could
list the roles. -/
theorem IsSwept.of_cleared (hlisted : refused failing (.query .roles) = false)
    (h : IsSwept settings (cleared failing settings iam) after) : IsSwept settings iam after where
  users := h.users
  roles role := (h.roles role).trans (filter_cleared_roles hlisted role)
  policies arn policy := by
    rw [h.policies, isHeld_cleared_iff hlisted]
    refine and_congr_left fun hheld => ?_
    rw [cleared_policies_get?, isCleared_of_isHeld hlisted hheld]
    simp
  groups group := by
    rw [h.groups, Dict.contains, cleared_groups_get?, Option.isSome_map, Dict.contains]
  attached group arn := by
    rw [h.attached, isHeld_cleared_iff hlisted]
    constructor
    · rintro ⟨hleft, hheld⟩
      rw [contains_cleared_of_attached hleft] at hheld
      exact ⟨(mem_entities_groups_cleared_iff.1 hleft).1, hheld⟩
    · rintro ⟨hattached, hheld⟩
      have hleft := mem_entities_groups_cleared_of_isHeld hlisted hattached hheld
      rw [contains_cleared_of_attached hleft]
      exact ⟨hleft, hheld⟩

/-- What a run leaves of a sound account is sound. -/
theorem isSound_cleared (failing : NameSet) (settings : ReclaimSettings) (hsound : iam.IsSound) :
    (cleared failing settings iam).IsSound := by
  intro arn left hleft
  rw [cleared_policies_get?, Option.bind_eq_some_iff] at hleft
  obtain ⟨content, harn, hleft⟩ := hleft
  have hcontent := hsound arn content harn
  split at hleft
  · rw [policyLeft, deletionLeft] at hleft
    split at hleft
    · rwa [← Option.some.inj hleft]
    · dsimp only at hleft
      split at hleft
      · simp at hleft
      · rw [← Option.some.inj hleft]
        exact isSound_trimmed failing arn hcontent
  · rwa [← Option.some.inj hleft]

/-! ## A run that does not fail -/

/-- A run that does not fail sweeps the account. -/
theorem isSwept_of_areClean (h : AreClean (clearDeeds failing settings iam)) :
    IsSwept settings iam (cleared failing settings iam) where
  toIsEmptied := isEmptied_of_areClean h
  groups group := by
    rw [Dict.contains, cleared_groups_get?, Option.isSome_map, Dict.contains]
  attached group arn := by
    obtain ⟨hboth, -⟩ := areClean_append.1 h
    obtain ⟨hroles, hpolicies⟩ := areClean_append.1 hboth
    have hlisted := (rolesLeft_of_areClean hroles).1
    constructor
    · intro hleft
      refine ⟨(mem_entities_groups_cleared_iff.1 hleft).1, fun hpolicy => ?_⟩
      by_contra hfree
      -- a policy that is not held is gone after such a run, but this one is still attached
      rw [← contains_cleared_of_attached hleft, Dict.contains, cleared_policies_get?] at hpolicy
      cases harn : iam.policies.get? arn with
      | none => simp [harn] at hpolicy
      | some content =>
        obtain ⟨hcleared, hgone⟩ := policyLeft_of_not_isHeld hroles hpolicies harn hfree
        simp [harn, hcleared, hgone] at hpolicy
    · rintro ⟨hattached, hheld⟩
      exact mem_entities_groups_cleared_of_isHeld hlisted hattached hheld

theorem refused_nothing (request : Iam.Request) : refused Dict.empty request = false := rfl

/-- A run of which nothing is refused sweeps a sound account. -/
theorem isSwept_of_isSound (settings : ReclaimSettings) (hsound : iam.IsSound) :
    IsSwept settings iam (cleared Dict.empty settings iam) :=
  isSwept_of_areClean (areClean_of_areGranted hsound
    (areGranted_iff.2 fun request _ => refused_nothing request))

/-! ## Runs in a row -/

/-- What is left of an account after runs in a row, each with the requests that are refused during
it. -/
def clearedEach (settings : ReclaimSettings) (runs : List NameSet) (iam : Iam) : Iam :=
  runs.foldl (fun iam failing => cleared failing settings iam) iam

/-- A last run of which nothing is refused sweeps the account that the first run found. -/
theorem isSwept_clearedEach {runs : List NameSet}
    (hlisted : ∀ failing ∈ runs, refused failing (.query .roles) = false) (hsound : iam.IsSound) :
    IsSwept settings iam (cleared Dict.empty settings (clearedEach settings runs iam)) := by
  induction runs generalizing iam with
  | nil => exact isSwept_of_isSound settings hsound
  | cons failing rest ih =>
    have hrest := ih (fun other hother => hlisted other (List.mem_cons_of_mem _ hother))
      (isSound_cleared failing settings hsound)
    exact hrest.of_cleared (hlisted failing List.mem_cons_self)

/-! ## Settled accounts -/

/-- A deed that removes nothing: something was listed or could not be, or was left. -/
def Deed.isLook : Deed → Bool
  | .listed _ | .unlisted .. | .left .. => true
  | .tried .. | .profiled .. => false

/-- An account is settled when it has protected roles, policies that these hold, and groups only. -/
structure IsSettled (settings : ReclaimSettings) (iam : Iam) : Prop where
  users : ∀ user, iam.users.get? user = none
  roles : ∀ role content, iam.roles.get? role = some content → isKept settings role content = true
  policies : ∀ arn content, iam.policies.get? arn = some content → IsHeld settings iam arn

/-- An account that was emptied is settled. -/
theorem IsEmptied.isSettled (h : IsEmptied settings before after) : IsSettled settings after where
  users := h.users
  roles role content hrole := (Option.filter_eq_some_iff.1 ((h.roles role).symm.trans hrole)).2
  policies arn content harn := by
    have hheld := ((h.policies arn content).1 harn).2
    rw [isHeld_iff] at hheld ⊢
    obtain ⟨role, content, hrole, hattached⟩ := hheld
    have hleft : after.roles.get? role = some content := (h.roles role).trans hrole
    refine ⟨role, content, ?_, hattached⟩
    rw [hleft, Option.filter_some]
    exact if_pos (Option.filter_eq_some_iff.1 hrole).2

theorem afterRoles_of_isSettled (failing : NameSet) (h : IsSettled settings iam) :
    afterRoles failing settings iam = iam := by
  have hroles : rolesLeft failing settings iam.roles = iam.roles := by
    rw [rolesLeft]
    split
    · rfl
    apply Dict.ext_get?
    intro role
    rw [Dict.get?_filterMap]
    cases hrole : iam.roles.get? role with
    | none => rfl
    | some content => rw [Option.bind_some, roleLeft, if_pos (h.roles role content hrole)]
  rw [afterRoles, hroles]

theorem afterPolicies_of_isSettled (hlisted : refused failing (.query .roles) = false)
    (h : IsSettled settings iam) : afterPolicies failing settings iam = iam := by
  have hkeeps : isCleared failing settings iam = fun _ => false := by
    funext arn
    cases harn : iam.policies.get? arn with
    | none =>
      have hnone : (afterRoles failing settings iam).policies.contains arn = false := by
        simp [afterRoles, Dict.contains, harn]
      rw [isCleared, isGone, hnone, Bool.and_false, Bool.false_and]
    | some content => exact isCleared_of_isHeld hlisted (h.policies arn content harn)
  rw [afterPolicies, policiesAfter, ← isCleared, hkeeps, goneAfter_nothing,
    afterRoles_of_isSettled failing h]

/-- A run that can list the roles changes nothing in a settled account, whatever else is refused. -/
theorem cleared_of_isSettled (hlisted : refused failing (.query .roles) = false)
    (h : IsSettled settings iam) : cleared failing settings iam = iam := by
  have husers : usersLeft failing iam.users = iam.users := by
    rw [usersLeft]
    split
    · rfl
    apply Dict.ext_get?
    intro user
    rw [Dict.get?_filterMap, h.users user, Option.bind_none]
  rw [cleared, afterPolicies_of_isSettled hlisted h, husers]

/-- A run that can list the roles tries to remove nothing of a settled account, whatever else is
refused. -/
theorem isLook_of_isSettled (hlisted : refused failing (.query .roles) = false)
    (h : IsSettled settings iam) :
    ∀ deed ∈ clearDeeds failing settings iam, deed.isLook = true := by
  rw [clearDeeds, afterPolicies_of_isSettled hlisted h, List.forall_mem_append,
    List.forall_mem_append]
  refine ⟨⟨?_, ?_⟩, ?_⟩
  · rw [rolesDeeds, hlisted, if_neg Bool.false_ne_true, List.forall_mem_cons,
      List.forall_mem_flatMap]
    refine ⟨rfl, fun e hentry => ?_⟩
    rw [roleDeeds, if_pos (h.roles e.1 e.2 ((Dict.mem_entries_iff _ _ _).1 hentry))]
    simp
  · rw [policiesDeeds]
    split
    · simp [Deed.isLook]
    rw [List.forall_mem_cons, List.forall_mem_flatMap]
    refine ⟨rfl, fun e hentry => ?_⟩
    -- the role that holds the policy is known, so the policy is left
    have hheld := h.policies e.1 e.2 ((Dict.mem_entries_iff _ _ _).1 hentry)
    have hprotector := mt (protector?_isNone_iff hlisted e.1).1 (not_not_intro hheld)
    rw [policyDeeds]
    split
    · simp [Deed.isLook]
    split
    · simp [Deed.isLook]
    · rename_i hnone
      simp [hnone] at hprotector
  · rw [usersDeeds]
    split
    · simp [Deed.isLook]
    rw [List.forall_mem_cons, List.forall_mem_flatMap]
    refine ⟨rfl, fun e hentry => ?_⟩
    have huser := (Dict.mem_entries_iff _ _ _).1 hentry
    simp [h.users e.1] at huser

/-- A run that does not fail is followed by another one that does not, when the same requests are
refused: what is listed again was listed before, and nothing is left to be removed. -/
theorem areClean_cleared (h : AreClean (clearDeeds failing settings iam)) :
    AreClean (clearDeeds failing settings (cleared failing settings iam)) := by
  obtain ⟨hboth, husers⟩ := areClean_append.1 h
  obtain ⟨hroles, hpolicies⟩ := areClean_append.1 hboth
  have hlisted := (rolesLeft_of_areClean hroles).1
  obtain ⟨hlocal, hpolicies⟩ := areClean_listing_iff.1 hpolicies
  have hemptied := isEmptied_of_areClean h
  have hsettled := hemptied.isSettled
  rw [clearDeeds, afterPolicies_of_isSettled hlisted hsettled]
  refine areClean_append.2 ⟨areClean_append.2 ⟨?_, ?_⟩, ?_⟩
  · refine areClean_listing_iff.2 ⟨hlisted, areClean_flatMap.2 fun e hentry => ?_⟩
    rw [roleDeeds, if_pos (hsettled.roles e.1 e.2 ((Dict.mem_entries_iff _ _ _).1 hentry))]
    simp [AreClean]
  · refine areClean_listing_iff.2 ⟨hlocal, areClean_flatMap.2 fun e hentry => ?_⟩
    -- a policy that is left was there before, and what it is attached to could be listed then
    have hleft := (Dict.mem_entries_iff _ _ _).1 hentry
    have hbefore := (Dict.mem_entries_iff _ _ _).2 ((hemptied.policies e.1 e.2).1 hleft).1
    have hentities := (policyLeft_of_areClean (areClean_flatMap.1 hpolicies e hbefore)).1
    have hprotector :=
      mt (protector?_isNone_iff hlisted e.1).1 (not_not_intro (hsettled.policies _ _ hleft))
    refine areClean_listing_iff.2 ⟨hentities, ?_⟩
    split
    · simp [AreClean, isClean]
    · rename_i hnone
      simp [hnone] at hprotector
  · refine areClean_listing_iff.2
      ⟨(areClean_listing_iff.1 husers).1, areClean_flatMap.2 fun e hentry => ?_⟩
    have huser := (Dict.mem_entries_iff _ _ _).1 hentry
    simp [hsettled.users e.1] at huser

theorem query_of_isLook {deeds : List Deed} (h : ∀ deed ∈ deeds, deed.isLook = true)
    {request : Iam.Request} (hrequest : request ∈ Deed.calls deeds) :
    ∃ query, request = .query query := by
  obtain ⟨deed, hdeed, hcall⟩ := List.mem_filterMap.1 hrequest
  have hlook := h deed hdeed
  cases deed with
  | listed query => exact ⟨query, (Option.some.inj hcall).symm⟩
  | unlisted query name => exact ⟨query, (Option.some.inj hcall).symm⟩
  | left kind name reason => simp [Deed.call?] at hcall
  | tried target reply => simp [Deed.isLook] at hlook
  | profiled user reply => simp [Deed.isLook] at hlook

theorem not_isSucceeded_of_isLook {deeds : List Deed} (h : ∀ deed ∈ deeds, deed.isLook = true)
    {artifact : Artifact} (hartifact : artifact ∈ Deed.entries deeds) :
    artifact.status.isSucceeded = false := by
  obtain ⟨deed, hdeed, hentry⟩ := List.mem_filterMap.1 hartifact
  have hlook := h deed hdeed
  cases deed with
  | listed query => simp [Deed.entry?] at hentry
  | unlisted query name =>
    rw [← Option.some.inj hentry]
    rfl
  | left kind name reason =>
    rw [← Option.some.inj hentry]
    rfl
  | tried target reply => simp [Deed.isLook] at hlook
  | profiled user reply => simp [Deed.isLook] at hlook

end Lending

open Lending

namespace World

/-- A world in which other requests to the IAM of an account are refused than before. -/
def refusing (world : World) (account : String) (failing : NameSet) : World :=
  { world with cloud := world.cloud.changeIam account fun service => { service with failing } }

theorem iamOf_refusing (world : World) (account : String) (failing : NameSet) :
    (world.refusing account failing).cloud.iamOf account =
      { world.cloud.iamOf account with failing } :=
  (Cloud.iamOf_changeIam _ _ _ _).trans (if_pos rfl)

/-- A world after an account was cleared again and again, each time with the requests that are
refused during that run. -/
def clearEach (site : Site) (settings : ReclaimSettings) (runs : List NameSet)
    (world : World) : World :=
  runs.foldl (fun world failing =>
    ((world.refusing site.session.accessKey failing).run (clear site settings)).2) world

theorem state_clearEach (site : Site) (settings : ReclaimSettings) (runs : List NameSet)
    (world : World) :
    ((world.clearEach site settings runs).cloud.iamOf site.session.accessKey).state =
      clearedEach settings runs (world.cloud.iamOf site.session.accessKey).state := by
  induction runs generalizing world with
  | nil => rfl
  | cons failing rest ih =>
    obtain ⟨-, hafter, -⟩ :=
      (world.refusing site.session.accessKey failing).run_clear site settings
    rw [iamOf_refusing] at hafter
    apply (ih _).trans
    rw [hafter]
    rfl

/-- A run of which nothing is refused, in an account that is settled and sound. -/
theorem run_clear_of_isSettled {world : World} {site : Site} {iam : Iam} {calls : List Iam.Request}
    (hservice : world.cloud.iamOf site.session.accessKey = ⟨iam, calls, Dict.empty⟩)
    (hsettled : IsSettled settings iam) (hsound : iam.IsSound) :
    ∃ deeds : List Deed, (∀ deed ∈ deeds, deed.isLook = true) ∧ Deed.AreClean deeds ∧
      (world.run (clear site settings)).1 = Deed.entries deeds ∧
      (world.run (clear site settings)).2.cloud.iamOf site.session.accessKey =
        ⟨iam, calls ++ Deed.calls deeds, Dict.empty⟩ := by
  have hlisted := refused_nothing (.query .roles)
  obtain ⟨hentries, hafter, -⟩ := world.run_clear site settings
  simp only [hservice, cleared_of_isSettled hlisted hsettled] at hentries hafter
  refine ⟨_, isLook_of_isSettled hlisted hsettled, ?_, hentries, hafter⟩
  exact areClean_of_areGranted hsound (Deed.areGranted_iff.2 fun request _ =>
    refused_nothing request)

/-- An account is cleared again and again, whose policies have one default version each and versions
of different names (`hsound`, which `IsBuilt.isSound` gives for every account that was set up).  It
does not matter what earlier runs left undone, as long as each of them could list the roles: once a
run has nothing refused, the account is what it would be after a single such run.  One more such run
leaves it as it is, removes nothing and does not fail. -/
theorem clear_again (world : World) (site : Site) (settings : ReclaimSettings)
    (hsound : (world.cloud.iamOf site.session.accessKey).state.IsSound) :
    let account := site.session.accessKey
    let once := world.clearEach site settings [Dict.empty]
    (∀ runs : List NameSet, (∀ failing ∈ runs, refused failing (.query .roles) = false) →
      ((world.clearEach site settings (runs ++ [Dict.empty])).cloud.iamOf account).state =
        (once.cloud.iamOf account).state) ∧
    let (entries, again) := (once.refusing account Dict.empty).run (clear site settings)
    (again.cloud.iamOf account).state = (once.cloud.iamOf account).state ∧
    (∃ calls, (again.cloud.iamOf account).calls = (once.cloud.iamOf account).calls ++ calls ∧
      ∀ request ∈ calls, ∃ query, request = .query query) ∧
    ∀ report : Report, report.artifacts = entries →
      report.deletedCount = 0 ∧ report.isClean = true := by
  intro account once
  have honce : (once.cloud.iamOf account).state =
      cleared Dict.empty settings (world.cloud.iamOf account).state :=
    state_clearEach site settings [Dict.empty] world
  have hswept := isSwept_of_isSound settings hsound
  constructor
  · intro runs hlisted
    have hlast : clearedEach settings (runs ++ [Dict.empty]) (world.cloud.iamOf account).state =
        cleared Dict.empty settings
          (clearedEach settings runs (world.cloud.iamOf account).state) := by
      rw [clearedEach, List.foldl_append]
      rfl
    rw [state_clearEach, hlast, honce]
    exact (isSwept_clearedEach hlisted hsound).eq hswept
  cases hrun : (once.refusing account Dict.empty).run (clear site settings) with
  | mk entries again =>
  -- the further run finds the account settled
  have hservice : (once.refusing account Dict.empty).cloud.iamOf account =
      ⟨cleared Dict.empty settings (world.cloud.iamOf account).state,
        (once.cloud.iamOf account).calls, Dict.empty⟩ := by
    rw [← honce]
    exact iamOf_refusing once account Dict.empty
  obtain ⟨deeds, hlooks, hclean, hentries, hagain⟩ := run_clear_of_isSettled hservice
    hswept.toIsEmptied.isSettled (isSound_cleared Dict.empty settings hsound)
  rw [hrun] at hentries hagain
  obtain rfl : entries = Deed.entries deeds := hentries
  have hstate := congrArg Journaled.state hagain
  have hcalls := congrArg Journaled.calls hagain
  refine ⟨hstate.trans honce.symm, ⟨Deed.calls deeds, hcalls, ?_⟩, fun report hreport => ⟨?_, ?_⟩⟩
  · exact fun request hrequest => query_of_isLook hlooks hrequest
  · rw [Report.deletedCount, hreport, List.countP_eq_zero]
    intro artifact hartifact
    rw [not_isSucceeded_of_isLook hlooks hartifact]
    exact Bool.false_ne_true
  · rw [Report.isClean_iff, hreport]
    exact Deed.areClean_iff.1 hclean

end World

/-- After a run in which some requests were refused, a run without a failure leaves nothing but the
group. -/
theorem clear_again_crowd :
    ((crowdWorld.clearEach crowdSite {} [crowdFailing, Dict.empty]).cloud.iamOf
      crowdSite.session.accessKey).state = ({} : Iam).addGroup "staff" := by
  obtain ⟨hruns, -⟩ := crowdWorld.clear_again crowdSite {} isSound_crowdWorld
  have hlisted : ∀ failing ∈ [crowdFailing],
      refused failing (.query .roles) = false := by decide +kernel
  refine (hruns [crowdFailing] hlisted).trans ?_
  decide +kernel

end AccountLending
