import Std.Data.String.ToNat
import AccountLending.Proofs.Clearing.Clean

/-!
# Accounts that were cleared without a failure

A report without a failed entry means that the account is empty but for its protected roles and the
policies that these hold.  And a clearing none of whose requests is refused has such a report, as
long as every policy of the account has exactly one default version.

* `IsEmptied` — what is left of an account that was cleared without a failure;
* `isEmptied_of_areClean` — a report without a failed entry means just that;
* `Iam.IsSound` — the accounts whose policies have one default version each;
* `versions_trimmed` — which versions of such a policy are left;
* `areClean_of_areGranted` — a clearing that is not refused anything does not fail.
-/

namespace AccountLending

namespace Iam

/-! ## Sound policies -/

/-- The versions of a policy have different names, as `versionsOf` gives them, and exactly one of
them is the default one. -/
structure Policy.IsSound (policy : Policy) : Prop where
  ids : (policy.versions.map (·.id)).Nodup
  default : policy.versions.countP (·.isDefault) = 1

/-- Every policy of an account is sound. -/
def IsSound (iam : Iam) : Prop := ∀ arn policy, iam.policies.get? arn = some policy → policy.IsSound

theorem isSound_empty : ({} : Iam).IsSound := by
  intro arn policy harn
  simp at harn

theorem isSound_versionsOf (name : String) (extra : Nat) :
    (Policy.mk name (versionsOf extra)).IsSound where
  ids := by
    have hids : (versionsOf extra).map (·.id) =
        "v1" :: (List.range extra).map fun i => "v" ++ toString (i + 2) := by
      rw [versionsOf, List.map_cons, List.map_map]
      rfl
    rw [hids, List.nodup_cons]
    constructor
    · intro hmem
      obtain ⟨i, -, hi⟩ := List.mem_map.1 hmem
      have hone : (i + 2).repr = (1 : Nat).repr := (String.append_right_inj "v").1 hi
      have := Nat.repr_injective hone
      omega
    · apply List.nodup_range.map
      intro i j hij
      have := Nat.repr_injective ((String.append_right_inj "v").1 hij)
      omega
  default := by
    rw [versionsOf, List.countP_cons, List.countP_eq_zero.2]
    · rfl
    · intro version hversion
      obtain ⟨i, -, rfl⟩ := List.mem_map.1 hversion
      exact Bool.false_ne_true

/-- Setting up a policy gives it one default version; nothing else that is set up is a policy. -/
theorem IsSound.addPolicy {iam : Iam} (h : iam.IsSound) (account name : String) (extra : Nat) :
    (iam.addPolicy account name extra).IsSound := by
  intro arn policy harn
  rw [Iam.addPolicy, Dict.get?_insert] at harn
  split at harn
  · rw [← Option.some.inj harn]
    exact isSound_versionsOf name extra
  · exact h arn policy harn

end Iam

namespace Lending

open Iam (Query Removal PolicySummary PolicyEntities VersionSummary)
open Deed

variable {failing : NameSet} {iam : Iam} {settings : ReclaimSettings} {kept : List String}

/-! ## Policies without a failure -/

theorem deletionLeft_of_areClean {policy : PolicySummary} {isReleased : Bool} {content : Iam.Policy}
    (h : AreClean (deletionDeeds failing policy isReleased content)) :
    deletionLeft failing policy isReleased content = none := by
  obtain ⟨hlisted, hclean⟩ := areClean_listing_iff.1 h
  obtain ⟨-, hlast⟩ := areClean_append.1 hclean
  have hdeleted := isClean_tried_iff.1 (hlast _ (List.mem_singleton_self _))
  rw [deletionLeft, hlisted, if_neg Bool.false_ne_true]
  dsimp only
  rw [hdeleted]

/-- A policy is left alone when it is attached to a role that is known to be protected, and is gone
otherwise. -/
theorem policyLeft_of_areClean {policy : PolicySummary} {content : Iam.Policy}
    (h : AreClean (policyDeeds failing settings kept iam policy content)) :
    refused failing (.query (.policyEntities policy.arn)) = false ∧
      (protector? settings kept (iam.entities policy.arn) = none →
        policyLeft failing iam policy content = none) := by
  obtain ⟨hlisted, hclean⟩ := areClean_listing_iff.1 h
  refine ⟨hlisted, fun hprotector => ?_⟩
  rw [hprotector] at hclean
  exact deletionLeft_of_areClean (areClean_append.1 hclean).2

/-! ## Versions of a policy -/

/-- Deleting a version of a sound policy that is not the default one. -/
theorem withoutVersion_of_mem {content : Iam.Policy} {version : VersionSummary} (arn : String)
    (hids : (content.versions.map (·.id)).Nodup) (hmem : version ∈ content.versions)
    (hold : version.isDefault = false) :
    Iam.withoutVersion content arn version.id =
      .ok { content with versions := content.versions.eraseP (·.id = version.id) } := by
  have hfind : content.versions.find? (·.id = version.id) = some version := by
    cases hfound : content.versions.find? (·.id = version.id) with
    | none => exact absurd (by simp) (List.find?_eq_none.1 hfound version hmem)
    | some found =>
      have hid : found.id = version.id := by simpa using List.find?_some hfound
      rw [List.inj_on_of_nodup_map hids (List.mem_of_find?_eq_some hfound) hmem hid]
  rw [Iam.withoutVersion, hfind]
  simp [hold]

theorem eraseP_eq_filter {versions : List VersionSummary} (hids : (versions.map (·.id)).Nodup)
    (id : String) :
    versions.eraseP (·.id = id) = versions.filter fun version => !decide (version.id = id) := by
  induction versions with
  | nil => rfl
  | cons version rest ih =>
    obtain ⟨hnew, hnodup⟩ := List.nodup_cons.1 hids
    by_cases hid : version.id = id
    · have hall : ∀ other ∈ rest, (!decide (other.id = id)) = true := by
        intro other hother
        have hne : ¬ other.id = id :=
          fun heq => hnew (List.mem_map.2 ⟨other, hother, heq.trans hid.symm⟩)
        simpa using hne
      rw [List.eraseP_cons_of_pos (by simpa using hid),
        List.filter_cons_of_neg (by simpa using hid), List.filter_eq_self.2 hall]
    · rw [List.eraseP_cons_of_neg (by simpa using hid),
        List.filter_cons_of_pos (by simpa using hid), ih hnodup]

/-- When the first of several old versions has been deleted, the others are still there. -/
theorem mem_versions_erased {version : VersionSummary} {rest versions : List VersionSummary}
    (holds : ((version :: rest).map (·.id)).Nodup)
    (hmem : ∀ other ∈ version :: rest, other ∈ versions ∧ other.isDefault = false) :
    ∀ other ∈ rest, other ∈ versions.eraseP (·.id = version.id) ∧ other.isDefault = false := by
  intro other hother
  obtain ⟨hnew, -⟩ := List.nodup_cons.1 holds
  obtain ⟨hthere, hold⟩ := hmem other (List.mem_cons_of_mem _ hother)
  have hne : ¬ other.id = version.id := fun heq => hnew (List.mem_map.2 ⟨other, hother, heq⟩)
  exact ⟨(List.mem_eraseP_of_neg (by simpa using hne)).2 hthere, hold⟩

/-- Of the versions that are to be deleted, those are left whose deletion is refused.  The versions
have different names, so deleting one of them leaves the others. -/
theorem versions_versionsLeft {arn : String} {olds : List VersionSummary} {content : Iam.Policy}
    (hids : (content.versions.map (·.id)).Nodup) (holds : (olds.map (·.id)).Nodup)
    (hmem : ∀ version ∈ olds, version ∈ content.versions ∧ version.isDefault = false) :
    (versionsLeft failing arn olds content).versions = content.versions.filter fun version =>
      !(olds.map (·.id)).contains version.id ||
        refused failing (.remove (.deleteVersion arn version.id)) := by
  induction olds generalizing content with
  | nil => simp [versionsLeft]
  | cons version rest ih =>
    have hnodup := (List.nodup_cons.1 holds).2
    obtain ⟨hversion, hold⟩ := hmem version List.mem_cons_self
    have hcons : versionsLeft failing arn (version :: rest) content =
        versionsLeft failing arn rest (versionOutcome failing arn version.id content).2 := rfl
    rw [hcons, versionOutcome]
    cases hrefused : refused failing (.remove (.deleteVersion arn version.id)) with
    | true =>
      rw [if_pos rfl, ih hids hnodup fun other hother => hmem other (List.mem_cons_of_mem _ hother)]
      refine List.filter_congr fun other _ => ?_
      by_cases heq : other.id = version.id
      · simp [heq, hrefused]
      · simp [heq]
    | false =>
      rw [if_neg Bool.false_ne_true, withoutVersion_of_mem arn hids hversion hold]
      dsimp only
      rw [ih (hids.sublist (List.eraseP_sublist.map _)) hnodup (mem_versions_erased holds hmem),
        eraseP_eq_filter hids, List.filter_filter]
      refine List.filter_congr fun other _ => ?_
      by_cases heq : other.id = version.id
      · simp [heq, hrefused]
      · simp [heq]

/-- Of a sound policy the default version is left, and those old ones whose deletion is refused. -/
theorem versions_trimmed (failing : NameSet) (arn : String) {content : Iam.Policy}
    (hsound : content.IsSound) :
    (versionsLeft failing arn (oldOf content) content).versions =
      content.versions.filter fun version =>
      version.isDefault || refused failing (.remove (.deleteVersion arn version.id)) := by
  have holds : ((oldOf content).map (·.id)).Nodup := hsound.ids.sublist (List.filter_sublist.map _)
  rw [versions_versionsLeft hsound.ids holds fun version hversion =>
    by simpa [oldOf] using hversion]
  refine List.filter_congr fun version hversion => ?_
  -- a version is among the old ones exactly when its name is
  have hold : ((oldOf content).map (·.id)).contains version.id = !version.isDefault := by
    rw [Bool.eq_iff_iff, List.contains_iff_mem, List.mem_map]
    constructor
    · rintro ⟨other, hother, hid⟩
      obtain ⟨hother, hdefault⟩ := List.mem_filter.1 hother
      rwa [List.inj_on_of_nodup_map hsound.ids hversion hother hid.symm]
    · exact fun hdefault => ⟨version, List.mem_filter.2 ⟨hversion, hdefault⟩, rfl⟩
  rw [hold, Bool.not_not]

/-- What is left of a sound policy is sound. -/
theorem isSound_trimmed (failing : NameSet) (arn : String) {content : Iam.Policy}
    (hsound : content.IsSound) : (versionsLeft failing arn (oldOf content) content).IsSound := by
  constructor
  · rw [versions_trimmed failing arn hsound]
    exact hsound.ids.sublist (List.filter_sublist.map _)
  · rw [versions_trimmed failing arn hsound, List.countP_filter, ← hsound.default]
    refine List.countP_congr fun version _ => ?_
    cases version.isDefault <;> simp

/-- A sound policy has one version left exactly when no deletion of an old one is refused. -/
theorem length_trimmed_le_one_iff (failing : NameSet) (arn : String) {content : Iam.Policy}
    (hsound : content.IsSound) :
    (versionsLeft failing arn (oldOf content) content).versions.length ≤ 1 ↔
      ∀ version ∈ oldOf content,
        refused failing (.remove (.deleteVersion arn version.id)) = false := by
  let left := (versionsLeft failing arn (oldOf content) content).versions
  have hdefault : left.countP (·.isDefault) = 1 := (isSound_trimmed failing arn hsound).default
  have hlength := left.length_eq_countP_add_countP fun version => version.isDefault
  have hnone :
      left.length ≤ 1 ↔ left.countP (fun version => ¬ version.isDefault = true) = 0 := by omega
  have hleft : left = content.versions.filter _ := versions_trimmed failing arn hsound
  rw [hnone, hleft, List.countP_filter, List.countP_eq_zero]
  simp only [oldOf, List.mem_filter, and_imp]
  refine forall₂_congr fun version _ => ?_
  cases version.isDefault <;>
    cases refused failing (.remove (.deleteVersion arn version.id)) <;> simp

/-! ## Policies that are not refused anything -/

theorem granted_of_areGranted_versions {policy : PolicySummary} {olds : List VersionSummary}
    {content : Iam.Policy} (h : AreGranted failing (versionDeeds failing policy olds content)) :
    ∀ version ∈ olds, refused failing (.remove (.deleteVersion policy.arn version.id)) = false := by
  induction olds generalizing content with
  | nil => exact fun version hversion => absurd hversion List.not_mem_nil
  | cons version rest ih =>
    obtain ⟨hgranted, hrest⟩ := areGranted_cons.1 h
    have hallowed := isGranted_tried_iff.1 hgranted
    exact List.forall_mem_cons.2 ⟨hallowed, ih hrest⟩

/-- Old versions of a policy are deleted one after the other.  The versions that are left keep their
different names, so each of the rest is still found when its turn comes. -/
theorem versions_areClean_of_granted {policy : PolicySummary} {olds : List VersionSummary}
    {content : Iam.Policy} (hids : (content.versions.map (·.id)).Nodup)
    (holds : (olds.map (·.id)).Nodup)
    (hmem : ∀ version ∈ olds, version ∈ content.versions ∧ version.isDefault = false)
    (hgranted : ∀ version ∈ olds,
      refused failing (.remove (.deleteVersion policy.arn version.id)) = false) :
    AreClean (versionDeeds failing policy olds content) := by
  induction olds generalizing content with
  | nil => simp [versionDeeds, AreClean]
  | cons version rest ih =>
    obtain ⟨hversion, hold⟩ := hmem version List.mem_cons_self
    obtain ⟨hallowed, hrest⟩ := List.forall_mem_cons.1 hgranted
    have houtcome : versionOutcome failing policy.arn version.id content =
        (.ok (), { content with versions := content.versions.eraseP (·.id = version.id) }) := by
      rw [versionOutcome, hallowed, if_neg Bool.false_ne_true,
        withoutVersion_of_mem _ hids hversion hold]
    rw [versionDeeds, areClean_cons, houtcome]
    exact ⟨rfl, ih (hids.sublist (List.eraseP_sublist.map _)) (List.nodup_cons.1 holds).2
      (mem_versions_erased holds hmem) hrest⟩

/-- A sound policy that is detached from everything is deleted. -/
theorem deletion_areClean_of_areGranted {policy : PolicySummary} {content : Iam.Policy}
    (hsound : content.IsSound)
    (h : AreGranted failing (deletionDeeds failing policy true content)) :
    AreClean (deletionDeeds failing policy true content) := by
  obtain ⟨hlisted, hgranted⟩ := of_areGranted_listing h
  obtain ⟨hversions, hlast⟩ := areGranted_append.1 hgranted
  have hallowed := isGranted_tried_iff.1 (hlast _ (List.mem_singleton_self _))
  dsimp only at hallowed
  have hold := granted_of_areGranted_versions hversions
  have hclean : AreClean (versionDeeds failing policy (oldOf content) content) :=
    versions_areClean_of_granted hsound.ids (hsound.ids.sublist (List.filter_sublist.map _))
      (fun version hversion => by simpa [oldOf] using hversion) hold
  -- all versions but the default one were deleted, which leaves one
  have hone := (length_trimmed_le_one_iff failing policy.arn hsound).2 hold
  rw [deletionDeeds, areClean_listing_iff, areClean_append]
  refine ⟨hlisted, hclean, fun deed hdeed => ?_⟩
  rw [List.mem_singleton.1 hdeed, isClean_tried_iff, policyDeletion, hallowed,
    if_neg Bool.false_ne_true, if_pos (by simpa using hone)]

theorem policy_areClean_of_areGranted {policy : PolicySummary} {content : Iam.Policy}
    (hsound : content.IsSound)
    (h : AreGranted failing (policyDeeds failing settings kept iam policy content)) :
    AreClean (policyDeeds failing settings kept iam policy content) := by
  obtain ⟨hlisted, hgranted⟩ := of_areGranted_listing h
  refine areClean_listing_iff.2 ⟨hlisted, ?_⟩
  split at hgranted
  · simp [AreClean, isClean]
  · obtain ⟨hattachments, hdeletion⟩ := areGranted_append.1 hgranted
    have htargets : ∀ target ∈ attachments policy (iam.entities policy.arn),
        refused failing (.remove target.removal) = false :=
      fun target htarget => isGranted_tried_iff.1 (hattachments _ (List.mem_map_of_mem htarget))
    -- nothing is refused, so the policy is detached from everything before it is deleted
    have hreleased : isReleased failing policy (iam.entities policy.arn) = true := by
      apply List.all_eq_true.2
      intro target htarget
      rw [htargets target htarget]
      rfl
    rw [hreleased] at hdeletion ⊢
    refine areClean_append.2 ⟨fun deed hdeed => ?_,
      deletion_areClean_of_areGranted hsound hdeletion⟩
    obtain ⟨target, htarget, rfl⟩ := List.mem_map.1 hdeed
    exact isClean_tried_iff.2 (granted_of_not_refused (htargets target htarget))

/-! ## The whole account -/

/-- Whether a policy is attached to a protected role. -/
def IsHeld (settings : ReclaimSettings) (iam : Iam) (arn : String) : Prop :=
  ∃ role content, iam.roles.get? role = some content ∧ isKept settings role content = true ∧
    content.attached.contains arn = true

/-- An account has been emptied: there is no user, the roles are the protected ones with all that
they had, and the policies are those that a protected role holds. -/
structure IsEmptied (settings : ReclaimSettings) (before after : Iam) : Prop where
  users : ∀ user, after.users.get? user = none
  roles : ∀ role, after.roles.get? role =
    (before.roles.get? role).filter fun content => isProtectedRole settings ⟨role, content.path⟩
  policies : ∀ arn policy, after.policies.get? arn = some policy ↔
    before.policies.get? arn = some policy ∧ IsHeld settings before arn

/-- When the roles could be listed, a policy is known to be held exactly when it is. -/
theorem protector?_isNone_iff (hlisted : refused failing (.query .roles) = false) (arn : String) :
    (protector? settings (keptNames failing settings iam)
        ((afterRoles failing settings iam).entities arn)).isNone = true ↔
          ¬ IsHeld settings iam arn := by
  rw [Option.isNone_iff_eq_none, protector?, List.find?_eq_none]
  have hknown : ∀ role content, iam.roles.get? role = some content →
      (role ∈ keptNames failing settings iam ↔ isKept settings role content = true) := by
    intro role content hrole
    rw [keptNames, hlisted, if_neg Bool.false_ne_true, Dict.mem_map_fst_filter hrole]
  constructor
  · rintro hnone ⟨role, content, hrole, hkept, hattached⟩
    -- a protected role was listed, so its name is known
    have hmem : role ∈ ((afterRoles failing settings iam).entities arn).roles :=
      mem_entities_roles_iff.2 ⟨content, rolesLeft_get? failing hrole hkept, hattached⟩
    exact hnone role hmem (by simp [(hknown role content hrole).2 hkept])
  · intro hfree role hmem
    obtain ⟨left, hleft, hattached⟩ := mem_entities_roles_iff.1 hmem
    rw [afterRoles, rolesLeft, hlisted, if_neg Bool.false_ne_true, Dict.get?_filterMap,
      Option.bind_eq_some_iff] at hleft
    obtain ⟨content, hrole, hleft⟩ := hleft
    rw [roleLeft] at hleft
    cases hkept : isKept settings role content with
    | true =>
      rw [hkept, if_pos rfl] at hleft
      obtain rfl := Option.some.inj hleft
      exact absurd ⟨role, content, hrole, hkept, hattached⟩ hfree
    | false =>
      -- a role that is not protected is not protected by its name either
      have hunknown := mt (hknown role content hrole).1 (ne_true_of_eq_false hkept)
      rw [isKept, isProtectedRole, Bool.or_eq_false_iff] at hkept
      simp [hunknown, hkept.2]

theorem isCleared_of_isHeld (hlisted : refused failing (.query .roles) = false) {arn : String}
    (hheld : IsHeld settings iam arn) : isCleared failing settings iam arn = false := by
  have hprotected := mt (protector?_isNone_iff hlisted arn).1 (not_not_intro hheld)
  rw [Bool.not_eq_true] at hprotected
  rw [isCleared, isGone, isReached, hprotected, Bool.and_false, Bool.and_false]

/-- A protected role keeps all that it has, since whatever is attached to it is held by it. -/
theorem cleared_roles_of_isKept (hlisted : refused failing (.query .roles) = false) {role : String}
    {content : Iam.Role} (hrole : iam.roles.get? role = some content)
    (hkept : isKept settings role content = true) :
    (cleared failing settings iam).roles.get? role = some content := by
  have hsurvivors : roleHolder.survivors failing (isCleared failing settings iam) role content =
      content.attached := by
    apply NameSet.keep_eq_self
    intro arn harn
    rw [isCleared_of_isHeld hlisted ⟨role, content, hrole, hkept, harn⟩]
    rfl
  rw [cleared_roles_get?, rolesLeft_get? failing hrole hkept, Option.map_some, hsurvivors]

/-- A policy that no protected role holds is cleared, and nothing is left of it. -/
theorem policyLeft_of_not_isHeld (hroles : AreClean (rolesDeeds failing settings iam.roles))
    (hpolicies : AreClean (policiesDeeds failing settings (keptNames failing settings iam)
      (afterRoles failing settings iam)))
    {arn : String} {content : Iam.Policy} (harn : iam.policies.get? arn = some content)
    (hfree : ¬ IsHeld settings iam arn) :
    isCleared failing settings iam arn = true ∧
      policyLeft failing (afterRoles failing settings iam) ⟨content.name, arn⟩ content = none := by
  obtain ⟨hlisted, hclean⟩ := areClean_listing_iff.1 hpolicies
  obtain ⟨hentities, hgone⟩ := policyLeft_of_areClean
    (areClean_flatMap.1 hclean _ ((Dict.mem_entries_iff iam.policies arn content).2 harn))
  have hnone := (protector?_isNone_iff (rolesLeft_of_areClean hroles).1 arn).2 hfree
  constructor
  · rw [isCleared, isGone, isReached, hnone, hlisted, hentities]
    simp [afterRoles, Dict.contains, harn]
  · exact hgone (Option.isNone_iff_eq_none.1 hnone)

/-- A report without a failed entry means that the account has been emptied. -/
theorem isEmptied_of_areClean (h : AreClean (clearDeeds failing settings iam)) :
    IsEmptied settings iam (cleared failing settings iam) := by
  obtain ⟨hboth, husers⟩ := areClean_append.1 h
  obtain ⟨hroles, hpolicies⟩ := areClean_append.1 hboth
  obtain ⟨hlisted, hrolesLeft⟩ := rolesLeft_of_areClean hroles
  constructor
  · exact usersLeft_of_areClean husers
  · intro role
    cases hrole : iam.roles.get? role with
    | none => rw [cleared_roles_get?, hrolesLeft, hrole, Option.filter_none, Option.map_none,
      Option.filter_none]
    | some content =>
      rw [Option.filter_some]
      cases hkept : isKept settings role content with
      | false =>
        rw [cleared_roles_get?, hrolesLeft, hrole, Option.filter_some, hkept,
          if_neg Bool.false_ne_true]
        exact (if_neg (ne_true_of_eq_false hkept)).symm
      | true =>
        rw [cleared_roles_of_isKept hlisted hrole hkept]
        exact (if_pos hkept).symm
  · intro arn policy
    rw [cleared_policies_get?]
    cases harn : iam.policies.get? arn with
    | none => simp
    | some content =>
      rw [Option.bind_some]
      by_cases hheld : IsHeld settings iam arn
      · rw [isCleared_of_isHeld hlisted hheld, if_neg Bool.false_ne_true, and_iff_left hheld]
      · obtain ⟨hcleared, hleft⟩ := policyLeft_of_not_isHeld hroles hpolicies harn hheld
        rw [hcleared, if_pos rfl, hleft]
        simp [hheld]

/-- A clearing none of whose requests is refused does not fail. -/
theorem areClean_of_areGranted (hsound : iam.IsSound)
    (h : AreGranted failing (clearDeeds failing settings iam)) :
    AreClean (clearDeeds failing settings iam) := by
  obtain ⟨hboth, husers⟩ := areGranted_append.1 h
  obtain ⟨hroles, hpolicies⟩ := areGranted_append.1 hboth
  refine areClean_append.2 ⟨areClean_append.2 ⟨?_, ?_⟩, ?_⟩
  · obtain ⟨hlisted, hgranted⟩ := of_areGranted_listing hroles
    refine areClean_listing_iff.2 ⟨hlisted, areClean_flatMap.2 ?_⟩
    rintro ⟨role, content⟩ hentry
    have hrole := areGranted_flatMap.1 hgranted _ hentry
    unfold roleDeeds at hrole ⊢
    split
    · simp [AreClean]
    · rename_i hnot
      rw [if_neg hnot] at hrole
      exact role_areClean_of_areGranted hrole
  · obtain ⟨hlisted, hgranted⟩ := of_areGranted_listing hpolicies
    refine areClean_listing_iff.2 ⟨hlisted, areClean_flatMap.2 ?_⟩
    rintro ⟨arn, content⟩ hentry
    have hcontent := hsound arn content ((Dict.mem_entries_iff iam.policies arn content).1 hentry)
    exact policy_areClean_of_areGranted hcontent (areGranted_flatMap.1 hgranted _ hentry)
  · obtain ⟨hlisted, hgranted⟩ := of_areGranted_listing husers
    refine areClean_listing_iff.2 ⟨hlisted, areClean_flatMap.2 ?_⟩
    rintro ⟨user, content⟩ hentry
    exact user_areClean_of_areGranted (areGranted_flatMap.1 hgranted _ hentry)

end Lending

end AccountLending
