import AccountLending.Proofs.Clearing.Principals

/-!
# How managed policies are removed

Every policy of an account is detached from users, groups and roles, loses its old versions and is
then deleted, unless it is attached to a role that is known to be protected.  A policy is only
detached under its own resource name, so policies do not disturb each other.

* `Holder` — users, groups and roles, as far as policies are attached to them;
* `isReached` — whether a policy is detached at all;
* `policiesAfter`, `policiesDeeds` — what is left of the account, and what is done;
* `does_removePolicies` — the run.
-/

namespace AccountLending.Lending

open Iam (Query Removal PolicySummary PolicyEntities VersionSummary)

variable {ρ : Type}

/-! ## Attachments -/

/-- A kind of principals that policies can be attached to. -/
structure Holder (ρ : Type) where
  /-- What stands between the names of policy and principal in an entry. -/
  word : String
  removal : String → String → Removal
  attached : ρ → NameSet
  set : NameSet → ρ → ρ

namespace Holder

/-- The principals that a policy is attached to. -/
def names (holder : Holder ρ) (arn : String) (d : Dict ρ) : List String :=
  (d.entries.filter fun e => (holder.attached e.2).contains arn).map Prod.fst

/-- The attachment of a policy to a principal. -/
def target (holder : Holder ρ) (policy : PolicySummary) (name : String) : Target :=
  ⟨.policyAttachment, policy.name ++ holder.word ++ name, holder.removal name policy.arn⟩

theorem mem_names_iff (holder : Holder ρ) {arn : String} {d : Dict ρ} {name : String} :
    name ∈ holder.names arn d ↔ ∃ x,
      d.get? name = some x ∧ (holder.attached x).contains arn = true := by
  simp only [names, List.mem_map, List.mem_filter]
  constructor
  · rintro ⟨⟨key, x⟩, ⟨hentry, hattached⟩, rfl⟩
    exact ⟨x, (Dict.mem_entries_iff d key x).1 hentry, hattached⟩
  · rintro ⟨x, hname, hattached⟩
    exact ⟨(name, x), ⟨(Dict.mem_entries_iff d name x).2 hname, hattached⟩, rfl⟩

/-- How an account answers about the principals of a kind, where `place` is the account with
them. -/
structure Holds (holder : Holder ρ) (place : Dict ρ → Iam) : Prop where
  attached_set : ∀ names x, holder.attached (holder.set names x) = names
  set_attached : ∀ x, holder.set (holder.attached x) x = x
  set_set : ∀ names others x, holder.set names (holder.set others x) = holder.set names x
  removed : ∀ d name x arn, d.get? name = some x → (holder.attached x).contains arn = true →
    (place d).apply (holder.removal name arn) =
      .ok (place (d.put name (some (holder.set ((holder.attached x).erase arn) x))))

/-- The attachments of a principal that are left when some policies were to be detached. -/
def survivors (failing : NameSet) (holder : Holder ρ) (gone : String → Bool)
    (name : String) (x : ρ) : NameSet :=
  (holder.attached x).keep fun arn =>
    !gone arn || refused failing (.remove (holder.removal name arn))

/-- The principals after some policies were to be detached. -/
def after (failing : NameSet) (holder : Holder ρ) (gone : String → Bool) (d : Dict ρ) : Dict ρ :=
  d.each fun name x => holder.set (holder.survivors failing gone name x) x

variable {failing : NameSet} {holder : Holder ρ} {place : Dict ρ → Iam} {site : Site}

theorem after_nothing (h : holder.Holds place) (d : Dict ρ) :
    holder.after failing (fun _ => false) d = d := by
  apply Dict.ext_get?
  intro name
  rw [after, Dict.get?_each]
  cases d.get? name with
  | none => rfl
  | some x =>
    have hall : holder.survivors failing (fun _ => false) name x = holder.attached x :=
      NameSet.keep_eq_self fun _ _ => rfl
    rw [Option.map_some, hall, h.set_attached]

/-- A policy is attached to the same principals as before, when only others were to be detached. -/
theorem names_after (failing : NameSet) (h : holder.Holds place) {gone : String → Bool}
    {arn : String} (harn : gone arn = false) (d : Dict ρ) :
    holder.names arn (holder.after failing gone d) = holder.names arn d := by
  unfold names after
  rw [Dict.entries_each, List.filter_map, List.map_map]
  -- the filter only asks about `arn`, which is not among those that go
  refine congrArg (List.map Prod.fst) (List.filter_congr fun e _ => ?_)
  simp [h.attached_set, survivors, harn]

/-- A policy is detached from all principals from which this is not refused. -/
theorem isEmpty_names_after (failing : NameSet) (h : holder.Holds place) (arn : String)
    (d : Dict ρ) :
    (holder.names arn (holder.after failing (fun other => other = arn) d)).isEmpty =
      (holder.names arn d).all fun name =>
        !refused failing (.remove (holder.removal name arn)) := by
  have hmem : ∀ name, name ∈ holder.names arn (holder.after failing (fun other => other = arn) d) ↔
      name ∈ holder.names arn d ∧ refused failing (.remove (holder.removal name arn)) = true := by
    intro name
    rw [mem_names_iff, mem_names_iff, after, Dict.get?_each]
    cases d.get? name <;> simp [h.attached_set, survivors]
  rw [Bool.eq_iff_iff, List.isEmpty_iff, List.all_eq_true, List.eq_nil_iff_forall_not_mem]
  simp only [hmem, not_and, Bool.not_eq_true, Bool.not_eq_eq_eq_not, Bool.not_true]

/-- Detaching one policy more. -/
theorem after_or (h : holder.Holds place) (gone more : String → Bool) (d : Dict ρ) :
    holder.after failing more (holder.after failing gone d) =
      holder.after failing (fun arn => gone arn || more arn) d := by
  apply Dict.ext_get?
  intro name
  rw [after, Dict.get?_each, after, Dict.get?_each, after, Dict.get?_each]
  cases d.get? name with
  | none => rfl
  | some x =>
    simp only [Option.map_some, h.set_set]
    refine congrArg (fun names => some (holder.set names x)) (NameSet.ext_contains fun arn => ?_)
    simp only [survivors, h.attached_set, NameSet.contains_keep]
    cases gone arn <;> cases more arn <;> simp

/-- What is left of a principal after a policy was to be detached from it. -/
def detach (holder : Holder ρ) (failing : NameSet) (arn name : String) (x : ρ) : ρ :=
  if refused failing (.remove (holder.removal name arn)) then x
  else holder.set ((holder.attached x).erase arn) x

theorem survivors_single (failing : NameSet) (arn name : String) (x : ρ) :
    holder.survivors failing (fun other => other = arn) name x =
      if refused failing (.remove (holder.removal name arn)) then holder.attached x
      else (holder.attached x).erase arn := by
  apply NameSet.ext_contains
  intro other
  rw [survivors, NameSet.contains_keep]
  by_cases heq : other = arn
  · subst heq
    split <;> simp_all [NameSet.contains_erase]
  · split <;> simp [heq, NameSet.contains_erase]

/-- Detaching a policy from those that it is attached to is detaching it from all. -/
theorem detach_eq (failing : NameSet) (h : holder.Holds place) (arn name : String) (x : ρ) :
    (if (holder.attached x).contains arn then some (holder.detach failing arn name x) else some x) =
      some (holder.set (holder.survivors failing (fun other => other = arn) name x) x) := by
  rw [survivors_single]
  unfold detach
  split
  · split
    · rw [h.set_attached]
    · rfl
  · rename_i hnot
    have herase : (holder.attached x).erase arn = holder.attached x := by
      apply NameSet.ext_contains
      intro other
      rw [NameSet.contains_erase]
      by_cases heq : other = arn <;> simp_all
    rw [herase, ite_self, h.set_attached]

theorem does_attempt_detach (failing : NameSet) (site : Site) (h : holder.Holds place)
    (policy : PolicySummary) {d : Dict ρ} {name : String} {x : ρ} (hname : d.get? name = some x)
    (hattached : (holder.attached x).contains policy.arn = true) :
    Does failing (attempt site (holder.target policy name)) (place d)
      [.tried (holder.target policy name) (granted failing (holder.removal name policy.arn))]
      (place (d.put name (some (holder.detach failing policy.arn name x)))) := by
  have hattempt : Does failing (attempt site (holder.target policy name)) (place d) _ _ :=
    does_attempt_of_apply failing site (h.removed d name x policy.arn hname hattached)
  have hafter : (if refused failing (.remove (holder.removal name policy.arn)) then place d
      else place (d.put name (some (holder.set ((holder.attached x).erase policy.arn) x)))) =
        place (d.put name (some (holder.detach failing policy.arn name x))) := by
    unfold detach
    split
    · rw [← hname, Dict.put_get?]
    · rfl
  rw [← hafter]
  exact hattempt

/-- A policy is detached from all principals of a kind. -/
theorem does_detach (failing : NameSet) (site : Site) (h : holder.Holds place)
    (policy : PolicySummary) (d : Dict ρ) :
    Does failing (forEach (attempt site) ((holder.names policy.arn d).map (holder.target policy)))
      (place d)
      ((holder.names policy.arn d).map fun name =>
        .tried (holder.target policy name) (granted failing (holder.removal name policy.arn)))
      (place (holder.after failing (fun arn => arn = policy.arn) d)) := by
  have hentries := does_forEach_entries failing d place
    (fun e => (holder.attached e.2).contains policy.arn) (fun e => holder.target policy e.1)
    (attempt site)
    (fun e => [.tried (holder.target policy e.1) (granted failing (holder.removal e.1 policy.arn))])
    (fun name x => some (holder.detach failing policy.arn name x))
    (fun _ _ _ _ hname hattached => does_attempt_detach failing site h policy hname hattached)
  have hitems : (holder.names policy.arn d).map (holder.target policy) =
      (d.entries.filter fun e => (holder.attached e.2).contains policy.arn).map fun e =>
        holder.target policy e.1 := by
    rw [names, List.map_map]
    rfl
  have hdeeds : ((holder.names policy.arn d).map fun name =>
      Deed.tried (holder.target policy name) (granted failing (holder.removal name policy.arn))) =
      (d.entries.filter fun e => (holder.attached e.2).contains policy.arn).flatMap fun e =>
        [.tried (holder.target policy e.1) (granted failing (holder.removal e.1 policy.arn))] := by
    rw [names, List.map_map, List.map_eq_flatMap]
    rfl
  simp only [detach_eq failing h] at hentries
  rw [hitems, hdeeds]
  exact hentries

end Holder

/-- The users of an account. -/
def userHolder : Holder Iam.User where
  word := "/user/"
  removal := .detachUserPolicy
  attached := (·.attached)
  set names user := { user with attached := names }

/-- The groups of an account. -/
def groupHolder : Holder NameSet where
  word := "/group/"
  removal := .detachGroupPolicy
  attached names := names
  set names _ := names

/-- The roles of an account. -/
def roleHolder : Holder Iam.Role where
  word := "/role/"
  removal := .detachRolePolicy
  attached := (·.attached)
  set names role := { role with attached := names }

theorem userHolder_holds (iam : Iam) : userHolder.Holds fun users => { iam with users } where
  attached_set _ _ := rfl
  set_attached _ := rfl
  set_set _ _ _ := rfl
  removed d name x arn hname hattached := by
    simp only [userHolder] at hattached
    simp only [userHolder, Iam.apply, Iam.user, hname, Iam.without, hattached, bind,
      Except.bind, pure, Except.pure, if_true, Iam.changeUser, Dict.modify_of_get? hname]

theorem groupHolder_holds (iam : Iam) : groupHolder.Holds fun groups => { iam with groups } where
  attached_set _ _ := rfl
  set_attached _ := rfl
  set_set _ _ _ := rfl
  removed d name x arn hname hattached := by
    simp only [groupHolder] at hattached
    simp only [groupHolder, Iam.apply, hname, Iam.without, hattached, bind, Except.bind, pure,
      Except.pure, if_true, Iam.changeGroup, Dict.modify_of_get? hname]

theorem roleHolder_holds (iam : Iam) : roleHolder.Holds fun roles => { iam with roles } where
  attached_set _ _ := rfl
  set_attached _ := rfl
  set_set _ _ _ := rfl
  removed d name x arn hname hattached := by
    simp only [roleHolder] at hattached
    simp only [roleHolder, Iam.apply, Iam.role, hname, Iam.without, hattached, bind,
      Except.bind, pure, Except.pure, if_true, Iam.changeRole, Dict.modify_of_get? hname]

/-- An account after some policies were to be detached from everything. -/
def detachedAfter (failing : NameSet) (gone : String → Bool) (iam : Iam) : Iam :=
  { iam with
    users := userHolder.after failing gone iam.users
    groups := groupHolder.after failing gone iam.groups
    roles := roleHolder.after failing gone iam.roles }

variable {failing : NameSet} {iam : Iam} {site : Site}

theorem detachedAfter_nothing : detachedAfter failing (fun _ => false) iam = iam := by
  rw [detachedAfter, Holder.after_nothing (userHolder_holds iam),
    Holder.after_nothing (groupHolder_holds iam), Holder.after_nothing (roleHolder_holds iam)]

theorem detachedAfter_or (gone more : String → Bool) :
    detachedAfter failing more (detachedAfter failing gone iam) =
      detachedAfter failing (fun arn => gone arn || more arn) iam := by
  simp only [detachedAfter, Holder.after_or (userHolder_holds iam),
    Holder.after_or (groupHolder_holds iam), Holder.after_or (roleHolder_holds iam)]

theorem entities_detachedAfter {gone : String → Bool} {arn : String} (harn : gone arn = false) :
    (detachedAfter failing gone iam).entities arn = iam.entities arn := by
  have husers := Holder.names_after failing (userHolder_holds iam) harn iam.users
  have hgroups := Holder.names_after failing (groupHolder_holds iam) harn iam.groups
  have hroles := Holder.names_after failing (roleHolder_holds iam) harn iam.roles
  show (⟨userHolder.names arn _, groupHolder.names arn _,
    roleHolder.names arn _⟩ : PolicyEntities) =
    ⟨userHolder.names arn _, groupHolder.names arn _, roleHolder.names arn _⟩
  rw [← husers, ← hgroups, ← hroles]
  rfl

/-- What is done to detach a policy from everything. -/
def attachmentDeeds (failing : NameSet) (policy : PolicySummary) (entities : PolicyEntities) :
    List Deed :=
  (attachments policy entities).map fun target => .tried target (granted failing target.removal)

theorem does_attachments (policy : PolicySummary) :
    Does failing (forEach (attempt site) (attachments policy (iam.entities policy.arn))) iam
      (attachmentDeeds failing policy (iam.entities policy.arn))
      (detachedAfter failing (fun arn => arn = policy.arn) iam) := by
  let gone (arn : String) : Bool := arn = policy.arn
  let users : Iam := { iam with users := userHolder.after failing gone iam.users }
  let groups : Iam := { users with groups := groupHolder.after failing gone iam.groups }
  have husers := Holder.does_detach failing site (userHolder_holds iam) policy iam.users
  have hgroups :=
    Holder.does_detach failing site (groupHolder_holds users) policy iam.groups
  have hroles :=
    Holder.does_detach failing site (roleHolder_holds groups) policy iam.roles
  have hall := (husers.forEach_append hgroups).forEach_append hroles
  have hdeeds : attachmentDeeds failing policy (iam.entities policy.arn) =
      ((userHolder.names policy.arn iam.users).map fun name =>
        .tried (userHolder.target policy name)
          (granted failing (userHolder.removal name policy.arn)))
      ++ ((groupHolder.names policy.arn iam.groups).map fun name =>
        .tried (groupHolder.target policy name)
          (granted failing (groupHolder.removal name policy.arn)))
      ++ ((roleHolder.names policy.arn iam.roles).map fun name =>
        .tried (roleHolder.target policy name)
          (granted failing (roleHolder.removal name policy.arn))) := by
    rw [attachmentDeeds, attachments, List.map_append, List.map_append, List.map_map, List.map_map,
      List.map_map]
    rfl
  rw [hdeeds]
  exact hall

/-! ## Versions -/

/-- An account with a policy of its own of a content, or without it. -/
def placePolicy (iam : Iam) (arn : String) (content : Option Iam.Policy) : Iam :=
  { iam with policies := iam.policies.put arn content }

theorem placePolicy_get? (iam : Iam) (arn : String) :
    placePolicy iam arn (iam.policies.get? arn) = iam := by
  rw [placePolicy, Dict.put_get?]

/-- The deletion of a version of a policy. -/
def versionTarget (policy : PolicySummary) (version : VersionSummary) : Target :=
  ⟨.policyVersion, policy.name ++ "/" ++ version.id, .deleteVersion policy.arn version.id⟩

/-- The reply to the deletion of a version, and what is left of the policy. -/
def versionOutcome (failing : NameSet) (arn version : String) (content : Iam.Policy) :
    Except ServiceError Unit × Iam.Policy :=
  if refused failing (.remove (.deleteVersion arn version)) then
    (.error (refusal (.remove (.deleteVersion arn version))), content)
  else match Iam.withoutVersion content arn version with
    | .ok after => (.ok (), after)
    | .error reason => (.error ⟨.iam, reason⟩, content)

/-- What is done to delete versions of a policy. -/
def versionDeeds (failing : NameSet) (policy : PolicySummary) :
    List VersionSummary → Iam.Policy → List Deed
  | [], _ => []
  | version :: rest, content =>
    .tried (versionTarget policy version) (versionOutcome failing policy.arn version.id content).1
      :: versionDeeds failing policy rest (versionOutcome failing policy.arn version.id content).2

/-- What is left of a policy after some versions were to be deleted. -/
def versionsLeft (failing : NameSet) (arn : String) (versions : List VersionSummary)
    (content : Iam.Policy) : Iam.Policy :=
  versions.foldl (fun content version => (versionOutcome failing arn version.id content).2) content

theorem does_versions (failing : NameSet) (iam : Iam) (site : Site) (policy : PolicySummary)
    (versions : List VersionSummary) (content : Iam.Policy) :
    Does failing (forEach (attempt site) (versions.map (versionTarget policy)))
      (placePolicy iam policy.arn (some content)) (versionDeeds failing policy versions content)
      (placePolicy iam policy.arn (some (versionsLeft failing policy.arn versions content))) := by
  induction versions generalizing content with
  | nil => exact does_nothing
  | cons version rest ih =>
    have hattempt := does_attempt failing (placePolicy iam policy.arn (some content)) site
      (versionTarget policy version)
    have houtcome : outcome failing (placePolicy iam policy.arn (some content))
        (versionTarget policy version).removal =
          ((versionOutcome failing policy.arn version.id content).1,
            placePolicy iam policy.arn
              (some (versionOutcome failing policy.arn version.id content).2)) := by
      have happly :
          (placePolicy iam policy.arn (some content)).apply (.deleteVersion policy.arn version.id) =
          (Iam.withoutVersion content policy.arn version.id).map fun after =>
            placePolicy iam policy.arn (some after) := by
        simp [Iam.apply, Iam.policy, placePolicy, bind, Except.bind]
        rfl
      unfold outcome versionOutcome versionTarget
      rw [happly]
      cases refused failing (.remove (.deleteVersion policy.arn version.id)) with
      | true => rfl
      | false => cases Iam.withoutVersion content policy.arn version.id <;> rfl
    rw [houtcome] at hattempt
    exact hattempt.append (ih _)

/-! ## Deletion -/

/-- Whether a policy is detached from all principals that it was attached to. -/
def isReleased (failing : NameSet) (policy : PolicySummary) (entities : PolicyEntities) : Bool :=
  (attachments policy entities).all fun target => !refused failing (.remove target.removal)

theorem isDetached_detachedAfter (policy : PolicySummary) :
    (detachedAfter failing (fun arn => arn = policy.arn) iam).isDetached policy.arn =
      isReleased failing policy (iam.entities policy.arn) := by
  have husers := Holder.isEmpty_names_after failing (userHolder_holds iam) policy.arn iam.users
  have hgroups :=
    Holder.isEmpty_names_after failing (groupHolder_holds iam) policy.arn iam.groups
  have hroles := Holder.isEmpty_names_after failing (roleHolder_holds iam) policy.arn iam.roles
  show (List.isEmpty (userHolder.names policy.arn _) &&
    List.isEmpty (groupHolder.names policy.arn _)
    && List.isEmpty (roleHolder.names policy.arn _)) = _
  simp only [isReleased, attachments, List.all_append, List.all_map]
  rw [detachedAfter, husers, hgroups, hroles]
  rfl

/-- The versions of a policy that are to be deleted. -/
def oldOf (content : Iam.Policy) : List VersionSummary := content.versions.filter (!·.isDefault)

/-- The reply to the deletion of a policy of a content. -/
def policyDeletion (failing : NameSet) (policy : PolicySummary) (isReleased : Bool)
    (content : Iam.Policy) : Except ServiceError Unit :=
  if refused failing (.remove (.deletePolicy policy.arn)) then
    .error (refusal (.remove (.deletePolicy policy.arn)))
  else if content.versions.length ≤ 1 && isReleased then .ok ()
  else .error ⟨.iam, .inUse ("policy " ++ policy.arn)⟩

theorem does_attempt_deletePolicy (failing : NameSet) (iam : Iam) (site : Site)
    (policy : PolicySummary) (content : Iam.Policy) :
    Does failing (attempt site ⟨.policy, policy.name, .deletePolicy policy.arn⟩)
      (placePolicy iam policy.arn (some content))
      [.tried ⟨.policy, policy.name, .deletePolicy policy.arn⟩
        (policyDeletion failing policy (iam.isDetached policy.arn) content)]
      (placePolicy iam policy.arn
        (match policyDeletion failing policy (iam.isDetached policy.arn) content with
          | .ok _ => none
          | .error _ => some content)) := by
  have hattempt := does_attempt failing (placePolicy iam policy.arn (some content)) site
    ⟨.policy, policy.name, .deletePolicy policy.arn⟩
  have happly : (placePolicy iam policy.arn (some content)).apply (.deletePolicy policy.arn) =
      if content.versions.length ≤ 1 && iam.isDetached policy.arn then
        .ok (placePolicy iam policy.arn none)
      else .error (.inUse ("policy " ++ policy.arn)) := by
    have hpolicy : (placePolicy iam policy.arn (some content)).policy policy.arn = .ok content := by
      simp [Iam.policy, placePolicy]
    simp only [Iam.apply, hpolicy, bind, Except.bind, pure, Except.pure]
    simp only [placePolicy, Dict.erase_put]
    rfl
  unfold outcome at hattempt
  unfold policyDeletion
  rw [happly] at hattempt
  cases hrefused : refused failing (.remove (.deletePolicy policy.arn)) <;>
    cases hbare : decide (content.versions.length ≤ 1) && iam.isDetached policy.arn <;>
      simpa [hrefused, hbare] using hattempt

/-- What is done to delete a policy. -/
def deletionDeeds (failing : NameSet) (policy : PolicySummary) (isReleased : Bool)
    (content : Iam.Policy) : List Deed :=
  if refused failing (.query (.policyVersions policy.arn)) then
    [.unlisted (.policyVersions policy.arn) (policy.name ++ "/" ++ "versions"),
      .left .policy policy.name "could not list policy versions"]
  else .listed (.policyVersions policy.arn) ::
    (versionDeeds failing policy (oldOf content) content ++
      [.tried ⟨.policy, policy.name, .deletePolicy policy.arn⟩
        (policyDeletion failing policy isReleased
          (versionsLeft failing policy.arn (oldOf content) content))])

/-- What is left of a policy that is to be deleted. -/
def deletionLeft (failing : NameSet) (policy : PolicySummary) (isReleased : Bool)
    (content : Iam.Policy) : Option Iam.Policy :=
  if refused failing (.query (.policyVersions policy.arn)) then some content
  else
    let trimmed := versionsLeft failing policy.arn (oldOf content) content
    match policyDeletion failing policy isReleased trimmed with
    | .ok _ => none
    | .error _ => some trimmed

theorem does_deletePolicy (failing : NameSet) (site : Site) {policy : PolicySummary}
    {content : Iam.Policy} (h : iam.policies.get? policy.arn = some content) :
    Does failing (deletePolicy site policy) iam
      (deletionDeeds failing policy (iam.isDetached policy.arn) content)
      (placePolicy iam policy.arn
        (deletionLeft failing policy (iam.isDetached policy.arn) content)) := by
  unfold deletePolicy deletionDeeds deletionLeft
  cases hrefused : refused failing (.query (.policyVersions policy.arn)) with
  | true =>
    rw [if_pos rfl, if_pos rfl, ← h, placePolicy_get?]
    refine Leads.bind_of_eq (leads_iam_refused hrefused) ?_ rfl
    refine Leads.bind_of_eq (leads_note site _) ?_ rfl
    exact Leads.bind_of_eq (leads_note site _) (leads_done _) rfl
  | false =>
    rw [if_neg Bool.false_ne_true, if_neg Bool.false_ne_true]
    have hversions := does_versions failing iam site policy (oldOf content) content
    rw [← h, placePolicy_get?] at hversions
    have hlast := does_attempt_deletePolicy failing iam site policy
      (versionsLeft failing policy.arn (oldOf content) content)
    have hanswer : iam.answer (.policyVersions policy.arn) = .ok content.versions := by
      simp [Iam.answer, Iam.policy, h, bind, Except.bind, pure, Except.pure]
    refine Leads.bind_of_eq (leads_query hrefused hanswer) ?_ rfl
    exact hversions.append hlast

/-! ## One policy -/

variable {settings : ReclaimSettings} {kept : List String}

/-- The first protected role that a policy is attached to, as far as it is known to be protected. -/
def protector? (settings : ReclaimSettings) (kept : List String) (entities : PolicyEntities) :
    Option String :=
  entities.roles.find? fun role => kept.contains role || isProtectedName settings role

/-- Whether a policy is detached: its attachments can be listed, and none is to a role that is known
to be protected. -/
def isReached (failing : NameSet) (settings : ReclaimSettings) (kept : List String) (iam : Iam)
    (arn : String) : Bool :=
  !refused failing (.query (.policyEntities arn)) &&
    (protector? settings kept (iam.entities arn)).isNone

/-- What is done to a policy of a content. -/
def policyDeeds (failing : NameSet) (settings : ReclaimSettings) (kept : List String) (iam : Iam)
    (policy : PolicySummary) (content : Iam.Policy) : List Deed :=
  if refused failing (.query (.policyEntities policy.arn)) then
    [.unlisted (.policyEntities policy.arn) (policy.name ++ "/" ++ "entities"),
      .left .policy policy.name "could not list attached entities"]
  else .listed (.policyEntities policy.arn) ::
    match protector? settings kept (iam.entities policy.arn) with
    | some role => [.left .policy policy.name ("attached to protected role " ++ role)]
    | none => attachmentDeeds failing policy (iam.entities policy.arn) ++
        deletionDeeds failing policy (isReleased failing policy (iam.entities policy.arn)) content

/-- What is left of a policy that is detached. -/
def policyLeft (failing : NameSet) (iam : Iam) (policy : PolicySummary) (content : Iam.Policy) :
    Option Iam.Policy :=
  deletionLeft failing policy (isReleased failing policy (iam.entities policy.arn)) content

theorem does_removePolicy (failing : NameSet) (site : Site) (settings : ReclaimSettings)
    (kept : List String) {policy : PolicySummary} {content : Iam.Policy}
    (h : iam.policies.get? policy.arn = some content) :
    Does failing (removePolicy site settings kept policy) iam
      (policyDeeds failing settings kept iam policy content)
      (if isReached failing settings kept iam policy.arn then
        placePolicy (detachedAfter failing (fun arn => arn = policy.arn) iam) policy.arn
          (policyLeft failing iam policy content)
      else iam) := by
  unfold removePolicy policyDeeds isReached
  cases hrefused : refused failing (.query (.policyEntities policy.arn)) with
  | true =>
    refine Leads.bind_of_eq (leads_iam_refused hrefused) ?_ rfl
    refine Leads.bind_of_eq (leads_note site _) ?_ rfl
    exact Leads.bind_of_eq (leads_note site _) (leads_done _) rfl
  | false =>
    refine Leads.bind_of_eq (leads_query hrefused rfl) ?_ rfl
    simp only [Bool.false_eq_true, if_false]
    cases hprotector : protector? settings kept (iam.entities policy.arn) with
    | some role =>
      unfold protector? at hprotector
      simp only [hprotector]
      exact leads_note site _
    | none =>
      -- detaching a policy does not change the policy itself
      have hlisted :
          (detachedAfter failing (fun arn => arn = policy.arn) iam).policies.get? policy.arn =
          some content := h
      have hdelete := does_deletePolicy failing site hlisted
      rw [isDetached_detachedAfter] at hdelete
      unfold protector? at hprotector
      simp only [hprotector]
      exact (does_attachments policy).append hdelete

/-! ## All policies -/

/-- An account after some of its policies were detached and deleted. -/
def goneAfter (failing : NameSet) (gone : String → Bool) (iam : Iam) : Iam :=
  { detachedAfter failing gone iam with
    policies := iam.policies.filterMap fun arn content =>
      if gone arn then policyLeft failing iam ⟨content.name, arn⟩ content else some content }

/-- Whether a policy is detached and deleted: it is listed and reached. -/
def isGone (failing : NameSet) (settings : ReclaimSettings) (kept : List String) (iam : Iam)
    (arn : String) : Bool :=
  !refused failing (.query .localPolicies) && iam.policies.contains arn
    && isReached failing settings kept iam arn

/-- The account after its policies were to be removed. -/
def policiesAfter (failing : NameSet) (settings : ReclaimSettings) (kept : List String)
    (iam : Iam) : Iam :=
  goneAfter failing (isGone failing settings kept iam) iam

/-- What is done to the policies. -/
def policiesDeeds (failing : NameSet) (settings : ReclaimSettings) (kept : List String)
    (iam : Iam) : List Deed :=
  if refused failing (.query .localPolicies) then [.unlisted .localPolicies "local policies"]
  else .listed .localPolicies :: iam.policies.entries.flatMap fun e =>
    policyDeeds failing settings kept iam ⟨e.2.name, e.1⟩ e.2

theorem goneAfter_nothing : goneAfter failing (fun _ => false) iam = iam := by
  have hpolicies : (iam.policies.filterMap fun arn content =>
      if (fun _ => false) arn = true then policyLeft failing iam ⟨content.name, arn⟩ content
      else some content) = iam.policies := by
    apply Dict.ext_get?
    intro arn
    rw [Dict.get?_filterMap]
    cases iam.policies.get? arn <;> rfl
  rw [goneAfter, detachedAfter_nothing, hpolicies]

/-- One policy more is detached and deleted. -/
theorem placePolicy_goneAfter {gone : String → Bool} {arn : String} {content : Iam.Policy}
    (harn : gone arn = false) (h : iam.policies.get? arn = some content) :
    placePolicy (detachedAfter failing (fun other => other = arn) (goneAfter failing gone iam)) arn
        (policyLeft failing (goneAfter failing gone iam) ⟨content.name, arn⟩ content) =
      goneAfter failing (fun other => gone other || other = arn) iam := by
  have hentities : (goneAfter failing gone iam).entities arn = iam.entities arn :=
    entities_detachedAfter harn
  -- its own entry is the only one that is replaced
  have hpolicies : (goneAfter failing gone iam).policies.put arn
        (policyLeft failing iam ⟨content.name, arn⟩ content) =
      (goneAfter failing (fun other => gone other || other = arn) iam).policies := by
    apply Dict.ext_get?
    intro other
    simp only [goneAfter, Dict.get?_put, Dict.get?_filterMap]
    by_cases heq : other = arn
    · subst heq
      simp [h]
    · simp [heq]
  rw [policyLeft, hentities]
  show ({ detachedAfter failing _ (detachedAfter failing gone iam) with
    policies := (goneAfter failing gone iam).policies.put arn _ } : Iam) = _
  rw [detachedAfter_or, ← policyLeft, hpolicies]
  rfl

/-- An account after those of some policies that are reached were detached and deleted. -/
def goneAmong (failing : NameSet) (settings : ReclaimSettings) (kept : List String) (iam : Iam)
    (arns : List String) : Iam :=
  goneAfter failing (fun arn => arns.contains arn && isReached failing settings kept iam arn) iam

theorem goneAmong_nil : goneAmong failing settings kept iam [] = iam := goneAfter_nothing

theorem goneAmong_keys : goneAmong failing settings kept iam iam.policies.keys =
    goneAfter failing (fun arn => iam.policies.contains arn &&
      isReached failing settings kept iam arn)
      iam := by
  refine congrArg (fun gone => goneAfter failing gone iam) (funext fun arn => ?_)
  have hlisted : iam.policies.keys.contains arn = iam.policies.contains arn := by
    rw [Bool.eq_iff_iff, List.contains_iff_mem, Dict.mem_keys_iff, Dict.contains,
      Option.isSome_iff_exists]
  rw [hlisted]

/-- The next policy finds its own attachments as they were, since only others were removed
before. -/
theorem does_removePolicy_goneAmong (site : Site) {arns : List String} {arn : String}
    {content : Iam.Policy} (hnew : arns.contains arn = false)
    (harn : iam.policies.get? arn = some content) :
    Does failing (removePolicy site settings kept ⟨content.name, arn⟩)
      (goneAmong failing settings kept iam arns)
      (policyDeeds failing settings kept iam ⟨content.name, arn⟩ content)
      (goneAmong failing settings kept iam (arns ++ [arn])) := by
  have hgone : (arns.contains arn && isReached failing settings kept iam arn) = false := by
    rw [hnew, Bool.false_and]
  have hnow : (goneAmong failing settings kept iam arns).policies.get? arn = some content := by
    simp only [goneAmong, goneAfter, Dict.get?_filterMap, harn, Option.bind_some, hgone,
      Bool.false_eq_true, if_false]
  have hentities : (goneAmong failing settings kept iam arns).entities arn = iam.entities arn :=
    entities_detachedAfter hgone
  have hremove : Does failing (removePolicy site settings kept ⟨content.name, arn⟩) _ _ _ :=
    does_removePolicy failing site settings kept hnow
  -- what is done to a policy depends on the account through its attachments only
  simp only [policyDeeds, isReached, hentities] at hremove
  simp only [policyDeeds]
  refine cast (congrArg (Does failing _ _ _) ?_) hremove
  rw [← isReached]
  cases hreached : isReached failing settings kept iam arn with
  | true =>
    rw [if_pos rfl]
    apply (placePolicy_goneAfter hgone harn).trans
    refine congrArg (fun gone => goneAfter failing gone iam) (funext fun other => ?_)
    by_cases heq : other = arn
    · simp [heq, hreached]
    · simp [heq]
  | false =>
    rw [if_neg Bool.false_ne_true]
    refine congrArg (fun gone => goneAfter failing gone iam) (funext fun other => ?_)
    by_cases heq : other = arn
    · simp [heq, hreached]
    · simp [heq]

/-- The policies of a listing are removed one after the other. -/
theorem does_listedPolicies :
    Does failing (forEach (removePolicy site settings kept)
        (iam.policies.entries.map fun e => ⟨e.2.name, e.1⟩)) iam
      (iam.policies.entries.flatMap fun e =>
        policyDeeds failing settings kept iam ⟨e.2.name, e.1⟩ e.2)
      (goneAfter failing (fun arn => iam.policies.contains arn &&
        isReached failing settings kept iam arn) iam) := by
  have hall := does_forEach failing (fun e => removePolicy site settings kept ⟨e.2.name, e.1⟩)
    iam.policies.entries (fun e => policyDeeds failing settings kept iam ⟨e.2.name, e.1⟩ e.2)
    (fun done => goneAmong failing settings kept iam (done.map Prod.fst)) ?_
  · rw [← Dict.keys, goneAmong_keys] at hall
    simpa only [forEach_map, List.map_nil, goneAmong_nil] using hall
  rintro done ⟨arn, content⟩ rest hentries
  have harn : iam.policies.get? arn = some content := by
    rw [← Dict.mem_entries_iff, hentries]
    exact List.mem_append_right _ List.mem_cons_self
  have hnew : (done.map Prod.fst).contains arn = false := by
    have hnodup := Dict.nodup_keys iam.policies
    rw [Dict.keys, hentries, List.map_append, List.map_cons, List.nodup_middle] at hnodup
    rw [← Bool.not_eq_true, List.contains_iff_mem]
    exact fun hmem => hnodup.notMem (List.mem_append_left _ hmem)
  rw [List.map_append]
  exact does_removePolicy_goneAmong site hnew harn

theorem does_removePolicies :
    Does failing (removePolicies site settings kept) iam (policiesDeeds failing settings kept iam)
      (policiesAfter failing settings kept iam) := by
  unfold removePolicies policiesDeeds policiesAfter
  cases hrefused : refused failing (.query .localPolicies) with
  | true =>
    have hnothing : isGone failing settings kept iam = fun _ => false := by
      funext arn
      simp [isGone, hrefused]
    rw [hnothing, goneAfter_nothing]
    refine Leads.bind_of_eq (leads_iam_refused hrefused) ?_ rfl
    exact leads_note site _
  | false =>
    have hgone : isGone failing settings kept iam =
        fun arn => iam.policies.contains arn && isReached failing settings kept iam arn := by
      funext arn
      simp [isGone, hrefused]
    rw [hgone]
    refine Leads.bind_of_eq (leads_query hrefused rfl) ?_ rfl
    exact does_listedPolicies

end AccountLending.Lending
