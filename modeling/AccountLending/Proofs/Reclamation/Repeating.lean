import AccountLending.Proofs.Reclamation.Failures
import AccountLending.Proofs.Reclamation.Footprint
import AccountLending.Proofs.Reclamation.Resolving

/-!
# Running a reclamation again

A reclamation for a user finds the accounts through their owner tags, and takes these away before it
clears an account.  So a second run for the same user, after a first one that was aborted or left
something, only comes back to those accounts of the plan whose owner tag the first run has not
reached.  Everything else stays as the first run has left it, finished or not.

* `World.relieved` — a world in which no call is registered to fail any more;
* `IsFinished` — an account that is free, in its place and empty but for what is protected;
* `HasReturned.mem_plannedFor_iff` — what a later run plans for the same user;
* `World.reclaim_repeated` — which accounts of the plan a second run finishes, and how it ends;
* `reclaim_stranded` — a second run that fails at once and leaves an account with its user.
-/

namespace AccountLending

/-! ## Worlds without failures -/

/-- A service of whose calls none fails. -/
def Journaled.relieved {σ κ : Type} (service : Journaled σ κ) : Journaled σ κ :=
  { service with failing := Dict.empty }

/-- A cloud of whose calls none fails. -/
def Cloud.relieved (cloud : Cloud) : Cloud where
  organization := cloud.organization.relieved
  identity := cloud.identity.relieved
  iam := cloud.iam.each fun _ service => service.relieved

/-- A world in which no call fails. -/
def World.relieved (world : World) : World := { world with cloud := world.cloud.relieved }

theorem Cloud.iamOf_relieved (cloud : Cloud) (account : String) :
    cloud.relieved.iamOf account = (cloud.iamOf account).relieved := by
  rw [iamOf, iamOf, relieved, Dict.get?_each]
  cases cloud.iam.get? account <;> rfl

namespace World

theorem state_iamOf_relieved (world : World) (account : String) :
    (world.relieved.cloud.iamOf account).state = (world.cloud.iamOf account).state := by
  have hiam := congrArg Journaled.state (world.cloud.iamOf_relieved account)
  exact hiam

theorem organizationAnswers_relieved (world : World) : world.relieved.OrganizationAnswers :=
  fun _ => rfl

theorem isRefused_relieved (world : World) (call : Call) :
    world.relieved.isRefused call = false := by
  match call with
  | .cloud (.organization _) => rfl
  | .cloud (.identity .caller) => rfl
  | .cloud (.identity (.assumeRole arn _ _)) =>
    rw [isRefused]
    cases Cloud.accountOfRole? arn <;> rfl
  | .cloud (.iam session request) =>
    show (world.cloud.relieved.iamOf _).fails request.entry = false
    rw [Cloud.iamOf_relieved]
    rfl
  | .host _ => rfl

/-- An account still carries the owner tag of a user. -/
def IsOwned (world : World) (user account : String) : Prop :=
  (world.cloud.organization.state.tags account).owner? = some user

end World

/-! ## The index after a run -/

open Lending

/-- An owner tag that is there after a run was there before. -/
theorem Member.IsReturnOf.owner? {payer : Payer} {accounts : List String} {old new : Member}
    {user : String} (h : old.IsReturnOf payer accounts new) (howner : new.tags.owner? = some user) :
    old.tags.owner? = some user := by
  rcases h.tags Tags.ownerKey with hsame | ⟨-, hgone⟩
  · exact hsame.symm.trans howner
  · exact absurd (hgone.symm.trans howner) (by simp)

namespace Organization

theorem isValid_of_mem_indexed {organization : Organization} {user account : String}
    (h : account ∈ organization.indexed user) : AccountId.isValid account = true := by
  obtain ⟨arn, -, harn⟩ := mem_indexed_iff.1 h
  exact AccountId.isValid_of_ofArn? harn

namespace HasReturned

variable {reclaimer : Reclaimer} {payer : Payer} {accounts : List String}
  {before after : Organization}
variable {caller user account : String}

theorem exists_of_mem (h : HasReturned payer accounts before after) {new : Member}
    (hnew : new ∈ after.members) : ∃ old ∈ before.members, old.IsReturnOf payer accounts new := by
  have hmembers := h.members
  generalize before.members = first at hmembers
  generalize after.members = second at hmembers hnew
  induction hmembers with
  | nil => exact absurd hnew List.not_mem_nil
  | cons hmember _ ih =>
    rcases List.mem_cons.1 hnew with rfl | hnew
    · exact ⟨_, List.mem_cons_self, hmember⟩
    · obtain ⟨old, hold, hreturn⟩ := ih hnew
      exact ⟨old, List.mem_cons_of_mem _ hold, hreturn⟩

/-- Nothing is added to what the index has for a user. -/
theorem mem_indexed (h : HasReturned payer accounts before after)
    (haccount : account ∈ after.indexed user) : account ∈ before.indexed user := by
  obtain ⟨arn, harn, hnumber⟩ := mem_indexed_iff.1 haccount
  refine mem_indexed_iff.2 ⟨arn, ?_, hnumber⟩
  unfold resourcesWith at harn ⊢
  rw [h.resources] at harn
  rcases List.mem_append.1 harn with hmember | hresource
  · obtain ⟨new, hnew, rfl⟩ := List.mem_map.1 hmember
    obtain ⟨hnew, howner⟩ := List.mem_filter.1 hnew
    obtain ⟨old, hold, hreturn⟩ := h.exists_of_mem hnew
    rw [hreturn.account]
    refine List.mem_append_left _ (List.mem_map.2 ⟨old, List.mem_filter.2 ⟨hold, ?_⟩, rfl⟩)
    exact decide_eq_true (hreturn.owner? (of_decide_eq_true howner))
  · exact List.mem_append_right _ hresource

/-- An account that passed the checks still passes them. -/
theorem isChecked (h : HasReturned reclaimer.payer accounts before after)
    (hchecked : IsChecked reclaimer caller user before account) :
    IsChecked reclaimer caller user after account := by
  obtain ⟨hother, old, hold, hpool⟩ := hchecked
  obtain ⟨new, hnew, hreturn⟩ := h.find? hold
  refine ⟨hother, new, hnew, fun howner => ?_⟩
  rcases hreturn.parent with hsame | ⟨-, hroot⟩
  · rw [hsame]
    exact hpool (hreturn.owner? howner)
  · exact .inl hroot

/-- What is planned for a user after a run are the accounts of the earlier plan that kept their
owner tag. -/
theorem mem_plannedFor_iff (h : HasReturned reclaimer.payer accounts before after)
    (hchecked : ∀ account ∈ before.indexed user, IsChecked reclaimer caller user before account)
    {p : Planned} : p ∈ plannedFor after user ↔
      p ∈ plannedFor before user ∧ (after.tags p.account).owner? = some user := by
  constructor
  · intro hp
    obtain ⟨hindexed, howner, hplanned⟩ := Lending.mem_plannedFor_iff.1 hp
    have hbefore := h.mem_indexed hindexed
    obtain ⟨-, old, hold, -⟩ := hchecked p.account hbefore
    obtain ⟨new, hnew, hreturn⟩ := h.find? hold
    have howned : (before.tags p.account).owner? = some user := by
      rw [tags_of_find? hold]
      apply hreturn.owner?
      rwa [← tags_of_find? hnew]
    exact ⟨Lending.mem_plannedFor_iff.2 ⟨hbefore, howned, hplanned⟩, howner⟩
  · rintro ⟨hp, howner⟩
    obtain ⟨hindexed, -, hplanned⟩ := Lending.mem_plannedFor_iff.1 hp
    obtain ⟨-, old, hold, -⟩ := hchecked p.account hindexed
    obtain ⟨new, hnew, -⟩ := h.find? hold
    refine Lending.mem_plannedFor_iff.2 ⟨?_, howner, hplanned⟩
    apply mem_indexed_of_find? (isValid_of_mem_indexed hindexed) hnew
    rwa [← tags_of_find? hnew]

end HasReturned

end Organization

namespace Lending

open World

/-! ## Accounts that are done with -/

/-- Nothing is left to be done about an account: it has no claim tags and stands under the root of
the pool, it has no user, its roles are protected, and its policies are attached to protected
roles. -/
structure IsFinished (reclaimer : Reclaimer) (account : String) (world : World) : Prop extends
    IsFreed reclaimer account world where
  users : ∀ user, (world.cloud.iamOf account).state.users.get? user = none
  roles : ∀ role content, (world.cloud.iamOf account).state.roles.get? role = some content →
    isKept reclaimer.settings role content = true
  policies : ∀ arn policy, (world.cloud.iamOf account).state.policies.get? arn = some policy →
    IsHeld reclaimer.settings (world.cloud.iamOf account).state arn

section Finished

variable {reclaimer : Reclaimer} {account : String} {world after now : World}

theorem IsFinished.congr (h : IsFinished reclaimer account world)
    (hfind : now.cloud.organization.state.find? account =
      world.cloud.organization.state.find? account)
    (hiam : (now.cloud.iamOf account).state = (world.cloud.iamOf account).state) :
    IsFinished reclaimer account now where
  tags := by
    rw [Organization.tags_congr hfind]
    exact h.tags
  parent := by
    rw [Organization.parent?_congr hfind]
    exact h.parent
  users := by
    rw [hiam]
    exact h.users
  roles := by
    rw [hiam]
    exact h.roles
  policies := by
    rw [hiam]
    exact h.policies

theorem isFinished_congr
    (hfind : now.cloud.organization.state.find? account =
      world.cloud.organization.state.find? account)
    (hiam : (now.cloud.iamOf account).state = (world.cloud.iamOf account).state) :
    IsFinished reclaimer account now ↔ IsFinished reclaimer account world :=
  ⟨fun h => h.congr hfind.symm hiam.symm, fun h => h.congr hfind hiam⟩

/-- An account that was taken back is done with. -/
theorem IsReclaimed.isFinished (h : IsReclaimed reclaimer account world after) :
    IsFinished reclaimer account after where
  tags key hkey := by
    rw [Dict.contains, h.tags key, if_pos hkey]
    rfl
  parent := h.parent
  users := h.iam.users
  roles role content hrole := by
    rw [h.iam.roles] at hrole
    exact (Option.filter_eq_some_iff.1 hrole).2
  policies arn policy hpolicy := by
    obtain ⟨-, role, content, hrole, hkept, hattached⟩ := (h.iam.policies arn policy).1 hpolicy
    -- the role that holds the policy is protected, so that it is still there
    refine ⟨role, content, ?_, hkept, hattached⟩
    rw [h.iam.roles, hrole]
    exact Option.filter_eq_some_iff.2 ⟨rfl, hkept⟩

theorem not_isOwned_of_isFreed (h : IsFreed reclaimer account world) (user : String) :
    ¬ world.IsOwned user account := by
  intro howned
  have habsent := h.tags Tags.ownerKey (by simp [Tags.claimKeys])
  rw [Dict.contains, show (world.cloud.organization.state.tags account).get? Tags.ownerKey =
    some user from howned] at habsent
  exact absurd habsent (by simp)

end Finished

/-! ## The second run -/

namespace Reclaimer

variable {reclaimer : Reclaimer} {target : ReclaimTarget} {user : String} {planned : List Planned}
variable {world mid after : World}

/-- A run none of whose calls is refused takes back every account of its plan, and no other. -/
theorem completes_of_granted (hgranted : ∀ call, world.isRefused call = false)
    (hplan : world.perform (reclaimer.plan target) = (.ok planned, mid))
    (hanswer : world.host.answer (reclaimer.question target planned) = true)
    (hsound : ∀ p ∈ planned, (world.cloud.iamOf p.account).state.IsSound) :
    ∃ reports final,
      world.perform (reclaimer.reclaim askOperator target) = (.ok (.completed reports), final) ∧
      HasTakenBack reclaimer (planned.map (·.account)) world final ∧
      ∀ p ∈ planned, IsReclaimed reclaimer p.account world final := by
  have hread := hasOnlyRead_of_perform (reclaimer.uses_plan target) hplan
  obtain ⟨hnodup, hplanned⟩ := planned_of_perform_plan hplan
  have hconfirm := mid.run_askOperator (reclaimer.question target planned)
  rw [hread.answer, hanswer] at hconfirm
  obtain ⟨reports, final, hall, hclean⟩ :
      ∃ reports final, (mid.asked (reclaimer.question target planned)).perform
          (reclaimer.reclaimAll [] planned) = (.ok reports, final) ∧
        ∀ report ∈ reports, report.isClean = true :=
    succeeds_clean hread hnodup hplanned (fun call _ => hgranted call) hsound
  obtain ⟨-, htaken⟩ := of_perform_reclaimAll hnodup (fun p hp => (hplanned p hp).isValid) hall
  refine ⟨reports, final, ?_, htaken.of_asked hread,
    (isReclaimed_of_completed hread hnodup hplanned hall hclean).2⟩
  rw [perform_reclaim_agreed hplan hconfirm hall]
  exact Prod.ext (conclusion_eq_completed_iff.2 ⟨hclean, rfl⟩) rfl

/-- A run that left something has come to all accounts of its plan. -/
theorem isFreed_of_teardownIncomplete {reports : List Report}
    (hplan : world.perform (reclaimer.plan target) = (.ok planned, mid))
    (hanswer : world.host.answer (reclaimer.question target planned) = true)
    (hrun : world.perform (reclaimer.reclaim askOperator target) =
      (.error (.teardownIncomplete reports), after)) :
    ∀ p ∈ planned, IsFreed reclaimer p.account after := by
  have hread := hasOnlyRead_of_perform (reclaimer.uses_plan target) hplan
  obtain ⟨hnodup, hplanned⟩ := planned_of_perform_plan hplan
  have hconfirm := mid.run_askOperator (reclaimer.question target planned)
  rw [hread.answer, hanswer] at hconfirm
  cases hall : (mid.asked (reclaimer.question target planned)).perform
    (reclaimer.reclaimAll [] planned) with
  | mk all finished =>
  obtain ⟨hresult, rfl⟩ :=
    Prod.mk.inj (hrun.symm.trans (perform_reclaim_agreed hplan hconfirm hall))
  cases all with
  | error e =>
    obtain ⟨account, source, others, rfl⟩ := error_of_perform_reclaimAll hall
    cases hresult
  | ok others =>
    obtain ⟨-, htaken⟩ := of_perform_reclaimAll hnodup (fun p hp => (hplanned p hp).isValid) hall
    exact (areTorn_of_hasTakenBack hplanned (htaken.of_asked hread) fun p _ => ⟨rfl, rfl⟩).freed

/-- A run that fails while it makes its plan has not started. -/
theorem isUnstarted_of_unplanned {e : PoolError} (h : Unplanned target e) :
    isUnstarted (.error e) = true := by
  cases h <;> rfl

/-- A run that has started has made its plan, and the operator has agreed to it. -/
theorem agreed_of_isUnstarted {result : Except PoolError ReclaimOutcome}
    (hrun : world.perform (reclaimer.reclaim askOperator target) = (result, after))
    (hstarted : isUnstarted result = false) :
    ∃ planned mid, world.perform (reclaimer.plan target) = (.ok planned, mid) ∧
      world.host.answer (reclaimer.question target planned) = true := by
  cases hplan : world.perform (reclaimer.plan target) with
  | mk found mid =>
  have hread := hasOnlyRead_of_perform (reclaimer.uses_plan target) hplan
  cases found with
  | error e =>
    obtain ⟨rfl, -⟩ := Prod.mk.inj (hrun.symm.trans (perform_reclaim_failed hplan))
    have hunplanned :=
      (reclaimer.failsWith_plan target).run World.serve world (congrArg Prod.fst hplan)
    have hunstarted := isUnstarted_of_unplanned hunplanned
    exact absurd (hunstarted.symm.trans hstarted) (by simp)
  | ok planned =>
    refine ⟨planned, mid, rfl, ?_⟩
    have hconfirm := mid.run_askOperator (reclaimer.question target planned)
    rw [hread.answer] at hconfirm
    cases hanswer : world.host.answer (reclaimer.question target planned) with
    | true => rfl
    | false =>
      rw [hanswer] at hconfirm
      obtain ⟨rfl, -⟩ := Prod.mk.inj (hrun.symm.trans (perform_reclaim_declined hplan hconfirm))
      exact absurd hstarted (by simp [isUnstarted])

/-! ### After a first run -/

/-- The plan that a second run for a user makes, in a world in which no call fails. -/
theorem plan_relieved {result : Except PoolError ReclaimOutcome}
    (hplan : world.perform (reclaimer.plan (.user user)) = (.ok planned, mid))
    (hreturned : world.cloud.organization.state.HasReturned reclaimer.payer
      (planned.map (·.account)) after.cloud.organization.state)
    (hrun : world.perform (reclaimer.reclaim askOperator (.user user)) = (result, after)) :
    (after.relieved.perform (reclaimer.plan (.user user))).1 =
        (if (after.cloud.organization.state.resourcesWith Tags.ownerKey user).isEmpty then
          .error (.noResources user)
        else if (plannedFor after.cloud.organization.state user).isEmpty
          then .error (.noAccountsForUser user)
        else .ok (plannedFor after.cloud.organization.state user)) ∧
      ∀ p, p ∈ plannedFor after.cloud.organization.state user ↔
        p ∈ planned ∧ after.IsOwned user p.account := by
  obtain ⟨hunprotected, rfl, caller, hcaller, hchecked⟩ := of_perform_plan_user hplan
  have hcaller' : after.relieved.cloud.identity.state = .ok caller := by
    have hkept := caller_perform (reclaimer.reclaim askOperator (.user user)) world
    rw [hrun] at hkept
    exact hkept.trans hcaller
  refine ⟨perform_plan_user after.organizationAnswers_relieved hunprotected hcaller'
    fun account haccount => ?_, fun p => hreturned.mem_plannedFor_iff hchecked⟩
  exact hreturned.isChecked (hchecked account (hreturned.mem_indexed haccount))

end Reclaimer

/-- What a second run for a user has come to, after a first one of which something was left to
do. -/
structure Resumes (reclaimer : Reclaimer) (user : String) (planned : List Planned)
    (after final : World) (again : Except PoolError ReclaimOutcome) : Prop where
  /-- The second run finishes just those accounts that still carried their owner tag. -/
  finished : ∀ p ∈ planned, IsFinished reclaimer p.account final ↔
    IsFinished reclaimer p.account after ∨ after.IsOwned user p.account
  completed :
    (∃ p ∈ planned, after.IsOwned user p.account) → ∃ reports, again = .ok (.completed reports)
  /-- When no account has kept its owner tag, the second run fails at once and changes nothing. -/
  stranded : (∀ p ∈ planned, ¬ after.IsOwned user p.account) →
    (again = .error (.noResources user) ∨ again = .error (.noAccountsForUser user)) ∧
      after.relieved.cloud.HasOnlyRead final.cloud

namespace Reclaimer

variable {reclaimer : Reclaimer} {user : String} {planned : List Planned} {world mid after : World}

/-- The second run finds no account of the user any more. -/
theorem resumes_of_stranded {e : PoolError}
    (he : e = .noResources user ∨ e = .noAccountsForUser user)
    (hplan : (after.relieved.perform (reclaimer.plan (.user user))).1 = .error e)
    (hnone : ∀ p ∈ planned, ¬ after.IsOwned user p.account) :
    Resumes reclaimer user planned after
      (after.relieved.perform (reclaimer.reclaim askOperator (.user user))).2
      (after.relieved.perform (reclaimer.reclaim askOperator (.user user))).1 := by
  cases hagain : after.relieved.perform (reclaimer.plan (.user user)) with
  | mk found final =>
  rw [hagain] at hplan
  obtain rfl : found = _ := hplan
  have hread := hasOnlyRead_of_perform (reclaimer.uses_plan (.user user)) hagain
  rw [perform_reclaim_failed hagain]
  refine ⟨fun p hp => ?_, fun ⟨p, hp, howned⟩ => absurd howned (hnone p hp),
    fun _ => ⟨?_, hread.cloud⟩⟩
  · rw [or_iff_left (hnone p hp)]
    refine isFinished_congr (congrArg (·.find? p.account) hread.cloud.state) ?_
    rw [hread.iamOf, state_iamOf_relieved]
  · rcases he with rfl | rfl
    · exact .inl rfl
    · exact .inr rfl

/-- The second run takes back the accounts that kept their owner tag. -/
theorem resumes_of_kept {later : List Planned} {again : World}
    (hplan : after.relieved.perform (reclaimer.plan (.user user)) = (.ok later, again))
    (hlater : ∀ p, p ∈ later ↔ p ∈ planned ∧ after.IsOwned user p.account)
    (hsome : later ≠ [])
    (hanswer : after.host.answer (reclaimer.question (.user user) later) = true)
    (hsound : ∀ p ∈ later, (after.cloud.iamOf p.account).state.IsSound) :
    Resumes reclaimer user planned after
      (after.relieved.perform (reclaimer.reclaim askOperator (.user user))).2
      (after.relieved.perform (reclaimer.reclaim askOperator (.user user))).1 := by
  obtain ⟨reports, final, hrun, htaken, hreclaimed⟩ :=
    completes_of_granted after.isRefused_relieved hplan
      hanswer fun p hp => (state_iamOf_relieved after p.account).symm ▸ hsound p hp
  rw [hrun]
  refine ⟨fun p hp => ?_, fun _ => ⟨reports, rfl⟩, fun hnone => ?_⟩
  · by_cases howned : after.IsOwned user p.account
    · exact iff_of_true (hreclaimed p ((hlater p).2 ⟨hp, howned⟩)).isFinished (.inr howned)
    · rw [or_iff_left howned]
      -- an account that lost its owner tag is none of the second run's
      have hother : p.account ∉ later.map (·.account) := by
        intro hmem
        obtain ⟨q, hq, heq⟩ := List.mem_map.1 hmem
        exact howned (heq ▸ ((hlater q).1 hq).2)
      refine isFinished_congr ?_ ?_
      · exact (htaken.find? p.account).trans (if_neg hother)
      · rw [htaken.iamOf p.account hother, state_iamOf_relieved]
  · obtain ⟨p, hp⟩ := List.exists_mem_of_ne_nil later hsome
    exact absurd ((hlater p).1 hp).2 (hnone p ((hlater p).1 hp).1)

/-- A second run for a user by what the first one has left of the accounts that it planned. -/
theorem resumes_of_agreed {result : Except PoolError ReclaimOutcome}
    (hanswer : ∀ question, world.host.answer question = true)
    (hsound : ∀ p ∈ planned, (world.cloud.iamOf p.account).state.IsSound)
    (hplan : world.perform (reclaimer.plan (.user user)) = (.ok planned, mid))
    (hrun : world.perform (reclaimer.reclaim askOperator (.user user)) = (result, after)) :
    Resumes reclaimer user planned after
      (after.relieved.perform (reclaimer.reclaim askOperator (.user user))).2
      (after.relieved.perform (reclaimer.reclaim askOperator (.user user))).1 := by
  have hread := hasOnlyRead_of_perform (reclaimer.uses_plan (.user user)) hplan
  have hkeeps := keepsToPlan_agreed hplan ((congrFun hread.answer _).trans (hanswer _))
  rw [hrun] at hkeeps
  obtain ⟨hagain, hlater⟩ := plan_relieved hplan hkeeps.confined.organization hrun
  by_cases hnone : plannedFor after.cloud.organization.state user = []
  · rw [hnone] at hagain hlater
    have hlost : ∀ p ∈ planned, ¬ after.IsOwned user p.account :=
      fun p hp howned => List.not_mem_nil ((hlater p).2 ⟨hp, howned⟩)
    rw [List.isEmpty_nil, if_pos rfl] at hagain
    split at hagain
    · exact resumes_of_stranded (.inl rfl) hagain hlost
    · exact resumes_of_stranded (.inr rfl) hagain hlost
  · have hresources :
        (after.cloud.organization.state.resourcesWith Tags.ownerKey user).isEmpty = false := by
      obtain ⟨p, hp⟩ := List.exists_mem_of_ne_nil _ hnone
      obtain ⟨arn, harn, -⟩ := Organization.mem_indexed_iff.1 (mem_plannedFor_iff.1 hp).1
      exact List.isEmpty_eq_false_iff_exists_mem.2 ⟨arn, harn⟩
    rw [hresources, if_neg Bool.false_ne_true, if_neg (by simpa using hnone)] at hagain
    refine resumes_of_kept (Prod.ext hagain rfl) hlater hnone ?_ fun p hp => ?_
    · have hkept := answer_perform (reclaimer.reclaim askOperator (.user user)) world
      rw [hrun] at hkept
      exact (congrFun hkept _).trans (hanswer _)
    · -- an account that kept its owner tag was not reached, and neither was its IAM
      obtain ⟨hp, howned⟩ := (hlater p).1 hp
      obtain ⟨torn, rest, rfl, -, htorn⟩ := hkeeps.torn
      rcases List.mem_append.1 hp with htorn' | hrest
      · exact absurd howned (not_isOwned_of_isFreed (htorn.freed p htorn') user)
      · rw [htorn.unreached p hrest]
        exact hsound p hp

end Reclaimer

end Lending

open Lending

/-- A reclamation for a user that was aborted or left something is run again for the same user, with
the operator agreeing as before, nobody else writing in between, no call failing any more, and
policies that have one default version each and versions of different names (`hsound`, which
`IsBuilt.isSound` gives for every account that was set up).  Of the accounts that the first run has
planned, the second run finishes those that still carry the user's owner tag, and no other; the
others are what the first run has left of them.  It completes when there is such an account, and
finds no account of the user when there is none.  That is so after every first run that was not
aborted, since such a run has taken the owner tag from all its accounts. -/
theorem World.reclaim_repeated {world after : World} {reclaimer : Reclaimer} {user : String}
    {failure : PoolError} (hanswer : ∀ question, world.host.answer question = true)
    (hsound : ∀ account, (world.cloud.iamOf account).state.IsSound)
    (hrun : world.perform (reclaimer.reclaim askOperator (.user user)) = (.error failure, after))
    (hstarted : isUnstarted (.error failure) = false) :
    ∃ planned, (world.perform (reclaimer.plan (.user user))).1 = .ok planned ∧
      Resumes reclaimer user planned after
        (after.relieved.perform (reclaimer.reclaim askOperator (.user user))).2
        (after.relieved.perform (reclaimer.reclaim askOperator (.user user))).1 ∧
      ∀ reports, failure = .teardownIncomplete reports → ∀ p ∈ planned,
        ¬ after.IsOwned user p.account := by
  obtain ⟨planned, mid, hplan, hagreed⟩ := Reclaimer.agreed_of_isUnstarted hrun hstarted
  refine ⟨planned, by rw [hplan],
    Reclaimer.resumes_of_agreed hanswer (fun p _ => hsound p.account) hplan hrun, ?_⟩
  rintro reports rfl p hp
  exact not_isOwned_of_isFreed (Reclaimer.isFreed_of_teardownIncomplete hplan hagreed hrun p hp)
    user

/-! ### Two accounts of a user, run twice -/

/-- The world of two accounts in which the claim tags of the second one cannot be removed when it is
said so. -/
def heldWorld (held : Bool) : World where
  cloud := { (crewWorld false).cloud with
    organization :=
      if held then (crewWorld false).cloud.organization.failOn "UntagResource:222222222222"
      else (crewWorld false).cloud.organization }

theorem isSound_heldWorld (held : Bool) (account : String) :
    ((heldWorld held).cloud.iamOf account).state.IsSound := by
  intro arn policy hpolicy
  have hiam : (heldWorld held).cloud.iam =
      Dict.empty.insert "111111111111" ((heldWorld held).cloud.iamOf "111111111111") := rfl
  have hnone : ((heldWorld held).cloud.iamOf account).state.policies.get? arn = none := by
    rw [Cloud.iamOf, hiam, Dict.get?_insert]
    split <;> rfl
  exact absurd (hpolicy.symm.trans hnone) (by simp)

theorem exists_plan_held (held : Bool) :
    ∃ mid, (heldWorld held).perform (lentReclaimer.plan (.user "alice")) = (.ok crewPlan, mid) := by
  apply World.exists_of_toOption
  cases held <;> decide +kernel

/-- The world that the first run leaves. -/
def heldAfter (held : Bool) : World :=
  ((heldWorld held).perform (lentReclaimer.reclaim askOperator (.user "alice"))).2

/-- The first run leaves the user of the first account. -/
theorem users_heldAfter (held : Bool) :
    ((heldAfter held).cloud.iamOf "111111111111").state.users.contains "alice" = true := by
  cases held <;> decide +kernel

theorem not_isFinished_of_contains {reclaimer : Reclaimer} {account user : String} {world : World}
    (h : (world.cloud.iamOf account).state.users.contains user = true) :
    ¬ IsFinished reclaimer account world := by
  intro hfinished
  rw [Dict.contains, hfinished.users user] at h
  exact absurd h (by simp)

/-- The first run is aborted at the second account.  The second run finishes that account, and the
first one keeps its user. -/
theorem reclaim_repeated_held :
    let after := ((heldWorld true).perform (lentReclaimer.reclaim askOperator (.user "alice"))).2
    let final := (after.relieved.perform (lentReclaimer.reclaim askOperator (.user "alice"))).2
    ¬ IsFinished lentReclaimer "111111111111" final ∧
    IsFinished lentReclaimer "222222222222" final := by
  have hstopped :
      stoppedAt? ((heldWorld true).perform (lentReclaimer.reclaim askOperator (.user "alice"))).1 =
      some ("222222222222", [2]) := by
    decide +kernel
  have hlost : ((heldAfter true).cloud.organization.state.tags "111111111111").owner? = none := by
    decide +kernel
  have hkept :
      ((heldAfter true).cloud.organization.state.tags "222222222222").owner? = some "alice" := by
    decide +kernel
  have hleft := users_heldAfter true
  cases hrun : (heldWorld true).perform (lentReclaimer.reclaim askOperator (.user "alice")) with
  | mk result after =>
  rw [show heldAfter true = after from congrArg Prod.snd hrun] at hlost hkept hleft
  rw [hrun] at hstopped
  obtain ⟨source, reports, rfl, -⟩ := exists_of_stoppedAt? hstopped
  obtain ⟨planned, hplanned, hresumes, -⟩ :=
    World.reclaim_repeated (fun _ => rfl) (isSound_heldWorld true) hrun rfl
  obtain ⟨mid, hplan⟩ := exists_plan_held true
  rw [hplan] at hplanned
  obtain rfl := Except.ok.inj hplanned
  constructor
  · rw [hresumes.finished ⟨"111111111111", some "alice"⟩ (by simp [crewPlan])]
    rintro (hfinished | howned)
    · exact not_isFinished_of_contains hleft hfinished
    · exact absurd (hlost.symm.trans howned) (by simp)
  · exact (hresumes.finished ⟨"222222222222", some "alice"⟩ (by simp [crewPlan])).2 (.inr hkept)

/-- Whether a run says that artifacts are left. -/
def isIncomplete : Except PoolError ReclaimOutcome → Bool
  | .error (.teardownIncomplete _) => true
  | _ => false

theorem exists_of_isIncomplete {result : Except PoolError ReclaimOutcome}
    (h : isIncomplete result = true) :
    ∃ reports, result = .error (.teardownIncomplete reports) := by
  unfold isIncomplete at h
  split at h
  · exact ⟨_, rfl⟩
  · exact absurd h Bool.false_ne_true

/-- An access key of the first account cannot be deleted, and the first run says that something is
left.  The second run finds no account of the user any more, and the first account keeps its
user. -/
theorem reclaim_stranded :
    let first := (heldWorld false).perform (lentReclaimer.reclaim askOperator (.user "alice"))
    let second := first.2.relieved.perform (lentReclaimer.reclaim askOperator (.user "alice"))
    (∃ reports, first.1 = .error (.teardownIncomplete reports)) ∧
      (second.1 = .error (.noResources "alice") ∨ second.1 = .error (.noAccountsForUser "alice")) ∧
      ¬ IsFinished lentReclaimer "111111111111" second.2 := by
  have hincomplete : isIncomplete ((heldWorld false).perform
      (lentReclaimer.reclaim askOperator (.user "alice"))).1 = true := by
    decide +kernel
  have hleft := users_heldAfter false
  obtain ⟨mid, hplan⟩ := exists_plan_held false
  cases hrun : (heldWorld false).perform (lentReclaimer.reclaim askOperator (.user "alice")) with
  | mk result after =>
  rw [show heldAfter false = after from congrArg Prod.snd hrun] at hleft
  rw [hrun] at hincomplete
  obtain ⟨reports, rfl⟩ := exists_of_isIncomplete hincomplete
  have hresumes := Reclaimer.resumes_of_agreed (fun _ => rfl)
    (fun p _ => isSound_heldWorld false p.account) hplan hrun
  have hnone : ∀ p ∈ crewPlan, ¬ after.IsOwned "alice" p.account := fun p hp =>
    not_isOwned_of_isFreed (Reclaimer.isFreed_of_teardownIncomplete hplan rfl hrun p hp) "alice"
  refine ⟨⟨reports, rfl⟩, (hresumes.stranded hnone).1, fun hfinished => ?_⟩
  have hfirst : (⟨"111111111111", some "alice"⟩ : Planned) ∈ crewPlan := List.mem_cons_self
  rcases (hresumes.finished _ hfirst).1 hfinished with hdone | howned
  · exact not_isFinished_of_contains hleft hdone
  · exact hnone _ hfirst howned

end AccountLending
