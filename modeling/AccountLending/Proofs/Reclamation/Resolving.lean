import AccountLending.Proofs.AccountId
import AccountLending.Proofs.Reclamation.Releasing

/-!
# The accounts of a user

The accounts of a user are found through the index of tagged resources, and the tags decide which of
them are really the user's.  In a world whose organization answers, what becomes of the plan for a
user is told by the index and the tags alone.

* `Organization.indexed`, `plannedFor` — the accounts that the index has for a user, and those to be
  planned;
* `IsChecked` — what the checks ask of an account that the index has for a user;
* `Reclaimer.of_perform_plan_user` — a plan that was made for a user;
* `Reclaimer.perform_plan_user` — when the plan for a user is made, and how it fails otherwise.
-/

namespace AccountLending

namespace Lending

/-! ## The index -/

/-- The account numbers at the end of resource names, each once, after those already found. -/
def numbersAmong (found : List String) : List String → List String
  | [] => found
  | arn :: rest =>
    match AccountId.ofArn? arn with
    | some account => numbersAmong (if account ∈ found then found else found ++ [account]) rest
    | none => numbersAmong found rest

theorem run_accountsAmong (user : String) (found arns : List String) (world : World) :
    (world.run (accountsAmong user found arns)).1 = numbersAmong found arns := by
  induction arns generalizing found world with
  | nil => rfl
  | cons arn rest ih =>
    rw [accountsAmong, numbersAmong]
    cases AccountId.ofArn? arn with
    | some account => exact ih _ world
    | none => exact ih found _

theorem mem_numbersAmong_iff {account : String} (found arns : List String) :
    account ∈ numbersAmong found arns ↔
      account ∈ found ∨ ∃ arn ∈ arns, AccountId.ofArn? arn = some account := by
  induction arns generalizing found with
  | nil => simp [numbersAmong]
  | cons arn rest ih =>
    rw [numbersAmong, List.exists_mem_cons_iff]
    cases harn : AccountId.ofArn? arn with
    | none => simp [ih]
    | some other =>
      dsimp only
      rw [ih]
      split
      · rename_i hfound
        simp only [Option.some.injEq]
        constructor
        · exact Or.imp_right .inr
        · rintro (h | rfl | h)
          · exact .inl h
          · exact .inl hfound
          · exact .inr h
      · simp only [List.mem_append, List.mem_singleton, Option.some.injEq, or_assoc, eq_comm]

end Lending

open Lending

/-- The accounts that the index of tagged resources has for a user. -/
def Organization.indexed (organization : Organization) (user : String) : List String :=
  numbersAmong [] (organization.resourcesWith Tags.ownerKey user)

theorem Organization.mem_indexed_iff {organization : Organization} {user account : String} :
    account ∈ organization.indexed user ↔
      ∃ arn ∈ organization.resourcesWith Tags.ownerKey user,
        AccountId.ofArn? arn = some account := by
  rw [indexed, mem_numbersAmong_iff]
  simp

/-- The index sees the tags of the members at once. -/
theorem Organization.mem_indexed_of_find? {organization : Organization} {user account : String}
    {member : Member} (hvalid : AccountId.isValid account = true)
    (hmember : organization.find? account = some member) (howner : member.tags.owner? = some user) :
    account ∈ organization.indexed user := by
  have hid : member.account.id = account := by simpa using List.find?_some hmember
  refine mem_indexed_iff.2 ⟨AccountId.arn account, ?_, AccountId.ofArn?_arn hvalid⟩
  refine List.mem_append_left _ (List.mem_map.2 ⟨member, ?_, by rw [hid]⟩)
  exact List.mem_filter.2 ⟨List.mem_of_find?_eq_some hmember, decide_eq_true howner⟩

namespace Lending

/-- The accounts of a user that are to be planned: those of the index whose tags say the same. -/
def plannedFor (organization : Organization) (user : String) : List Planned :=
  ((organization.indexed user).filter fun account => (organization.tags account).owner? =
    some user).map
    fun account => ⟨account, some user⟩

theorem mem_plannedFor_iff {organization : Organization} {user : String} {p : Planned} :
    p ∈ plannedFor organization user ↔ p.account ∈ organization.indexed user ∧
      (organization.tags p.account).owner? = some user ∧ p.owner = some user := by
  obtain ⟨account, owner⟩ := p
  simp only [plannedFor, List.mem_map, List.mem_filter, decide_eq_true_eq, Planned.mk.injEq]
  constructor
  · rintro ⟨_, ⟨hindexed, howner⟩, rfl, rfl⟩
    exact ⟨hindexed, howner, rfl⟩
  · rintro ⟨hindexed, howner, rfl⟩
    exact ⟨account, ⟨hindexed, howner⟩, rfl, rfl⟩

/-! ## The checks -/

/-- What the checks ask of an account that the index has for a user: it is not the caller's, it is a
member, and it stands in the pool when it is the user's. -/
structure IsChecked (reclaimer : Reclaimer) (caller user : String) (organization : Organization)
    (account : String) : Prop where
  other : account ≠ caller
  member : ∃ member, organization.find? account = some member ∧
    (member.tags.owner? = some user →
      member.parent = reclaimer.payer.root ∨ member.parent = reclaimer.payer.claimed)

end Lending

/-- No request to the organization is registered to fail. -/
def World.OrganizationAnswers (world : World) : Prop :=
  ∀ request : Organization.Request, world.cloud.organization.fails request.entry = false

namespace World

variable {α β : Type} {world mid after : World}

theorem OrganizationAnswers.of_hasOnlyRead (h : world.OrganizationAnswers)
    (hread : world.HasOnlyRead mid) : mid.OrganizationAnswers := by
  intro request
  rw [Journaled.fails, hread.cloud.failing]
  exact h request

/-- Then no call that only reads is refused. -/
theorem OrganizationAnswers.isRefused (h : world.OrganizationAnswers) {call : Call}
    (hcall : IsReading call) : world.isRefused call = false := by
  match call, hcall with
  | .cloud (.organization request), _ => exact h request
  | .cloud (.identity .caller), _ => rfl
  | .host (.log _), _ => rfl

theorem Succeeds.bind {action : Action α} {f : α → Action β} {a : α}
    (haction : world.perform action = (.ok a, mid)) (hf : mid.Succeeds (f a)) :
    world.Succeeds (action >>= f) := by
  obtain ⟨b, after, hrest⟩ := hf
  exact ⟨b, after, (perform_bind_ok haction f).trans hrest⟩

end World

namespace Lending

open World

variable {reclaimer : Reclaimer} {caller user account : String} {accounts : List String}
variable {planned : List Planned} {member : Member} {world mid after : World}

theorem succeeds_readClaim
    (hgranted : world.isRefused (.cloud (.organization (.listTags account))) = false)
    (hmember : world.cloud.organization.state.find? account = some member) :
    world.Succeeds (readClaim account) := by
  have hread : world.Succeeds (readTags account) := by
    apply succeeds_organization (a := member.tags) hgranted
    simp [Organization.answer, Organization.fromMember, hmember]
  obtain ⟨tags, read, hread⟩ := hread
  exact Succeeds.bind hread ⟨_, _, perform_lift _ _⟩

namespace Reclaimer

/-- What was checked for a user: the accounts of the index that are the user's are planned. -/
theorem of_perform_check_user
    (h : world.perform (reclaimer.check caller (some user) accounts) = (.ok planned, after)) :
    (∀ account ∈ accounts, IsChecked reclaimer caller user world.cloud.organization.state account) ∧
      planned = (accounts.filter fun account =>
        (world.cloud.organization.state.tags account).owner? = some user).map
          fun account => ⟨account, some user⟩ := by
  induction accounts generalizing planned world after with
  | nil =>
    obtain rfl : [] = planned := (eq_of_perform_pure h).1
    simp
  | cons account rest ih =>
    rw [check] at h
    split at h
    · exact absurd h perform_throw_ne_ok
    rename_i hother
    obtain ⟨claim, read, hclaim, h⟩ := exists_of_perform_bind h
    have hread := hasOnlyRead_of_perform (uses_readClaim account) hclaim
    obtain ⟨member, hmember, howner⟩ := exists_of_perform_readClaim hclaim
    have htags := Organization.tags_of_find? hmember
    dsimp only at h
    split at h
    · rename_i howned
      obtain ⟨others, placed, rfl, hplaced, hothers, found, hfound, hpool⟩ :=
        exists_of_perform_accept h
      have hsame := (hread.trans hplaced).cloud.state
      obtain ⟨hchecked, hplanned⟩ := ih hothers
      rw [hsame] at hchecked hplanned
      rw [hread.cloud.state, hmember] at hfound
      obtain rfl := Option.some.inj hfound
      refine ⟨List.forall_mem_cons.2 ⟨⟨hother, member, hmember, fun _ => hpool⟩, hchecked⟩, ?_⟩
      rw [List.filter_cons, htags, howner, howned, if_pos (decide_eq_true rfl),
        List.map_cons, hplanned]
    · rename_i hforeign
      obtain ⟨_, skipped, hskipped, h⟩ := exists_of_perform_bind h
      have hsame := (hread.trans (hasOnlyRead_of_perform (uses_log _ _) hskipped)).cloud.state
      obtain ⟨hchecked, hplanned⟩ := ih h
      rw [hsame] at hchecked hplanned
      rw [← howner] at hforeign
      refine ⟨List.forall_mem_cons.2
        ⟨⟨hother, member, hmember, fun howned => absurd howned hforeign⟩, hchecked⟩, ?_⟩
      rw [List.filter_cons, htags, if_neg (by simpa using hforeign), hplanned]

theorem succeeds_check_user (hanswers : world.OrganizationAnswers)
    (hunprotected : reclaimer.settings.isProtectedOwner user = false)
    (hchecked : ∀ account ∈ accounts,
      IsChecked reclaimer caller user world.cloud.organization.state account) :
    world.Succeeds (reclaimer.check caller (some user) accounts) := by
  induction accounts generalizing world with
  | nil => exact succeeds_pure _ _
  | cons account rest ih =>
    obtain ⟨⟨hother, member, hmember, hpool⟩, hrest⟩ := List.forall_mem_cons.1 hchecked
    obtain ⟨claim, read, hclaim⟩ := succeeds_readClaim (hanswers _) hmember
    have hread := hasOnlyRead_of_perform (uses_readClaim account) hclaim
    obtain ⟨found, hfound, howner⟩ := exists_of_perform_readClaim hclaim
    obtain rfl := Option.some.inj (hmember.symm.trans hfound)
    -- whatever was only read since, the accounts after this one are still checked
    have hlater : ∀ {now : World}, world.HasOnlyRead now →
        now.Succeeds (reclaimer.check caller (some user) rest) := by
      intro now hnow
      apply ih (hanswers.of_hasOnlyRead hnow)
      rw [hnow.cloud.state]
      exact hrest
    rw [check, if_neg hother]
    refine Succeeds.bind hclaim ?_
    dsimp only
    split
    · rename_i howned
      have hpassed : read.perform (reclaimer.checkOwner account claim.owner?) = (.ok (), read) := by
        rw [howned, checkOwner, hunprotected]
        rfl
      have hplace : read.Succeeds (reclaimer.poolParent account) := by
        have hstill : read.cloud.organization.state.find? account = some member := by
          rw [hread.cloud.state]
          exact hmember
        exact succeeds_poolParent hstill (hpool (howner.trans howned)) fun call hcall =>
          (hanswers.of_hasOnlyRead hread).isRefused
            ((reclaimer.uses_poolParent account).mem_trace hcall)
      obtain ⟨parent, placed, hplaced⟩ := hplace
      have hplacedRead :=
        hread.trans (hasOnlyRead_of_perform (reclaimer.uses_poolParent account) hplaced)
      obtain ⟨others, final, hothers⟩ := hlater hplacedRead
      exact Succeeds.bind hpassed
        (Succeeds.bind hplaced (Succeeds.bind hothers (succeeds_pure _ _)))
    · exact Succeeds.bind rfl (hlater (hread.trans (hasOnlyRead_of_perform (uses_log _ _) rfl)))

/-! ## The plan -/

/-- What comes of asking the index for a user. -/
def lookUp (organization : Organization) (user : String) : Except PoolError (List String) :=
  if (organization.resourcesWith Tags.ownerKey user).isEmpty then .error (.noResources user)
  else if (organization.indexed user).isEmpty then .error (.noAccountsForUser user)
  else .ok (organization.indexed user)

theorem perform_accountsOf (hgranted : world.cloud.organization.fails
      (Organization.Request.findResources Tags.ownerKey user).entry = false) :
    (world.perform (accountsOf user)).1 = lookUp world.cloud.organization.state user := by
  have hanswer : (world.cloud.organization.state.answer (.findResources Tags.ownerKey user)).1 =
      .ok (world.cloud.organization.state.resourcesWith Tags.ownerKey user) := rfl
  have hfound := perform_organization hgranted hanswer
  rw [accountsOf, perform_bind_ok hfound, lookUp]
  split
  · rfl
  · rw [perform_bind_ok (perform_lift _ _), run_accountsAmong]
    unfold Organization.indexed
    split <;> rfl

theorem perform_candidates_user (hgranted : world.cloud.organization.fails
      (Organization.Request.findResources Tags.ownerKey user).entry = false)
    (hunprotected : reclaimer.settings.isProtectedOwner user = false) :
    (world.perform (reclaimer.candidates (.user user))).1 =
      lookUp world.cloud.organization.state user := by
  rw [candidates, hunprotected, if_neg Bool.false_ne_true]
  exact perform_accountsOf hgranted

/-- The plan for a user has the accounts of the index that are the user's, and all accounts of the
index were checked. -/
theorem of_perform_plan_user
    (h : world.perform (reclaimer.plan (.user user)) = (.ok planned, after)) :
    reclaimer.settings.isProtectedOwner user = false ∧
      planned = plannedFor world.cloud.organization.state user ∧
      ∃ caller, world.cloud.identity.state = .ok caller ∧
        ∀ account ∈ world.cloud.organization.state.indexed user,
          IsChecked reclaimer caller user world.cloud.organization.state account := by
  obtain ⟨accounts, caller, found, called, haccounts, hstate, hcalled, hchecked⟩ :=
    exists_of_perform_plan h
  -- the user is not protected, and the index was not refused
  have hunprotected : reclaimer.settings.isProtectedOwner user = false := by
    cases hprotected : reclaimer.settings.isProtectedOwner user with
    | false => rfl
    | true =>
      rw [candidates, hprotected, if_pos rfl] at haccounts
      exact absurd haccounts perform_throw_ne_ok
  have hindexed : accounts = world.cloud.organization.state.indexed user := by
    have hlooked := congrArg Prod.fst haccounts
    have hgranted : world.cloud.organization.fails
        (Organization.Request.findResources Tags.ownerKey user).entry = false := by
      rw [candidates, hunprotected, if_neg Bool.false_ne_true] at haccounts
      obtain ⟨arns, _, harns, -⟩ := exists_of_perform_bind haccounts
      exact (of_perform_organization harns).1
    rw [perform_candidates_user hgranted hunprotected, lookUp] at hlooked
    split at hlooked
    · cases hlooked
    · split at hlooked
      · cases hlooked
      · exact (Except.ok.inj hlooked).symm
  obtain ⟨hpassed, hplanned⟩ := of_perform_check_user hchecked
  rw [hcalled.cloud.state, hindexed] at hpassed hplanned
  exact ⟨hunprotected, hplanned, caller, hstate, hpassed⟩

/-- In a world whose organization answers, the plan for a user is made when the index has an account
of the user, as long as all accounts of the index pass their checks. -/
theorem perform_plan_user (hanswers : world.OrganizationAnswers)
    (hunprotected : reclaimer.settings.isProtectedOwner user = false)
    (hcaller : world.cloud.identity.state = .ok caller)
    (hchecked : ∀ account ∈ world.cloud.organization.state.indexed user,
      IsChecked reclaimer caller user world.cloud.organization.state account) :
    (world.perform (reclaimer.plan (.user user))).1 =
      if (world.cloud.organization.state.resourcesWith Tags.ownerKey user).isEmpty then
        .error (.noResources user)
      else if (plannedFor world.cloud.organization.state user).isEmpty
        then .error (.noAccountsForUser user)
      else .ok (plannedFor world.cloud.organization.state user) := by
  have hlooked := perform_candidates_user (hanswers _) hunprotected
  unfold lookUp at hlooked
  cases hcandidates : world.perform (reclaimer.candidates (.user user)) with
  | mk found looked =>
  rw [hcandidates] at hlooked
  have hread := hasOnlyRead_of_perform (reclaimer.uses_candidates (.user user)) hcandidates
  have hstate := hread.cloud.state
  -- the two ways in which the index has no account of the user
  by_cases hnone : (world.cloud.organization.state.resourcesWith Tags.ownerKey user).isEmpty = true
  · rw [if_pos hnone] at hlooked ⊢
    obtain rfl : found = _ := hlooked
    rw [plan, perform_bind_error hcandidates]
  rw [if_neg hnone] at hlooked ⊢
  by_cases hempty : (world.cloud.organization.state.indexed user).isEmpty = true
  · have hnobody : plannedFor world.cloud.organization.state user = [] := by
      rw [plannedFor, List.isEmpty_iff.1 hempty]
      rfl
    rw [if_pos hempty] at hlooked
    obtain rfl : found = _ := hlooked
    rw [hnobody, List.isEmpty_nil, if_pos rfl, plan, perform_bind_error hcandidates]
  rw [if_neg hempty] at hlooked
  obtain rfl : found = _ := hlooked
  have hcalled : looked.perform (Action.identity .caller) = (.ok caller, looked) := by
    apply perform_caller
    rw [hread.cloud.identity, hcaller]
  obtain ⟨planned, checked, hplanned⟩ : looked.Succeeds (reclaimer.check caller (some user)
      (world.cloud.organization.state.indexed user)) := by
    apply succeeds_check_user (hanswers.of_hasOnlyRead hread) hunprotected
    rw [hstate]
    exact hchecked
  obtain rfl : planned = plannedFor world.cloud.organization.state user := by
    have hformula := (of_perform_check_user hplanned).2
    rw [hstate] at hformula
    exact hformula
  rw [plan, perform_bind_ok hcandidates, perform_bind_ok hcalled, ReclaimTarget.user?,
    perform_bind_ok hplanned]
  dsimp only
  split <;> rfl

end Reclaimer

end Lending

end AccountLending
