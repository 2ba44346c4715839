import AccountLending.Lending.Assignment
import AccountLending.Proofs.Assignment.Undisturbed
import AccountLending.Proofs.Reclamation.Alone
import AccountLending.Proofs.Reclamation.Completion

/-!
# What is lent can be taken back

An account is lent by what its tags and its status say, and is taken back by its number, its owner,
its place and whose credentials the caller has.  An account that was lent passes all that is asked
before it is taken back, unless it is the caller's own: nothing keeps the caller's account from
being lent when it stands in the pool.

* `IsLending` — the two ways of lending an account;
* `IsLent` — what an account is when it has been lent;
* `isLent_of_isLending` — lending that succeeds leaves such an account;
* `World.plan_lent_account` — whether an account that was lent can be taken back.
-/

namespace AccountLending

/-! ## What no call changes -/

namespace World

variable {α : Type}

/-- No call changes which requests to the organization are registered to fail. -/
theorem failing_serve (call : Call) (world : World) :
    (World.serve call world).2.cloud.organization.failing = world.cloud.organization.failing := by
  match call with
  | .cloud (.organization request) => exact Organization.failing_serve request _
  | .cloud (.identity (.assumeRole arn name _)) =>
    exact congrArg Journaled.failing (world.cloud.assumeRole_keeps arn name).1
  | .cloud (.identity .caller) | .cloud (.iam ..) | .host _ => rfl

theorem failing_perform (action : Action α) (world : World) :
    (world.perform action).2.cloud.organization.failing = world.cloud.organization.failing :=
  perform_keeps (Action.uses_any action)
    (fun call now _ (hnow : now.cloud.organization.failing = world.cloud.organization.failing) =>
      (failing_serve call now).trans hnow) rfl

end World

namespace Lending

open World

variable {payer : Payer} {settings : AllocationSettings} {owner account lent : String}
variable {accounts : List Account} {world claimed after : World}

/-! ## One account -/

/-- An account that was lent: it stands in the claimed unit with its owner's tag, which can be
read. -/
structure IsLent (payer : Payer) (owner account : String) (world : World) : Prop where
  member : ∃ member, world.cloud.organization.state.find? account = some member ∧
    member.parent = payer.claimed ∧ member.tags.owner? = some owner
  readable : world.isRefused (.cloud (.organization (.listTags account))) = false

/-- An account that was won has the owner's tag, since it was read back. -/
theorem of_perform_claim (h : world.perform (claim settings account owner) = (.ok true, after)) :
    (∃ member, after.cloud.organization.state.find? account = some member ∧
      member.tags.owner? = some owner) ∧
      after.isRefused (.cloud (.organization (.listTags account))) = false := by
  obtain ⟨claim, read, -, h⟩ := exists_of_perform_bind h
  split at h
  · obtain ⟨token, written, -, h⟩ := exists_of_perform_bind h
    obtain ⟨_, settled, -, h⟩ := exists_of_perform_bind h
    obtain ⟨tags, back, hback, h⟩ := exists_of_perform_bind h
    obtain ⟨hkeeps, rfl⟩ := eq_of_perform_pure h
    obtain ⟨member, hmember, rfl⟩ := exists_of_perform_readTags hback
    have hread := hasOnlyRead_of_perform (uses_readTags account) hback
    have hgranted : settled.isRefused (.cloud (.organization (.listTags account))) = false :=
      (of_perform_organization hback).1
    simp only [keepsClaim, Bool.and_eq_true, decide_eq_true_eq] at hkeeps
    refine ⟨⟨member, ?_, hkeeps.2⟩, (hread.isRefused _).trans hgranted⟩
    rw [hread.cloud.state]
    exact hmember
  · exact absurd (eq_of_perform_pure h).1 Bool.false_ne_true

/-- An account that is handed over moves to the claimed unit and stays what it is otherwise. -/
theorem of_perform_handOver (h : world.perform (handOver payer account owner) = (.ok lent, after)) :
    lent = account ∧
      HasChanged account (fun member => { member with parent := payer.claimed }) world after := by
  obtain ⟨_, moved, hmove, h⟩ := exists_of_perform_bind h
  obtain ⟨_, told, htold, h⟩ := exists_of_perform_bind h
  obtain ⟨rfl, rfl⟩ := eq_of_perform_pure h
  obtain ⟨_, said, hsaid, hmoved⟩ := exists_of_perform_bind hmove
  obtain ⟨member, hmember, hparent⟩ :=
    Organization.exists_of_answer_move (of_perform_organization hmoved).2
  have hchanged :
      HasChanged account (fun member => { member with parent := payer.claimed }) said moved :=
    hasChanged_of_perform hmoved (fun _ => rfl)
      (congrArg Prod.snd (Organization.answer_move hmember hparent))
  have hbefore := (hasOnlyRead_of_perform (uses_log _ _) hsaid).hasChanged account
  exact ⟨rfl, hbefore.trans
    (hchanged.trans ((hasOnlyRead_of_perform (uses_log _ _) htold).hasChanged account))⟩

/-- An account that was won and handed over has been lent. -/
theorem isLent_of_perform
    (hclaim : world.perform (claim settings account owner) = (.ok true, claimed))
    (hover : claimed.perform (handOver payer account owner) = (.ok lent, after)) :
    lent = account ∧ IsLent payer owner account after := by
  obtain ⟨⟨member, hmember, howner⟩, hreadable⟩ := of_perform_claim hclaim
  obtain ⟨hlent, hchanged⟩ := of_perform_handOver hover
  refine ⟨hlent, ⟨{ member with parent := payer.claimed }, ?_, rfl, howner⟩,
    (hchanged.isRefused _).trans hreadable⟩
  rw [hchanged.find?, if_pos rfl, hmember, Option.map_some]

/-! ## An account of the pool -/

/-- The accounts of a unit are accounts of members. -/
theorem of_perform_poolAccounts {parent : String}
    (h : world.perform (poolAccounts parent) = (.ok accounts, after)) :
    ∀ account ∈ accounts, ∃ member ∈ world.cloud.organization.state.members,
      member.account = account := by
  obtain ⟨listed, read, hlisted, h⟩ := exists_of_perform_bind h
  split at h
  · exact absurd h perform_throw_ne_ok
  obtain ⟨_, told, -, h⟩ := exists_of_perform_bind h
  obtain ⟨rfl, -⟩ := eq_of_perform_pure h
  obtain rfl : _ = listed := Except.ok.inj (of_perform_organization hlisted).2
  intro account haccount
  obtain ⟨member, hmember, haccount⟩ := List.mem_map.1 haccount
  exact ⟨member, List.mem_of_mem_filter hmember, haccount⟩

/-- The account that is lent is one of those that were listed. -/
theorem isLent_of_perform_assignFrom
    (h : world.perform (assignFrom payer settings owner accounts) = (.ok lent, after)) :
    (∃ account ∈ accounts, account.id = lent) ∧ IsLent payer owner lent after := by
  induction accounts generalizing world with
  | nil => exact absurd h perform_throw_ne_ok
  | cons account rest ih =>
    -- an account that is passed over, or lost, leaves the rest of the listing
    have hrest : ∀ {now : World},
        now.perform (assignFrom payer settings owner rest) = (.ok lent, after) →
        (∃ other ∈ account :: rest, other.id = lent) ∧ IsLent payer owner lent after := fun h =>
      (ih h).imp_left fun ⟨other, hother, hid⟩ => ⟨other, List.mem_cons_of_mem _ hother, hid⟩
    obtain ⟨eligible, looked, -, h⟩ := exists_of_perform_bind h
    split at h
    · obtain ⟨won, claimed, hclaim, h⟩ := exists_of_perform_bind h
      split at h
      · rename_i hwon
        rw [hwon] at hclaim
        obtain ⟨rfl, hlent⟩ := isLent_of_perform hclaim h
        exact ⟨⟨account, List.mem_cons_self, rfl⟩, hlent⟩
      · obtain ⟨_, told, -, h⟩ := exists_of_perform_bind h
        exact hrest h
    · exact hrest h

theorem isLent_of_perform_assignAccount
    (h : world.perform (assignAccount payer settings account owner) = (.ok lent, after)) :
    AccountId.isValid lent = true ∧ IsLent payer owner lent after := by
  rw [assignAccount] at h
  split at h
  · rename_i hvalid
    obtain ⟨accounts, listed, -, h⟩ := exists_of_perform_bind h
    split at h
    · exact absurd h perform_throw_ne_ok
    split at h
    · obtain ⟨claim, read, -, h⟩ := exists_of_perform_bind h
      split at h
      · exact absurd h perform_throw_ne_ok
      obtain ⟨won, claimed, hclaim, h⟩ := exists_of_perform_bind h
      split at h
      · rename_i hwon
        rw [hwon] at hclaim
        obtain ⟨rfl, hlent⟩ := isLent_of_perform hclaim h
        exact ⟨hvalid, hlent⟩
      · exact absurd h perform_throw_ne_ok
    · exact absurd h perform_throw_ne_ok
  · exact absurd h perform_throw_ne_ok

/-- The two ways of lending an account of a pool: the first one that is free, or one by its
number. -/
inductive IsLending (payer : Payer) (settings : AllocationSettings) (owner : String) :
    Action String → Prop
  | first : IsLending payer settings owner (assign payer settings owner)
  | asked (account : String) :
      IsLending payer settings owner (assignAccount payer settings account owner)

/-- Lending that succeeds leaves a lent account with a valid number. -/
theorem isLent_of_isLending {lending : Action String}
    (hlending : IsLending payer settings owner lending)
    (hvalid : ∀ member ∈ world.cloud.organization.state.members,
      AccountId.isValid member.account.id = true)
    (h : world.perform lending = (.ok lent, after)) :
    AccountId.isValid lent = true ∧ IsLent payer owner lent after := by
  cases hlending with
  | first =>
    obtain ⟨accounts, listed, hlisted, h⟩ := exists_of_perform_bind h
    obtain ⟨⟨account, haccount, rfl⟩, hlent⟩ := isLent_of_perform_assignFrom h
    obtain ⟨member, hmember, rfl⟩ := of_perform_poolAccounts hlisted account haccount
    exact ⟨hvalid member hmember, hlent⟩
  | asked account => exact isLent_of_perform_assignAccount h

/-- An account that was lent and is not the caller's passes all checks. -/
theorem IsLent.isPlannable {reclaimer : Reclaimer} {caller : String}
    (h : IsLent reclaimer.payer owner account world) (hvalid : AccountId.isValid account = true)
    (hplace : world.isRefused (.cloud (.organization (.parentOf account))) = false)
    (hunprotected : reclaimer.settings.isProtectedOwner owner = false)
    (hcaller : world.cloud.identity.state = .ok caller) (hother : account ≠ caller) :
    IsPlannable reclaimer world ⟨account, some owner⟩ where
  reclaimable := by
    obtain ⟨member, hmember, hparent, howner⟩ := h.member
    exact ⟨hvalid, member, hmember, .inr hparent, howner⟩
  admitted := by
    refine ⟨caller, hcaller, hother, ⟨h.readable, hplace⟩, ?_⟩
    rintro name ⟨⟩
    exact hunprotected

end Lending

open Lending

/-- An account of the pool has been lent to an owner who is not protected, whether it was asked for
or not, in an organization whose members have valid numbers.  When the caller is known and the place
of the account may be read, the account is planned to be taken back, with its owner and nothing
else, unless it is the caller's own: that one is refused. -/
theorem World.plan_lent_account {world lent : World} {reclaimer : Reclaimer}
    {settings : AllocationSettings} {owner account caller : String} {lending : Action String}
    (hlending : IsLending reclaimer.payer settings owner lending)
    (hvalid : ∀ member ∈ world.cloud.organization.state.members,
      AccountId.isValid member.account.id = true)
    (hcaller : world.cloud.identity.state = .ok caller)
    (hunprotected : reclaimer.settings.isProtectedOwner owner = false)
    (hplace : world.isRefused (.cloud (.organization (.parentOf account))) = false)
    (hlent : world.perform lending = (.ok account, lent)) :
    (lent.perform (reclaimer.plan (.account account))).1 =
      if account = caller then .error (.payerAccountTarget account)
      else .ok [⟨account, some owner⟩] := by
  obtain ⟨hnumber, hislent⟩ := isLent_of_isLending hlending hvalid hlent
  have hstate : lent.cloud.identity.state = .ok caller := by
    have hkept := caller_perform lending world
    rw [hlent] at hkept
    exact hkept.trans hcaller
  by_cases hown : account = caller
  · rw [if_pos hown]
    exact Reclaimer.perform_plan_caller hnumber (hown ▸ hstate)
  · rw [if_neg hown]
    have hstill : lent.isRefused (.cloud (.organization (.parentOf account))) = false := by
      have hkept := failing_perform lending world
      rw [hlent] at hkept
      rw [← hplace, isRefused, isRefused, Journaled.fails, Journaled.fails, hkept]
    obtain ⟨mid, hplan⟩ := Reclaimer.perform_plan_account
      (hislent.isPlannable hnumber hstill hunprotected hstate hown)
    rw [hplan]

/-! ### The caller's account in the pool -/

/-- A world with one account, which is free under the root of a pool.  It is the caller's own when
it is said so. -/
def freeWorld (own : Bool) : World where
  cloud :=
    (Cloud.ofCaller (.ok (if own then "111122223333" else "999999999999"))).changeOrganization
      (·.addMember ⟨{ id := "111122223333", status := .active }, "r-pool", Dict.empty⟩)

theorem exists_assign_free (own : Bool) :
    ∃ lent, (freeWorld own).perform (assign lentReclaimer.payer {} "alice") =
      (.ok "111122223333", lent) := by
  apply World.exists_of_toOption
  cases own <;> decide +kernel

/-- The account is planned when it is not the caller's. -/
theorem plan_lent_account_free : ∃ lent,
    (freeWorld false).perform (assign lentReclaimer.payer {} "alice") = (.ok "111122223333", lent) ∧
      (lent.perform (lentReclaimer.plan (.account "111122223333"))).1 =
        .ok [⟨"111122223333", some "alice"⟩] := by
  obtain ⟨lent, hlent⟩ := exists_assign_free false
  have hvalid : ∀ member ∈ (freeWorld false).cloud.organization.state.members,
      AccountId.isValid member.account.id = true := by
    decide
  have hplan := World.plan_lent_account .first hvalid rfl (by decide +kernel) rfl hlent
  rw [if_neg (by decide)] at hplan
  exact ⟨lent, hlent, hplan⟩

/-- The account is lent when it is the caller's, and cannot be taken back, although no request is
refused, nobody else writes and the owner is not protected. -/
theorem plan_lent_account_caller : (freeWorld true).cloud.IsUndisturbed ∧
    (∀ member ∈ (freeWorld true).cloud.organization.state.members,
      AccountId.isValid member.account.id = true) ∧
    (freeWorld true).cloud.identity.state = .ok "111122223333" ∧
    lentReclaimer.settings.isProtectedOwner "alice" = false ∧ ∃ lent,
      (freeWorld true).perform (assign lentReclaimer.payer {} "alice") =
        (.ok "111122223333", lent) ∧
        (lent.perform (lentReclaimer.plan (.account "111122223333"))).1 =
          .error (.payerAccountTarget "111122223333") := by
  obtain ⟨lent, hlent⟩ := exists_assign_free true
  have hcaller := World.caller_perform (assign lentReclaimer.payer {} "alice") (freeWorld true)
  rw [hlent] at hcaller
  exact ⟨⟨fun _ => rfl, rfl, by decide⟩, by decide, rfl, by decide +kernel, lent, hlent,
    Reclaimer.perform_plan_caller (by decide) hcaller⟩

end AccountLending
