import AccountLending.Lending.Reclamation
import AccountLending.Proofs.AccountId
import AccountLending.Proofs.Reading

/-!
# Finding and checking accounts

Before anything is changed, the accounts of a target are found and checked.  This only reads: the
organization is asked about tags and places, and nothing else but the log sees of it.

* `Reclaimer.uses_plan` — finding and checking only reads, however it ends;
* `IsReclaimable` — what is known of an account that passed the checks;
* `Reclaimer.planned_of_perform_plan` — the accounts of a plan are different and all of them passed.
-/

namespace AccountLending

namespace Lending

namespace Reclaimer

variable (reclaimer : Reclaimer)

theorem uses_candidates (target : ReclaimTarget) :
    (reclaimer.candidates target).Uses IsReading := by
  cases target with
  | account id =>
    rw [candidates]
    split <;> trivial
  | user name =>
    rw [candidates]
    split
    · trivial
    · exact uses_accountsOf name

theorem uses_poolParent (account : String) : (reclaimer.poolParent account).Uses IsReading := by
  apply (uses_organization rfl).bind
  intro parent
  split <;> trivial

theorem uses_checkOwner (account : String) (owner : Option String) :
    (reclaimer.checkOwner account owner).Uses IsReading := by
  cases owner with
  | none => exact uses_log _ _
  | some owner =>
    rw [checkOwner]
    split <;> trivial

/-- An account passes its checks, and what comes after it is planned. -/
def accept (reclaimer : Reclaimer) (account : String) (owner : Option String)
    (rest : Action (List Planned)) : Action (List Planned) := do
  reclaimer.checkOwner account owner
  let _ ← reclaimer.poolParent account
  return ⟨account, owner⟩ :: (← rest)

theorem uses_accept (account : String) (owner : Option String) {rest : Action (List Planned)}
    (h : rest.Uses IsReading) : (reclaimer.accept account owner rest).Uses IsReading := by
  apply (reclaimer.uses_checkOwner account owner).bind
  intro _
  apply (reclaimer.uses_poolParent account).bind
  intro _
  exact h.bind fun _ => Action.uses_pure _

theorem uses_check (caller : String) (user : Option String) (accounts : List String) :
    (reclaimer.check caller user accounts).Uses IsReading := by
  induction accounts with
  | nil => trivial
  | cons account rest ih =>
    unfold check
    split
    · trivial
    · apply (uses_readClaim account).bind
      intro claim
      cases user with
      | none => exact reclaimer.uses_accept account claim.owner? ih
      | some name =>
        dsimp only
        split
        · exact reclaimer.uses_accept account claim.owner? ih
        · exact (uses_log _ _).bind fun _ => ih

theorem uses_plan (target : ReclaimTarget) : (reclaimer.plan target).Uses IsReading := by
  apply (reclaimer.uses_candidates target).bind
  intro accounts
  apply uses_caller.bind
  intro caller
  apply (reclaimer.uses_check caller target.user? accounts).bind
  intro planned
  cases target with
  | account id => trivial
  | user name =>
    dsimp only
    split <;> trivial

end Reclaimer

end Lending

/-! ## What is known of a plan -/

namespace Lending

/-- The number is valid, and the account is a member that stands in one of the two units of the pool
and has the owner of the plan. -/
structure IsReclaimable (reclaimer : Reclaimer) (organization : Organization) (planned : Planned) :
    Prop where
  isValid : AccountId.isValid planned.account = true
  member : ∃ member, organization.find? planned.account = some member ∧
    (member.parent = reclaimer.payer.root ∨ member.parent = reclaimer.payer.claimed) ∧
    member.tags.owner? = planned.owner

theorem Reclaimer.exists_of_perform_poolParent {reclaimer : Reclaimer} {account parent : String}
    {world after : World} (h : world.perform (reclaimer.poolParent account) = (.ok parent, after)) :
    ∃ member, world.cloud.organization.state.find? account = some member ∧ member.parent = parent ∧
      (parent = reclaimer.payer.root ∨ parent = reclaimer.payer.claimed) := by
  obtain ⟨found, mid, hfound, hcheck⟩ := World.exists_of_perform_bind h
  obtain ⟨member, hmember, rfl⟩ :=
    Organization.exists_of_fromMember (World.of_perform_organization hfound).2
  split at hcheck
  · rename_i hpool
    obtain rfl : member.parent = parent := (World.eq_of_perform_pure hcheck).1
    exact ⟨member, hmember, rfl, hpool⟩
  · exact absurd hcheck World.perform_throw_ne_ok

theorem Reclaimer.exists_of_perform_accept {reclaimer : Reclaimer} {account : String}
    {owner : Option String} {rest : Action (List Planned)} {planned : List Planned}
    {world after : World}
    (h : world.perform (reclaimer.accept account owner rest) = (.ok planned, after)) :
    ∃ others placed, planned = ⟨account, owner⟩ :: others ∧ world.HasOnlyRead placed ∧
      placed.perform rest = (.ok others, after) ∧
      ∃ member, world.cloud.organization.state.find? account = some member ∧
        (member.parent = reclaimer.payer.root ∨ member.parent = reclaimer.payer.claimed) := by
  obtain ⟨_, checked, hchecked, h⟩ := World.exists_of_perform_bind h
  obtain ⟨parent, placed, hplaced, h⟩ := World.exists_of_perform_bind h
  obtain ⟨others, _, hothers, h⟩ := World.exists_of_perform_bind h
  obtain ⟨hplanned, rfl⟩ := World.eq_of_perform_pure h
  have hchecked := World.hasOnlyRead_of_perform (reclaimer.uses_checkOwner account owner) hchecked
  obtain ⟨member, hmember, rfl, hpool⟩ := Reclaimer.exists_of_perform_poolParent hplaced
  have hread :=
    hchecked.trans (World.hasOnlyRead_of_perform (reclaimer.uses_poolParent account) hplaced)
  rw [hchecked.cloud.state] at hmember
  exact ⟨others, placed, hplanned.symm, hread, hothers, member, hmember, hpool⟩

/-- The accounts that pass the checks are among those that were checked, in the same order. -/
theorem Reclaimer.planned_of_perform_check {reclaimer : Reclaimer} {caller : String}
    {user : Option String} {accounts : List String} {planned : List Planned} {world after : World}
    (h : world.perform (reclaimer.check caller user accounts) = (.ok planned, after))
    (hvalid : ∀ account ∈ accounts, AccountId.isValid account = true) :
    (planned.map (·.account)).Sublist accounts ∧
      ∀ p ∈ planned, IsReclaimable reclaimer world.cloud.organization.state p := by
  induction accounts generalizing planned world after with
  | nil =>
    obtain rfl : [] = planned := (World.eq_of_perform_pure h).1
    simp
  | cons account rest ih =>
    have hrest := fun other hother => hvalid other (List.mem_cons_of_mem account hother)
    rw [check] at h
    split at h
    · exact absurd h World.perform_throw_ne_ok
    obtain ⟨claim, read, hclaim, h⟩ := World.exists_of_perform_bind h
    have hread := World.hasOnlyRead_of_perform (uses_readClaim account) hclaim
    obtain ⟨member, hmember, howner⟩ := exists_of_perform_readClaim hclaim
    -- an accepted account still has the owner that was read, and the rest is checked after it
    have haccepted : read.perform (reclaimer.accept account claim.owner?
        (reclaimer.check caller user rest)) = (.ok planned, after) →
        (planned.map (·.account)).Sublist (account :: rest) ∧
          ∀ p ∈ planned, IsReclaimable reclaimer world.cloud.organization.state p := by
      intro haccept
      obtain ⟨others, placed, rfl, hplaced, hothers, found, hfound, hpool⟩ :=
        Reclaimer.exists_of_perform_accept haccept
      obtain ⟨hsublist, hreclaimable⟩ := ih hothers hrest
      rw [(hread.trans hplaced).cloud.state] at hreclaimable
      rw [hread.cloud.state, hmember] at hfound
      obtain rfl := Option.some.inj hfound
      refine ⟨hsublist.cons_cons account, fun p hp => ?_⟩
      rcases List.mem_cons.1 hp with rfl | hp
      · exact ⟨hvalid account List.mem_cons_self, member, hmember, hpool, howner⟩
      · exact hreclaimable p hp
    cases user with
    | none => exact haccepted h
    | some name =>
      dsimp only at h
      split at h
      · exact haccepted h
      · obtain ⟨_, skipped, hskipped, h⟩ := World.exists_of_perform_bind h
        have hskipped := hread.trans (World.hasOnlyRead_of_perform (uses_log _ _) hskipped)
        obtain ⟨hsublist, hreclaimable⟩ := ih h hrest
        rw [hskipped.cloud.state] at hreclaimable
        exact ⟨hsublist.cons account, hreclaimable⟩

/-- The index gives every account once, and only account numbers. -/
theorem nodup_accountsAmong (user : String) {found : List String} (hnodup : found.Nodup)
    (hvalid : ∀ account ∈ found, AccountId.isValid account = true) (arns : List String)
    (world : World) :
    (world.run (accountsAmong user found arns)).1.Nodup ∧
      ∀ account ∈ (world.run (accountsAmong user found arns)).1,
        AccountId.isValid account = true := by
  induction arns generalizing found world with
  | nil => exact ⟨hnodup, hvalid⟩
  | cons arn rest ih =>
    rw [accountsAmong]
    cases haccount : AccountId.ofArn? arn with
    | none => exact ih hnodup hvalid _
    | some account =>
      dsimp only
      split
      · exact ih hnodup hvalid world
      · rename_i hnew
        refine ih ?_ ?_ world
        · exact List.Nodup.append hnodup (List.nodup_singleton account) (by simpa using hnew)
        · intro other hother
          rcases List.mem_append.1 hother with hother | hother
          · exact hvalid other hother
          · rw [List.mem_singleton.1 hother]
            exact AccountId.isValid_of_ofArn? haccount

theorem Reclaimer.nodup_of_perform_candidates {reclaimer : Reclaimer} {target : ReclaimTarget}
    {accounts : List String} {world after : World}
    (h : world.perform (reclaimer.candidates target) = (.ok accounts, after)) :
    accounts.Nodup ∧ ∀ account ∈ accounts, AccountId.isValid account = true := by
  cases target with
  | account id =>
    rw [candidates] at h
    split at h
    · rename_i hvalid
      obtain rfl : [id] = accounts := (World.eq_of_perform_pure h).1
      exact ⟨List.nodup_singleton id, by simpa using hvalid⟩
    · exact absurd h World.perform_throw_ne_ok
  | user name =>
    rw [candidates] at h
    split at h
    · exact absurd h World.perform_throw_ne_ok
    · obtain ⟨arns, mid, -, h⟩ := World.exists_of_perform_bind h
      split at h
      · exact absurd h World.perform_throw_ne_ok
      · obtain ⟨found, indexed, hfound, h⟩ := World.exists_of_perform_bind h
        rw [World.perform_lift] at hfound
        obtain rfl : (mid.run (accountsAmong name [] arns)).1 = found :=
          Except.ok.inj (congrArg Prod.fst hfound)
        split at h
        · exact absurd h World.perform_throw_ne_ok
        · obtain ⟨rfl, -⟩ := World.eq_of_perform_pure h
          exact nodup_accountsAmong name List.nodup_nil (by simp) arns mid

/-- A plan that was made by its parts: the candidates, the caller, and the checks. -/
theorem Reclaimer.exists_of_perform_plan {reclaimer : Reclaimer} {target : ReclaimTarget}
    {planned : List Planned} {world after : World}
    (h : world.perform (reclaimer.plan target) = (.ok planned, after)) :
    ∃ accounts caller found called,
      world.perform (reclaimer.candidates target) = (.ok accounts, found) ∧
      world.cloud.identity.state = .ok caller ∧ world.HasOnlyRead called ∧
      called.perform (reclaimer.check caller target.user? accounts) = (.ok planned, after) := by
  obtain ⟨accounts, found, haccounts, h⟩ := World.exists_of_perform_bind h
  obtain ⟨caller, called, hcaller, h⟩ := World.exists_of_perform_bind h
  obtain ⟨checked, finished, hchecked, h⟩ := World.exists_of_perform_bind h
  have hfound := World.hasOnlyRead_of_perform (reclaimer.uses_candidates target) haccounts
  have hcalled := hfound.trans (World.hasOnlyRead_of_perform uses_caller hcaller)
  have hstate := World.caller_of_perform hcaller
  rw [hfound.cloud.identity] at hstate
  refine ⟨accounts, caller, found, called, haccounts, hstate, hcalled, ?_⟩
  -- the index may be empty by now, which is only a failure for a user
  cases target with
  | account id =>
    obtain ⟨rfl, rfl⟩ := World.eq_of_perform_pure h
    exact hchecked
  | user name =>
    dsimp only at h
    split at h
    · exact absurd h World.perform_throw_ne_ok
    · obtain ⟨rfl, rfl⟩ := World.eq_of_perform_pure h
      exact hchecked

/-- The plan for one account has that account and no other. -/
theorem Reclaimer.exists_of_perform_plan_account {reclaimer : Reclaimer} {account : String}
    {planned : List Planned} {world after : World}
    (h : world.perform (reclaimer.plan (.account account)) = (.ok planned, after)) :
    ∃ owner, planned = [⟨account, owner⟩] := by
  obtain ⟨accounts, caller, found, called, haccounts, -, -, hchecked⟩ :=
    Reclaimer.exists_of_perform_plan h
  have haccount : accounts = [account] := by
    rw [candidates] at haccounts
    split at haccounts
    · exact (World.eq_of_perform_pure haccounts).1.symm
    · exact absurd haccounts World.perform_throw_ne_ok
  rw [haccount, ReclaimTarget.user?, check] at hchecked
  split at hchecked
  · exact absurd hchecked World.perform_throw_ne_ok
  obtain ⟨claim, read, -, haccepted⟩ := World.exists_of_perform_bind hchecked
  obtain ⟨others, placed, hplanned, -, hothers, -⟩ := Reclaimer.exists_of_perform_accept haccepted
  obtain rfl : [] = others := (World.eq_of_perform_pure hothers).1
  exact ⟨claim.owner?, hplanned⟩

/-- The accounts of a plan are different, and all of them may be taken back. -/
theorem Reclaimer.planned_of_perform_plan {reclaimer : Reclaimer} {target : ReclaimTarget}
    {planned : List Planned} {world after : World}
    (h : world.perform (reclaimer.plan target) = (.ok planned, after)) :
    (planned.map (·.account)).Nodup ∧
      ∀ p ∈ planned, IsReclaimable reclaimer world.cloud.organization.state p := by
  obtain ⟨accounts, caller, found, called, haccounts, -, hcalled, hchecked⟩ :=
    Reclaimer.exists_of_perform_plan h
  obtain ⟨hnodup, hvalid⟩ := Reclaimer.nodup_of_perform_candidates haccounts
  obtain ⟨hsublist, hreclaimable⟩ := Reclaimer.planned_of_perform_check hchecked hvalid
  rw [hcalled.cloud.state] at hreclaimable
  exact ⟨hnodup.sublist hsublist, hreclaimable⟩

end Lending

end AccountLending
