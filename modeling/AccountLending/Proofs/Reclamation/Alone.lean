import AccountLending.Proofs.Reclamation.Resolving

/-!
# One account on its own

An account that is named by its number passes the same checks as one that was found for a user.
What the checks ask of an account is said here in one place, so that an account of any plan can be
planned again on its own.

* `World.IsReadable` — the tags and the place of an account can be read;
* `IsAdmitted`, `IsPlannable` — what the checks ask of an account and its owner;
* `Reclaimer.isPlannable_of_perform_plan` — the accounts of a plan passed all checks;
* `Reclaimer.perform_plan_account` — an account that passes is planned on its own, with its owner;
* `Reclaimer.perform_plan_caller` — the account of the caller is refused.
-/

namespace AccountLending

/-- The two requests by which an account is checked are not registered to fail. -/
structure World.IsReadable (world : World) (account : String) : Prop where
  tags : world.isRefused (.cloud (.organization (.listTags account))) = false
  parent : world.isRefused (.cloud (.organization (.parentOf account))) = false

namespace Lending

open World

/-- What the checks ask of an account and its owner, besides its place in the pool: it is not the
caller's, it can be read, and its owner is none that is protected. -/
structure IsAdmitted (reclaimer : Reclaimer) (caller : String) (world : World)
    (p : Planned) : Prop where
  other : p.account ≠ caller
  readable : world.IsReadable p.account
  unprotected : ∀ owner, p.owner = some owner → reclaimer.settings.isProtectedOwner owner = false

/-- An account that passes all checks, with its owner. -/
structure IsPlannable (reclaimer : Reclaimer) (world : World) (p : Planned) : Prop where
  reclaimable : IsReclaimable reclaimer world.cloud.organization.state p
  admitted : ∃ caller, world.cloud.identity.state = .ok caller ∧ IsAdmitted reclaimer caller world p

theorem IsAdmitted.of_isRefused {reclaimer : Reclaimer} {caller : String} {world now : World}
    {p : Planned} (h : IsAdmitted reclaimer caller now p)
    (hsame : ∀ call, now.isRefused call = world.isRefused call) :
    IsAdmitted reclaimer caller world p where
  other := h.other
  readable := ⟨(hsame _).symm.trans h.readable.tags, (hsame _).symm.trans h.readable.parent⟩
  unprotected := h.unprotected

namespace Reclaimer

variable {reclaimer : Reclaimer} {caller account : String} {user owner : Option String}
variable {accounts : List String} {target : ReclaimTarget} {p : Planned} {planned : List Planned}
variable {world mid after : World}

/-! ## Accounts that passed -/

theorem unprotected_of_perform_checkOwner {result : Unit}
    (h : world.perform (reclaimer.checkOwner account owner) = (.ok result, after)) :
    ∀ name, owner = some name → reclaimer.settings.isProtectedOwner name = false := by
  rintro name rfl
  rw [checkOwner] at h
  split at h
  · exact absurd h perform_throw_ne_ok
  · rename_i hunprotected
    exact Bool.eq_false_iff.2 hunprotected

theorem granted_of_perform_readClaim {claim : Claim}
    (h : world.perform (readClaim account) = (.ok claim, after)) :
    world.isRefused (.cloud (.organization (.listTags account))) = false := by
  obtain ⟨tags, _, htags, -⟩ := exists_of_perform_bind h
  exact (of_perform_organization htags).1

theorem granted_of_perform_poolParent {parent : String}
    (h : world.perform (reclaimer.poolParent account) = (.ok parent, after)) :
    world.isRefused (.cloud (.organization (.parentOf account))) = false := by
  obtain ⟨place, _, hplace, -⟩ := exists_of_perform_bind h
  exact (of_perform_organization hplace).1

/-- Accounts that passed the checks were admitted. -/
theorem isAdmitted_of_perform_check
    (h : world.perform (reclaimer.check caller user accounts) = (.ok planned, after)) :
    ∀ p ∈ planned, IsAdmitted reclaimer caller world p := by
  induction accounts generalizing planned world after with
  | nil =>
    obtain rfl : [] = planned := (eq_of_perform_pure h).1
    exact fun p hp => absurd hp List.not_mem_nil
  | cons account rest ih =>
    rw [check] at h
    split at h
    · exact absurd h perform_throw_ne_ok
    rename_i hother
    obtain ⟨claim, read, hclaim, h⟩ := exists_of_perform_bind h
    have hread := hasOnlyRead_of_perform (uses_readClaim account) hclaim
    have haccepted :
        read.perform (reclaimer.accept account claim.owner? (reclaimer.check caller user rest)) =
        (.ok planned, after) → ∀ p ∈ planned, IsAdmitted reclaimer caller world p := by
      intro haccept
      obtain ⟨_, checked, hchecked, haccept⟩ := exists_of_perform_bind haccept
      obtain ⟨parent, placed, hplaced, haccept⟩ := exists_of_perform_bind haccept
      obtain ⟨others, _, hothers, haccept⟩ := exists_of_perform_bind haccept
      obtain ⟨rfl, rfl⟩ := eq_of_perform_pure haccept
      have hcheckedRead := hread.trans
        (hasOnlyRead_of_perform (reclaimer.uses_checkOwner account claim.owner?) hchecked)
      have hplacedRead := hcheckedRead.trans
        (hasOnlyRead_of_perform (reclaimer.uses_poolParent account) hplaced)
      have hplace := granted_of_perform_poolParent hplaced
      rw [hcheckedRead.isRefused] at hplace
      exact List.forall_mem_cons.2
        ⟨⟨hother, ⟨granted_of_perform_readClaim hclaim, hplace⟩,
          unprotected_of_perform_checkOwner hchecked⟩,
          fun p hp => (ih hothers p hp).of_isRefused hplacedRead.isRefused⟩
    cases user with
    | none => exact haccepted h
    | some name =>
      dsimp only at h
      split at h
      · exact haccepted h
      · obtain ⟨_, skipped, hskipped, h⟩ := exists_of_perform_bind h
        have hskippedRead := hread.trans (hasOnlyRead_of_perform (uses_log _ _) hskipped)
        exact fun p hp => (ih h p hp).of_isRefused hskippedRead.isRefused

/-- The accounts of a plan passed all checks. -/
theorem isPlannable_of_perform_plan
    (h : world.perform (reclaimer.plan target) = (.ok planned, after)) :
    ∀ p ∈ planned, IsPlannable reclaimer world p := by
  have hreclaimable := (planned_of_perform_plan h).2
  obtain ⟨accounts, caller, found, called, -, hstate, hcalled, hchecked⟩ := exists_of_perform_plan h
  exact fun p hp => ⟨hreclaimable p hp, caller, hstate,
    (isAdmitted_of_perform_check hchecked p hp).of_isRefused hcalled.isRefused⟩

/-! ## Planning one account -/

theorem perform_candidates_account (hvalid : AccountId.isValid account = true) (world : World) :
    world.perform (reclaimer.candidates (.account account)) = (.ok [account], world) := by
  rw [candidates, if_pos hvalid]
  exact perform_pure _ _

/-- The place of an account is read by one request. -/
theorem uses_parentOf (reclaimer : Reclaimer) (account : String) :
    (reclaimer.poolParent account).Uses (· = .cloud (.organization (.parentOf account))) := by
  have hplace : (Action.organization (.parentOf account)).Uses
      (· = .cloud (.organization (.parentOf account))) := Action.uses_cloud rfl
  apply hplace.bind
  intro parent
  split <;> trivial

/-- The owner of an account passes when it is none that is protected. -/
theorem succeeds_checkOwner
    (h : ∀ name, owner = some name → reclaimer.settings.isProtectedOwner name = false) :
    world.Succeeds (reclaimer.checkOwner account owner) := by
  cases owner with
  | none => exact succeeds_log _ _ _
  | some name =>
    rw [checkOwner, h name rfl]
    exact succeeds_pure _ _

/-- An account that passes is planned on its own, with its owner. -/
theorem perform_plan_account (h : IsPlannable reclaimer world p) :
    ∃ mid, world.perform (reclaimer.plan (.account p.account)) = (.ok [p], mid) := by
  obtain ⟨caller, hcaller, hadmitted⟩ := h.admitted
  obtain ⟨hvalid, member, hmember, hpool, howner⟩ := h.reclaimable
  obtain ⟨claim, read, hclaim⟩ := succeeds_readClaim hadmitted.readable.tags hmember
  have hread := hasOnlyRead_of_perform (uses_readClaim p.account) hclaim
  have howned : claim.owner? = p.owner := by
    obtain ⟨found, hfound, hclaimed⟩ := exists_of_perform_readClaim hclaim
    obtain rfl := Option.some.inj (hmember.symm.trans hfound)
    exact hclaimed.symm.trans howner
  obtain ⟨_, checked, hchecked⟩ : read.Succeeds (reclaimer.checkOwner p.account p.owner) :=
    succeeds_checkOwner hadmitted.unprotected
  have hcheckedRead := hread.trans
    (hasOnlyRead_of_perform (reclaimer.uses_checkOwner p.account p.owner) hchecked)
  obtain ⟨parent, placed, hplaced⟩ : checked.Succeeds (reclaimer.poolParent p.account) := by
    rw [← hcheckedRead.cloud.state] at hmember
    apply succeeds_poolParent hmember hpool
    intro call hcall
    rw [(reclaimer.uses_parentOf p.account).mem_trace hcall, hcheckedRead.isRefused]
    exact hadmitted.readable.parent
  have hcheck : world.perform (reclaimer.check caller none [p.account]) = (.ok [p], placed) := by
    rw [check, if_neg hadmitted.other, perform_bind_ok hclaim]
    dsimp only
    rw [howned, perform_bind_ok hchecked, perform_bind_ok hplaced]
    rfl
  refine ⟨placed, ?_⟩
  rw [plan, perform_bind_ok (perform_candidates_account hvalid world),
    perform_bind_ok (perform_caller hcaller), ReclaimTarget.user?, perform_bind_ok hcheck]
  rfl

/-- The account of the caller is refused. -/
theorem perform_plan_caller (hvalid : AccountId.isValid account = true)
    (hcaller : world.cloud.identity.state = .ok account) :
    (world.perform (reclaimer.plan (.account account))).1 =
      .error (.payerAccountTarget account) := by
  rw [plan, perform_bind_ok (perform_candidates_account hvalid world),
    perform_bind_ok (perform_caller hcaller), ReclaimTarget.user?, check, if_pos rfl]
  rfl

end Reclaimer

end Lending

end AccountLending
