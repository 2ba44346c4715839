import AccountLending.Lending.Assignment
import AccountLending.Proofs.Following

/-!
# How lending fails

Lending an account fails only in a few ways, whatever the replies to its requests.  Looking for the
first free account and lending one that is asked for share most of their steps, and most of these
fail only with a request.

* `Unlent`, `failsWith_assign` — the failures of lending the first free account;
* `Unassigned`, `failsWith_assignAccount` — the failures of lending an account that is asked for.
-/

namespace AccountLending.Lending

open AccountLending.Action (FailsWith)

/-! ## The steps -/

section

variable {allowed : PoolError → Prop} (hservice : ∀ failure, allowed (.service failure))

theorem failsWith_log (level : Log.Level) (message : String) :
    (Action.log level message).FailsWith allowed :=
  .lift _

include hservice

theorem failsWith_readTags (account : String) : (readTags account).FailsWith allowed :=
  .cloud hservice

theorem failsWith_readClaim (account : String) : (readClaim account).FailsWith allowed :=
  .bind (failsWith_readTags hservice account) fun _ => .lift _

theorem failsWith_poolAccounts {root : String} (hempty : allowed (.noAccountsInRoot root)) :
    (poolAccounts root).FailsWith allowed := by
  apply FailsWith.bind (.cloud hservice)
  intro accounts
  split
  · exact .throw hempty
  · exact .bind (failsWith_log _ _) fun _ => .pure _

theorem failsWith_isEligible (account : Account) : (isEligible account).FailsWith allowed := by
  unfold isEligible
  split
  · exact .bind (failsWith_readClaim hservice account.id) fun _ => .pure _
  · exact .bind (failsWith_log _ _) fun _ => .pure _

theorem failsWith_claim (settings : AllocationSettings) (account owner : String) :
    (claim settings account owner).FailsWith allowed := by
  apply FailsWith.bind (failsWith_readClaim hservice account)
  intro found
  split
  · have hwrite : (writeClaim account owner).FailsWith allowed :=
      .bind (.lift _) fun token => .bind (.cloud hservice) fun _ => .pure token
    have hsettle : (settle settings).FailsWith allowed := by
      unfold settle
      split
      · exact .pure ()
      · exact .lift _
    exact .bind hwrite fun _ => .bind hsettle fun _ =>
      .bind (failsWith_readTags hservice account) fun _ => .pure _
  · exact .pure false

theorem failsWith_handOver (payer : Payer) (account owner : String) :
    (handOver payer account owner).FailsWith allowed :=
  .bind (.bind (failsWith_log _ _) fun _ => .cloud hservice) fun _ =>
    .bind (failsWith_log _ _) fun _ => .pure _

end

/-! ## Lending the first free account -/

/-- The failures of lending the first free account: a failed request, an empty pool, and a pool in
which nothing is free. -/
inductive Unlent (root : String) : PoolError → Prop
  | service (failure : ServiceError) : Unlent root (.service failure)
  | noAccounts : Unlent root (.noAccountsInRoot root)
  | noneFree : Unlent root (.noUntaggedAccounts root)

theorem failsWith_assignFrom (payer : Payer) (settings : AllocationSettings) (owner : String)
    (accounts : List Account) :
    (assignFrom payer settings owner accounts).FailsWith (Unlent payer.root) := by
  induction accounts with
  | nil => exact .throw .noneFree
  | cons account rest ih =>
    apply FailsWith.bind (failsWith_isEligible .service account)
    intro eligible
    split
    · apply FailsWith.bind (failsWith_claim .service settings account.id owner)
      intro won
      split
      · exact failsWith_handOver .service payer account.id owner
      · exact .bind (failsWith_log _ _) fun _ => ih
    · exact ih

/-- Losing a claim is no failure of lending the first free account. -/
theorem failsWith_assign (payer : Payer) (settings : AllocationSettings) (owner : String) :
    (assign payer settings owner).FailsWith (Unlent payer.root) :=
  .bind (failsWith_poolAccounts .service .noAccounts) (failsWith_assignFrom payer settings owner)

/-! ## Lending an account that is asked for -/

/-- The failures of lending an account that is asked for: its number is none, a request failed, the
pool is empty, the account cannot be lent, or its claim was lost. -/
inductive Unassigned (root account : String) : PoolError → Prop
  | invalid :
      AccountId.isValid account = false → Unassigned root account (.invalidAccountId account)
  | service (failure : ServiceError) : Unassigned root account (.service failure)
  | noAccounts : Unassigned root account (.noAccountsInRoot root)
  | ineligible (reason : Ineligibility) : Unassigned root account (.notEligible account reason)
  | lost : Unassigned root account (.claimConflict account)

theorem failsWith_assignAccount (payer : Payer) (settings : AllocationSettings)
    (account owner : String) :
    (assignAccount payer settings account owner).FailsWith (Unassigned payer.root account) := by
  rw [assignAccount]
  by_cases hvalid : AccountId.isValid account = true
  · rw [if_pos hvalid]
    apply FailsWith.bind (failsWith_poolAccounts .service .noAccounts)
    intro accounts
    split
    · exact .throw (.ineligible _)
    · split
      · apply FailsWith.bind (failsWith_readClaim .service account)
        intro found
        split
        · exact .throw (.ineligible _)
        · apply FailsWith.bind (failsWith_claim .service settings account owner)
          intro won
          split
          · exact failsWith_handOver .service payer account owner
          · exact .throw .lost
      · exact .throw (.ineligible _)
  · rw [if_neg hvalid]
    exact .throw (.invalid (Bool.eq_false_iff.2 hvalid))

end AccountLending.Lending
