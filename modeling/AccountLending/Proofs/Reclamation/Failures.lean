import AccountLending.Proofs.Assignment.Failures
import AccountLending.Proofs.Reclamation.Planning

/-!
# How taking back fails

Before anything is changed, the accounts of a target are found and checked, and this fails in ways
of its own.  A run that gets past it can still be aborted or leave something, but no longer in those
ways.

* `Unplanned`, `Reclaimer.failsWith_plan` — the failures of finding and checking the accounts of a
  target;
* `Unreclaimed`, `Reclaimer.failsWith_reclaim` — the failures of a whole run.
-/

namespace AccountLending.Lending

open AccountLending.Action (FailsWith)

/-- The failures of finding and checking the accounts of a target. -/
inductive Unplanned : ReclaimTarget → PoolError → Prop
  | invalid {id : String} :
      AccountId.isValid id = false → Unplanned (.account id) (.invalidAccountId id)
  | noResources {user : String} : Unplanned (.user user) (.noResources user)
  | noAccounts {user : String} : Unplanned (.user user) (.noAccountsForUser user)
  | service {target : ReclaimTarget} (failure : ServiceError) : Unplanned target (.service failure)
  | callers {target : ReclaimTarget} (account : String) :
      Unplanned target (.payerAccountTarget account)
  | guarded {target : ReclaimTarget} (account owner : String) :
      Unplanned target (.protectedOwner account owner)
  | elsewhere {target : ReclaimTarget} (account parent : String) :
      Unplanned target (.notInPool account parent)

/-- The failures of taking back what a target names. -/
inductive Unreclaimed (target : ReclaimTarget) : PoolError → Prop
  | unplanned {e : PoolError} : Unplanned target e → Unreclaimed target e
  | aborted (account : String) (source : PoolError) (reports : List Report) :
      Unreclaimed target (.reclaimAborted account source reports)
  | incomplete (reports : List Report) : Unreclaimed target (.teardownIncomplete reports)

namespace Reclaimer

theorem failsWith_accountsOf (user : String) :
    (accountsOf user).FailsWith (Unplanned (.user user)) := by
  refine FailsWith.bind (.cloud .service) fun arns => ?_
  split
  · exact .throw .noResources
  · refine FailsWith.bind (.lift _) fun accounts => ?_
    split
    · exact .throw .noAccounts
    · exact .pure _

theorem failsWith_candidates (reclaimer : Reclaimer) (target : ReclaimTarget) :
    (reclaimer.candidates target).FailsWith (Unplanned target) := by
  cases target with
  | account id =>
    rw [candidates]
    split
    · exact .pure _
    · rename_i hvalid
      exact .throw (.invalid (Bool.eq_false_iff.2 hvalid))
  | user name =>
    rw [candidates]
    split
    · exact .throw (.guarded _ _)
    · exact failsWith_accountsOf name

theorem failsWith_accept (reclaimer : Reclaimer) {target : ReclaimTarget} (account : String)
    (owner : Option String) {rest : Action (List Planned)}
    (hrest : rest.FailsWith (Unplanned target)) :
    (reclaimer.accept account owner rest).FailsWith (Unplanned target) := by
  have howner : (reclaimer.checkOwner account owner).FailsWith (Unplanned target) := by
    cases owner with
    | none => exact .lift _
    | some owner =>
      rw [checkOwner]
      split
      · exact .throw (.guarded _ _)
      · exact .pure _
  have hplace : (reclaimer.poolParent account).FailsWith (Unplanned target) := by
    refine FailsWith.bind (.cloud .service) fun parent => ?_
    split
    · exact .pure _
    · exact .throw (.elsewhere _ _)
  exact howner.bind fun _ => hplace.bind fun _ => FailsWith.bind hrest fun _ => .pure _

theorem failsWith_check (reclaimer : Reclaimer) (target : ReclaimTarget) (caller : String)
    (user : Option String) (accounts : List String) :
    (reclaimer.check caller user accounts).FailsWith (Unplanned target) := by
  induction accounts with
  | nil => exact .pure _
  | cons account rest ih =>
    rw [check]
    split
    · exact .throw (.callers account)
    · refine FailsWith.bind (failsWith_readClaim .service account) fun claim => ?_
      cases user with
      | none => exact reclaimer.failsWith_accept account claim.owner? ih
      | some name =>
        dsimp only
        split
        · exact reclaimer.failsWith_accept account claim.owner? ih
        · exact FailsWith.bind (.lift _) fun _ => ih

/-- Finding and checking the accounts of a target neither aborts a run nor leaves anything. -/
theorem failsWith_plan (reclaimer : Reclaimer) (target : ReclaimTarget) :
    (reclaimer.plan target).FailsWith (Unplanned target) := by
  refine (reclaimer.failsWith_candidates target).bind fun accounts =>
    FailsWith.bind (.cloud .service)
    fun caller => (reclaimer.failsWith_check target caller _ accounts).bind fun planned => ?_
  cases target with
  | account id => exact .pure _
  | user name =>
    dsimp only
    split
    · exact .throw .noAccounts
    · exact .pure _

theorem failsWith_reclaimAll (reclaimer : Reclaimer) (target : ReclaimTarget) (done : List Report)
    (planned : List Planned) :
    (reclaimer.reclaimAll done planned).FailsWith (Unreclaimed target) := by
  induction planned generalizing done with
  | nil => exact .pure done
  | cons first rest ih =>
    refine FailsWith.bind (.result _) fun released => ?_
    cases released with
    | error source => exact .throw (.aborted ..)
    | ok session => exact FailsWith.bind (.lift _) fun report => ih _

/-- A run fails while it makes its plan, or because it was aborted or has left something. -/
theorem failsWith_reclaim (reclaimer : Reclaimer) (confirm : String → Engine Bool)
    (target : ReclaimTarget) :
    (reclaimer.reclaim confirm target).FailsWith (Unreclaimed target) := by
  have hplan := (reclaimer.failsWith_plan target).mono fun _ => Unreclaimed.unplanned
  refine hplan.bind fun planned => FailsWith.bind (.lift _) fun confirmed => ?_
  split
  · refine (reclaimer.failsWith_reclaimAll target [] planned).bind fun reports => ?_
    split
    · exact .pure _
    · exact .throw (.incomplete reports)
  · exact FailsWith.bind (.lift _) fun _ => .pure _

end Reclaimer

end AccountLending.Lending
