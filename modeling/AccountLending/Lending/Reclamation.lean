import AccountLending.Lending.Clearing
import AccountLending.Lending.Ownership
import AccountLending.Time.Calendar

/-!
# Taking accounts back

One account, or all accounts of a user, are taken back to the root of the pool and cleared.  The
accounts are found and checked first, before anything is changed, and the operator is asked once.
Then each account in turn loses its claim tags, moves to the root, and is cleared through the admin
role.  A failure of the first three steps ends the whole run; a failure while clearing does not.

* `plan` — find and check the accounts;
* `release` — return one account, and open a session in it;
* `reclaim` — the whole run.
-/

namespace AccountLending.Lending

/-- What to take back. -/
inductive ReclaimTarget
  | account (id : String)
  /-- Every account of a user. -/
  | user (name : String)
  deriving DecidableEq, Repr, Inhabited

namespace ReclaimTarget

/-- The target in words. -/
def words : ReclaimTarget → String
  | .account id => "account " ++ id
  | .user name => "accounts of user '" ++ name ++ "'"

/-- The user whose accounts are taken back. -/
def user? : ReclaimTarget → Option String
  | .account _ => none
  | .user name => some name

end ReclaimTarget

/-- How a run can end without failing. -/
inductive ReclaimOutcome
  /-- The operator said no, and nothing was changed. -/
  | declined
  | completed (reports : List Report)
  deriving Repr, Inhabited

/-- An account to be taken back, with the owner it had when it was checked. -/
structure Planned where
  account : String
  owner : Option String
  deriving DecidableEq, Repr, Inhabited

/-- Where and how accounts are taken back. -/
structure Reclaimer where
  payer : Payer
  settings : ReclaimSettings

namespace Reclaimer

/-! ## Finding and checking -/

/-- The unit that holds an account; it must be one of the pool's two. -/
def poolParent (reclaimer : Reclaimer) (account : String) : Action String := do
  let parent ← Action.organization (.parentOf account)
  if parent = reclaimer.payer.root ∨ parent = reclaimer.payer.claimed then return parent
  else throw (.notInPool account parent)

/-- The accounts that a target names, not yet checked. -/
def candidates (reclaimer : Reclaimer) : ReclaimTarget → Action (List String)
  | .account id => if AccountId.isValid id then return [id] else throw (.invalidAccountId id)
  | .user name =>
    if reclaimer.settings.isProtectedOwner name then throw (.protectedOwner "-" name)
    else accountsOf name

/-- Check that an account's owner is none that is protected. -/
def checkOwner (reclaimer : Reclaimer) (account : String) : Option String → Action Unit
  | none => Action.log .warn ("Account " ++ account ++ " has no owner tag")
  | some owner =>
    if reclaimer.settings.isProtectedOwner owner then throw (.protectedOwner account owner)
    else return

/-- Check accounts one after the other.  Those that the index still has for the user, but that
belong to somebody else by now, are left out. -/
def check (reclaimer : Reclaimer) (caller : String) (user : Option String) :
    List String → Action (List Planned)
  | [] => return []
  | account :: rest =>
    if account = caller then throw (.payerAccountTarget account)
    else do
      let owner := (← readClaim account).owner?
      match user with
      | some name =>
        if owner = user then
          checkOwner reclaimer account owner
          let _ ← reclaimer.poolParent account
          return ⟨account, owner⟩ :: (← reclaimer.check caller user rest)
        -- the index lags behind the tags, which decide
        else
          Action.log .warn ("Skipping account " ++ account ++ ": indexed for '" ++ name
            ++ "' but owned by '" ++ owner.getD "-" ++ "'")
          reclaimer.check caller user rest
      | none =>
        checkOwner reclaimer account owner
        let _ ← reclaimer.poolParent account
        return ⟨account, owner⟩ :: (← reclaimer.check caller user rest)

/-- Find the accounts of a target and check them all.  Nothing is changed. -/
def plan (reclaimer : Reclaimer) (target : ReclaimTarget) : Action (List Planned) := do
  let accounts ← reclaimer.candidates target
  let caller ← Action.identity .caller
  let planned ← reclaimer.check caller target.user? accounts
  match target with
  | .account _ => return planned
  | .user name => if planned.isEmpty then throw (.noAccountsForUser name) else return planned

/-! ## Returning one account -/

/-- Remove those claim tags that an account carries. -/
def untag (account : String) : Action Unit := do
  let tags ← readTags account
  let present := Tags.claimKeys.filter tags.contains
  if present.isEmpty then Action.log .debug ("Account " ++ account ++ " carries no claim tags")
  else
    Action.organization (.untag account present)
    Action.log .info ("Removed tags " ++ ", ".intercalate present ++ " from account " ++ account)

/-- Move an account back to the root of the pool, unless it is there. -/
def moveBack (reclaimer : Reclaimer) (account : String) : Action Unit := do
  let root := reclaimer.payer.root
  let claimed := reclaimer.payer.claimed
  if (← reclaimer.poolParent account) = root then
    Action.log .debug ("Account " ++ account ++ " already under " ++ root)
  else
    Action.organization (.move account claimed root)
    Action.log .info ("Moved account " ++ account ++ " from " ++ claimed ++ " to " ++ root)

/-- The resource name of the admin role in an account. -/
def adminRoleArn (reclaimer : Reclaimer) (account : String) : String :=
  "arn:aws:iam::" ++ account ++ ":role/" ++ reclaimer.settings.adminRole

/-- Open a session as the admin role in an account. -/
def openSession (reclaimer : Reclaimer) (account : String) : Action Session := do
  let role := reclaimer.adminRoleArn account
  let name := reclaimer.settings.sessionNameStart ++ "-" ++ Time.digits (← Action.host .now)
  Action.log .debug ("Assuming " ++ role ++ " as " ++ name)
  Action.identity (.assumeRole role name reclaimer.settings.sessionSeconds)

/-- Return one account: remove its claim tags, move it to the root, and open a session in it. -/
def release (reclaimer : Reclaimer) (account : String) : Action Session := do
  untag account
  reclaimer.moveBack account
  reclaimer.openSession account

/-! ## The whole run -/

/-- Clear a returned account and say what it came to. -/
def report (reclaimer : Reclaimer) (planned : Planned) (session : Session) : Engine Report := do
  let artifacts ← clear ⟨planned.account, session⟩ reclaimer.settings
  let report : Report := ⟨planned.account, planned.owner, artifacts⟩
  Engine.log .info ("Account " ++ report.account ++ ": " ++ toString report.deletedCount
    ++ " artifact(s) deleted, " ++ toString report.failedCount ++ " failed")
  return report

/-- Return and clear accounts one after the other, after those that have been. -/
def reclaimAll (reclaimer : Reclaimer) (done : List Report) :
    List Planned → Action (List Report)
  | [] => return done
  | planned :: rest => do
    match ← (reclaimer.release planned.account).result with
    -- the reports of the accounts before this one are handed on with the failure
    | .error source => throw (.reclaimAborted planned.account source done)
    | .ok session =>
      let report ← (reclaimer.report planned session : Engine Report)
      reclaimer.reclaimAll (done ++ [report]) rest

/-- The question that is put to the operator. -/
def question (reclaimer : Reclaimer) (target : ReclaimTarget) (planned : List Planned) : String :=
  "Reclaim " ++ target.words ++ " (" ++ ", ".intercalate (planned.map (·.account)) ++ ") into "
    ++ reclaimer.payer.root ++ "? All IAM users, roles and policies in them will be deleted."

/-- Take back what a target names, if the operator agrees. -/
def reclaim (reclaimer : Reclaimer) (confirm : String → Engine Bool) (target : ReclaimTarget) :
    Action ReclaimOutcome := do
  let planned ← reclaimer.plan target
  if ← (confirm (reclaimer.question target planned) : Engine Bool) then
    let reports ← reclaimer.reclaimAll [] planned
    if reports.all Report.isClean then return .completed reports
    else throw (.teardownIncomplete reports)
  else
    Action.log .info ("Reclamation of " ++ target.words ++ " declined")
    return .declined

end Reclaimer

end AccountLending.Lending
