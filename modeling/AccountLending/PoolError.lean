import AccountLending.Claim
import AccountLending.Account
import AccountLending.Report
import AccountLending.ServiceError

/-!
# Failures of lending and taking back

Everything that can keep an account from being lent, looked up or taken back.  `PoolError.message`
has the words for it; `PoolError.causes` lists the failures behind it, the nearest first.
-/

namespace AccountLending

/-- Why an account that was asked for by its number cannot be lent. -/
inductive Ineligibility
  | notInRoot (root : String)
  | notActive (status : AccountStatus)
  | claimedBy (owner : String)
  | halfTagged
  deriving DecidableEq, Repr, Inhabited

/-- The words for an ineligibility. -/
def Ineligibility.message : Ineligibility → String
  | .notInRoot root => "it is not in the pool root " ++ root
  | .notActive status => "status is " ++ status.toWire
  | .claimedBy owner => "already claimed by '" ++ owner ++ "'"
  | .halfTagged => "it is partially tagged"

/-- Why settings cannot be used. -/
inductive SettingsFault
  /-- The file cannot be read. -/
  | unreadable (path cause : String)
  /-- The file's text is not the document of settings. -/
  | malformed
  /-- The settings break a rule. -/
  | invalid (fault : String)
  deriving DecidableEq, Repr, Inhabited

namespace SettingsFault

/-- The words for unusable settings. -/
def message : SettingsFault → String
  | .unreadable path _ => "Failed to read configuration file '" ++ path ++ "'"
  | .malformed => "Failed to parse pool configuration JSON"
  | .invalid fault => fault

/-- What made settings unusable, when it is not a rule of their own. -/
def cause? : SettingsFault → Option String
  | .unreadable _ cause => some cause
  | .malformed => some "the text is not a settings document"
  | .invalid _ => none

end SettingsFault

/-- A failure of lending, looking up or taking back accounts. -/
inductive PoolError
  /-- A request to a service failed. -/
  | service (error : ServiceError)
  | noAccountsInRoot (parent : String)
  | noUntaggedAccounts (parent : String)
  | noTagsOnAccount (account : String)
  | noOwnerTag (account : String)
  | noResources (user : String)
  | noAccountsForUser (user : String)
  | noAccountsForParent (parent : String)
  | accountsWithNoOwner (parent : String) (count : Nat)
  | protectedOwner (account owner : String)
  | payerAccountTarget (account : String)
  | notInPool (account parent : String)
  | notEligible (account : String) (reason : Ineligibility)
  /-- Somebody else claimed the account at the same time. -/
  | claimConflict (account : String)
  | invalidAccountId (account : String)
  | unknownPayer (payer : String) (known : List String)
  | settings (fault : SettingsFault)
  /-- All accounts were cleared, but not of everything. -/
  | teardownIncomplete (reports : List Report)
  /-- Taking back stopped at an account, after those of the reports were cleared. -/
  | reclaimAborted (account : String) (source : PoolError) (reports : List Report)
  deriving Repr, Inhabited

namespace PoolError

/-- How many artifacts could not be deleted, over all reports. -/
def failedTotal (reports : List Report) : Nat :=
  reports.foldr (fun report n => report.failedCount + n) 0

/-- The words for a failure. -/
def message : PoolError → String
  | .service error => "AWS operation failed: " ++ error.message
  | .noAccountsInRoot parent => "No accounts found under root OU '" ++ parent ++ "'"
  | .noUntaggedAccounts parent => "No untagged accounts available under '" ++ parent ++ "'"
  | .noTagsOnAccount account => "No tags on account " ++ account
  | .noOwnerTag account => "No owner tag on account " ++ account
  | .noResources user => "No resources tagged with owner '" ++ user ++ "'"
  | .noAccountsForUser user => "No accounts found for user '" ++ user ++ "'"
  | .noAccountsForParent parent => "No accounts found for parent '" ++ parent ++ "'"
  | .accountsWithNoOwner parent count =>
    "None of the " ++ toString count ++ " accounts under '" ++ parent ++ "' has an owner tag"
  | .protectedOwner account owner =>
    "Refusing to reclaim account " ++ account ++ ": owner '" ++ owner
      ++ "' is a protected system identity"
  | .payerAccountTarget account =>
    "Refusing to reclaim account " ++ account ++ ": it is the payer account"
  | .notInPool account parent =>
    "Refusing to reclaim account " ++ account ++ ": it is under '" ++ parent ++
      "', outside the pool"
  | .notEligible account reason =>
    "Account " ++ account ++ " is not eligible for allocation: " ++ reason.message
  | .claimConflict account => "Account " ++ account ++ " was claimed concurrently; claim rejected"
  | .invalidAccountId account => "Invalid account ID '" ++ account ++ "': expected 12 digits"
  | .unknownPayer payer known =>
    "Unknown payer account '" ++ payer ++ "'. Known payers: " ++ ", ".intercalate known
  | .settings fault => "Configuration error: " ++ fault.message
  | .teardownIncomplete reports =>
    "Teardown incomplete: " ++ toString (failedTotal reports) ++ " artifact(s) could not be removed"
  | .reclaimAborted account _ reports =>
    "Reclamation stopped at account " ++ account ++ " after " ++ toString reports.length
      ++ " account(s) were torn down"

/-- The words for the failures behind a failure, the nearest first. -/
def causes : PoolError → List String
  | .service error => [error.message]
  | .settings fault => fault.cause?.toList
  | .reclaimAborted _ source _ => source.message :: source.causes
  | _ => []

end PoolError

end AccountLending
