import AccountLending.Engine

/-!
# Reading the pool

The accounts of a unit, the tags of an account and the claim that they record.  An account whose
tags contradict each other is reported whenever its claim is read.
-/

namespace AccountLending.Lending

/-- The accounts directly under a unit, in the order of the listing; there must be at least one. -/
def poolAccounts (parent : String) : Action (List Account) := do
  let accounts ← Action.organization (.listAccounts parent)
  if accounts.isEmpty then throw (.noAccountsInRoot parent)
  else
    Action.log .trace ("Pool " ++ parent ++ " holds " ++ toString accounts.length ++ " accounts")
    return accounts

/-- The tags of an account. -/
def readTags (account : String) : Action Tags := Action.organization (.listTags account)

/-- The claim that tags record, with a warning when they contradict each other. -/
def observe (account : String) (tags : Tags) : Engine Claim :=
  match Claim.anomaly? account tags with
  | none => return Claim.ofTags tags
  | some anomaly => do
    Engine.log .warn anomaly
    return Claim.ofTags tags

/-- The claim on an account. -/
def readClaim (account : String) : Action Claim := do
  let tags ← readTags account
  observe account tags

end AccountLending.Lending
