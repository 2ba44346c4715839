import AccountLending.AccountId
import AccountLending.Lending.Listing

/-!
# Lending an account

A free account is lent in four steps: read its tags, write a claim with a fresh token, wait for the
claim to settle, and read the tags back.  Tags cannot be written under a condition, so the token is
what tells who won: a writer that finds another token, or another owner, has lost and leaves the
account alone.  The winner moves the account to the claimed unit.

* `assign` — lend the first free account of the pool;
* `assignAccount` — lend one account that is asked for by its number.
-/

namespace AccountLending.Lending

/-- Whether an account of the listing can be lent. -/
def isEligible (account : Account) : Action Bool :=
  if account.isActive then return (← readClaim account.id).isFree
  else do
    Action.log .debug ("Skipping account " ++ account.id ++ ": status " ++ account.status.toWire)
    return false

/-- The first account of a listing that can be lent. -/
def firstEligible? : List Account → Action (Option Account)
  | [] => return none
  | account :: rest => do
    if ← isEligible account then return some account else firstEligible? rest

/-- The number of the first account under a unit that can be lent. -/
def findFree (root : String) : Action String := do
  let accounts ← poolAccounts root
  match ← firstEligible? accounts with
  | some account => return account.id
  | none => throw (.noUntaggedAccounts root)

/-- Write a claim with a fresh token, and return the token. -/
def writeClaim (account owner : String) : Action String := do
  let token ← Action.host .freshToken
  Action.organization (.tag account (Tags.ofClaim owner token))
  return token

/-- Move an account from one unit to another. -/
def moveAccount (account source destination : String) : Action Unit := do
  Action.log .debug ("Moving account " ++ account ++ " from " ++ source ++ " to " ++ destination)
  Action.organization (.move account source destination)

/-- Let a claim settle. -/
def settle (settings : AllocationSettings) : Action Unit :=
  if settings.settleMilliseconds = 0 then return
  else Action.host (.pause settings.settleMilliseconds)

/-- Whether tags that were read back are those of a claim. -/
def keepsClaim (tags : Tags) (owner token : String) : Bool :=
  tags.get? Tags.tokenKey = some token && tags.owner? = some owner

/-- Claim an account; false when somebody else has it. -/
def claim (settings : AllocationSettings) (account owner : String) : Action Bool := do
  if (← readClaim account).isFree then
    let token ← writeClaim account owner
    settle settings
    return keepsClaim (← readTags account) owner token
  else return false

/-- Move a claimed account to the claimed unit, and return its number. -/
def handOver (payer : Payer) (account owner : String) : Action String := do
  moveAccount account payer.root payer.claimed
  Action.log .info ("Assigned account " ++ account ++ " to " ++ owner)
  return account

/-- Lend the first account of a listing that can be lent and is won. -/
def assignFrom (payer : Payer) (settings : AllocationSettings) (owner : String) :
    List Account → Action String
  | [] => throw (.noUntaggedAccounts payer.root)
  | account :: rest => do
    if ← isEligible account then
      if ← claim settings account.id owner then handOver payer account.id owner
      else
        Action.log .warn ("Lost the claim on account " ++ account.id
          ++ " to a concurrent writer, trying the next one")
        assignFrom payer settings owner rest
    else assignFrom payer settings owner rest

/-- Lend the first free account of the pool. -/
def assign (payer : Payer) (settings : AllocationSettings) (owner : String) : Action String := do
  let accounts ← poolAccounts payer.root
  assignFrom payer settings owner accounts

/-- Why an account that was found in the listing cannot be lent, when its claim says so. -/
def ineligibility? : Claim → Option Ineligibility
  | .free => none
  | .claimed owner => some (.claimedBy owner)
  | .halfTagged _ => some .halfTagged

/-- Lend one account that is asked for by its number. -/
def assignAccount (payer : Payer) (settings : AllocationSettings) (account owner : String) :
    Action String := do
  if AccountId.isValid account then
    let accounts ← poolAccounts payer.root
    match accounts.find? (·.id = account) with
    | none => throw (.notEligible account (.notInRoot payer.root))
    | some found =>
      if found.isActive then
        match ineligibility? (← readClaim account) with
        | some reason => throw (.notEligible account reason)
        | none =>
          if ← claim settings account owner then handOver payer account owner
          else throw (.claimConflict account)
      else throw (.notEligible account (.notActive found.status))
  else throw (.invalidAccountId account)

end AccountLending.Lending
