import AccountLending.AccountId
import AccountLending.Lending.Listing

/-!
# Who has what

The three look-ups of ownership: the owner of an account is its owner tag, the accounts of an owner
come from the index of tagged resources, and the owners under a unit are found by reading the tags
of all its accounts.  Nothing is remembered between look-ups.
-/

namespace AccountLending.Lending

/-- The owner of an account. -/
def ownerOf (account : String) : Action String := do
  let tags ← readTags account
  if tags.isEmpty then throw (.noTagsOnAccount account)
  else match tags.owner? with
    | some owner => return owner
    | none => throw (.noOwnerTag account)

/-- The account numbers at the end of resource names, each once and in the order of its first
occurrence, after those already found. -/
def accountsAmong (user : String) (found : List String) : List String → Engine (List String)
  | [] => return found
  | arn :: rest =>
    match AccountId.ofArn? arn with
    | some account =>
      accountsAmong user (if account ∈ found then found else found ++ [account]) rest
    | none => do
      Engine.log .debug ("Skipping non-account resource " ++ arn ++ " tagged owner=" ++ user)
      accountsAmong user found rest

/-- The accounts that the index has for an owner. -/
def accountsOf (user : String) : Action (List String) := do
  let arns ← Action.organization (.findResources Tags.ownerKey user)
  if arns.isEmpty then throw (.noResources user)
  else
    let accounts ← (accountsAmong user [] arns : Engine (List String))
    if accounts.isEmpty then throw (.noAccountsForUser user)
    else return accounts

/-- The accounts of a unit by their owners, as far as they have been read, and how many have
none. -/
structure Census where
  owners : Dict (List String) := Dict.empty
  unowned : Nat := 0

namespace Census

/-- Count an account with its tags. -/
def add (census : Census) (account : String) (tags : Tags) : Census :=
  match tags.owner? with
  | some owner =>
    { census with
      owners := census.owners.insert owner ((census.owners.get? owner).getD [] ++ [account]) }
  | none => { census with unowned := census.unowned + 1 }

end Census

/-- Read the tags of accounts one after the other and count them in. -/
def countAll (census : Census) : List Account → Action Census
  | [] => return census
  | account :: rest => do
    let tags ← readTags account.id
    countAll (census.add account.id tags) rest

/-- The owners under a unit with their accounts in the order of the listing. -/
def ownersUnder (parent : String) : Action (Dict (List String)) := do
  let accounts ← Action.organization (.listAccounts parent)
  if accounts.isEmpty then throw (.noAccountsForParent parent)
  else
    let census ← countAll {} accounts
    if census.owners.isEmpty then throw (.accountsWithNoOwner parent census.unowned)
    else if 0 < census.unowned then
      Action.log .warn (toString census.unowned ++ " account(s) under " ++ parent ++
        " have no owner tag")
      return census.owners
    else return census.owners

end AccountLending.Lending
