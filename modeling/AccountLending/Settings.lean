import AccountLending.Dict
import AccountLending.Text.Parts

/-!
# Settings

What has to be known to run a pool: for each payer the two units that its accounts move between, how
accounts are taken back, and how long a claim is left to settle before it is checked.  Settings that
are read from a document may be at fault (`PoolSettings.fault?`); the built-in ones are not
(`PoolSettings.fault?_builtIn`).
-/

namespace AccountLending

/-- The management account of one organization: where its free and its claimed accounts are kept and
how it is reached. -/
structure Payer where
  /-- The unit of the free accounts. -/
  root : String
  /-- The unit of the claimed accounts. -/
  claimed : String
  /-- The credentials profile, when it is not the default one. -/
  profile : Option String := none
  region : String := "us-east-1"
  deriving DecidableEq, Repr, Inhabited

/-- How accounts are taken back. -/
structure ReclaimSettings where
  /-- The role that is assumed inside an account, and never deleted. -/
  adminRole : String := "OrganizationAccountAccessRole"
  /-- The first part of a session's name. -/
  sessionNameStart : String := "account-pool-reclaim"
  sessionSeconds : Int32 := 900
  /-- Owners whose name starts with one of these are system identities. -/
  protectedOwnerStarts : List String := ["hive"]
  /-- Further roles that are never deleted. -/
  protectedRoles : List String := []
  deriving DecidableEq, Repr, Inhabited

namespace ReclaimSettings

/-- Whether an owner is a system identity, whose accounts are never taken back. -/
def isProtectedOwner (settings : ReclaimSettings) (owner : String) : Bool :=
  settings.protectedOwnerStarts.any (Text.hasPrefix · owner)

end ReclaimSettings

/-- How accounts are lent. -/
structure AllocationSettings where
  /-- How long to wait between writing a claim and reading it back. -/
  settleMilliseconds : UInt64 := 2000
  deriving DecidableEq, Repr, Inhabited

/-- The settings of a pool. -/
structure PoolSettings where
  payers : Dict Payer
  reclaim : ReclaimSettings := {}
  allocation : AllocationSettings := {}
  deriving DecidableEq, Repr, Inhabited

namespace PoolSettings

/-- The payers that need no settings file. -/
def builtIn : PoolSettings where
  payers := Dict.ofList [
    ("osd-staging-1",
      { root := "r-0wd6", claimed := "ou-0wd6-z6tzkjek", profile := "osd-staging-1" }),
    ("osd-staging-2",
      { root := "r-rs3h", claimed := "ou-rs3h-i0v69q47", profile := "osd-staging-2" })]

/-- What is wrong with one payer. -/
def payerFault? (name : String) (payer : Payer) : Option String :=
  if payer.root = "" ∨ payer.claimed = "" then
    some ("payer '" ++ name ++ "' must set both RootOuId and ClaimedOuId")
  else if payer.root = payer.claimed then
    some ("payer '" ++ name ++ "' uses the same OU for free and claimed accounts")
  else none

/-- What is wrong with settings, if anything: there must be a payer, every payer needs two different
units, and a session lasts between a quarter of an hour and half a day. -/
def fault? (settings : PoolSettings) : Option String :=
  if settings.payers.isEmpty then some "no payers configured"
  else match settings.payers.entries.findSome? fun (name, payer) => payerFault? name payer with
    | some fault => some fault
    | none =>
      let seconds := settings.reclaim.sessionSeconds
      if 900 ≤ seconds ∧ seconds ≤ 43200 then none
      else some ("SessionDurationSeconds must be between 900 and 43200, got "
        ++ toString seconds.toInt)

theorem fault?_builtIn : builtIn.fault? = none := by decide +kernel

end PoolSettings

end AccountLending
