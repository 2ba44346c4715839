import AccountLending.Dict

/-!
# Tags of an account

An account carries named text values, its tags.  Three of them record who has borrowed it: `owner`
and `claimed` are written and removed together, and `claim-token` tells the writers of a claim
apart.
-/

namespace AccountLending

/-- The tags of an account. -/
abbrev Tags := Dict String

namespace Tags

/-- The tag that holds the borrower's name. -/
def ownerKey : String := "owner"

/-- The tag that marks an account as claimed. -/
def claimedKey : String := "claimed"

/-- The tag that holds the random token of the claim. -/
def tokenKey : String := "claim-token"

/-- The tags that a claim consists of, in the order in which they are removed. -/
def claimKeys : List String := [ownerKey, claimedKey, tokenKey]

/-- The borrower's name. -/
def owner? (tags : Tags) : Option String := tags.get? ownerKey

/-- The tags that a claim writes. -/
def ofClaim (owner token : String) : Tags :=
  Dict.ofList [(ownerKey, owner), (claimedKey, "true"), (tokenKey, token)]

end Tags

end AccountLending
