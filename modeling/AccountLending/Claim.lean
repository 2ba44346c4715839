import AccountLending.Tags
import AccountLending.Text.Quoted

/-!
# Claims

The tags of an account say whether it is lent.  Both `owner` and `claimed` are present on a lent
account and absent on a free one.  Exactly one of them means that lending or taking back was
interrupted: such an account is not free, and `Claim.anomaly?` has the words to report it.
-/

namespace AccountLending

/-- What the tags of an account say about its being lent. -/
inductive Claim
  /-- Neither `owner` nor `claimed` is present. -/
  | free
  /-- Both are present. -/
  | claimed (owner : String)
  /-- Exactly one of them is present. -/
  | halfTagged (owner : Option String)
  deriving DecidableEq, Repr, Inhabited

namespace Claim

/-- The claim that tags record. -/
def ofTags (tags : Tags) : Claim :=
  match tags.owner?, tags.contains Tags.claimedKey with
  | none, false => .free
  | some owner, true => .claimed owner
  | owner, _ => .halfTagged owner

/-- Whether the account can be lent. -/
def isFree : Claim → Bool
  | .free => true
  | _ => false

/-- The owner that the tags name. -/
def owner? : Claim → Option String
  | .free => none
  | .claimed owner => some owner
  | .halfTagged owner => owner

theorem isFree_ofTags_iff (tags : Tags) :
    (ofTags tags).isFree = true ↔
      tags.owner? = none ∧ tags.contains Tags.claimedKey = false := by
  unfold ofTags
  cases tags.owner? <;> cases tags.contains Tags.claimedKey <;> simp [isFree]

/-- The owner that the claim names is the owner tag. -/
theorem owner?_ofTags (tags : Tags) : (ofTags tags).owner? = tags.owner? := by
  unfold ofTags
  cases tags.owner? <;> cases tags.contains Tags.claimedKey <;> simp [owner?]

/-- The report of an account whose tags contradict each other. -/
def anomaly? (account : String) (tags : Tags) : Option String :=
  match ofTags tags with
  | .halfTagged owner =>
    some ("Account " ++ account ++ " is partially tagged (owner: " ++ Text.quotedOption owner
      ++ ", claimed: " ++ toString (tags.contains Tags.claimedKey)
      ++ "); treating it as not eligible")
  | _ => none

end Claim

end AccountLending
