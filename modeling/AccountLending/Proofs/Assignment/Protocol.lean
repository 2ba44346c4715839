import AccountLending.Lending.Assignment
import AccountLending.Proofs.Following

/-!
# The protocol of lending

What a party does that lends the first free account of a pool, as a protocol of its calls: the pool
is listed once, the active accounts are looked at in the order of the listing, an account that looks
free is looked at again, then tagged and read back, and moved when the tags are still the party's
own.

* `Stage` — how far a party has come;
* `Asks` — the only request that it makes to the organization at each stage;
* `Moves` — where each reply leads;
* `assign_follows` — lending an account follows the protocol, whatever the replies.
-/

namespace AccountLending.Lending

/-- How far a party has come in lending an account.  What is `rest` has not been looked at yet. -/
inductive Stage
  | unlisted
  | scanning (rest : List Account)
  /-- The account looked free, and is looked at again. -/
  | rechecking (account : Account) (rest : List Account)
  /-- The account looked free twice, and a token is needed for it. -/
  | naming (account : Account) (rest : List Account)
  | tagging (account : Account) (token : String) (rest : List Account)
  /-- The account was tagged with the token, and its tags are read back. -/
  | verifying (account : Account) (token : String) (rest : List Account)
  | moving (account : Account)
  | won (account : String)
  /-- Nothing more can come of it. -/
  | stopped

namespace Stage

/-- The request to the organization that is made at a stage. -/
inductive Asks (payer : Payer) (owner : String) : Stage → Organization.Request → Prop
  | list : Asks payer owner .unlisted (.listAccounts payer.root)
  | look {skipped rest : List Account} {account : Account}
      (hskipped : ∀ other ∈ skipped, other.isActive = false) (hactive : account.isActive = true) :
      Asks payer owner (.scanning (skipped ++ account :: rest)) (.listTags account.id)
  | recheck {account : Account} {rest : List Account} :
      Asks payer owner (.rechecking account rest) (.listTags account.id)
  | tag {account : Account} {token : String} {rest : List Account} :
      Asks payer owner (.tagging account token rest) (.tag account.id (Tags.ofClaim owner token))
  | verify {account : Account} {token : String} {rest : List Account} :
      Asks payer owner (.verifying account token rest) (.listTags account.id)
  | move {account : Account} :
      Asks payer owner (.moving account) (.move account.id payer.root payer.claimed)

/-- Where a call and its reply lead. -/
inductive Moves (payer : Payer) (owner : String) : Stage → (call : Call) → call.Reply → Stage → Prop
  | host {stage : Stage} {request : Host.Request} {reply : request.Answer}
      (hrequest : request ≠ .freshToken) : Moves payer owner stage (.host request) reply stage
  | named {account : Account} {rest : List Account} {token : String} :
      Moves payer owner (.naming account rest) (.host .freshToken) token
        (.tagging account token rest)
  | failed {stage : Stage} {request : Organization.Request} {failure : ServiceError}
      (hasks : Asks payer owner stage request) :
      Moves payer owner stage (.cloud (.organization request)) (.error failure) .stopped
  | listed {accounts : List Account} :
      Moves payer owner .unlisted (.cloud (.organization (.listAccounts payer.root))) (.ok accounts)
        (if accounts.isEmpty then .stopped else .scanning accounts)
  | looked {skipped rest : List Account} {account : Account} {tags : Tags}
      (hskipped : ∀ other ∈ skipped, other.isActive = false) (hactive : account.isActive = true) :
      Moves payer owner (.scanning (skipped ++ account :: rest))
        (.cloud (.organization (.listTags account.id))) (.ok tags)
        (if (Claim.ofTags tags).isFree then .rechecking account rest else .scanning rest)
  | rechecked {account : Account} {rest : List Account} {tags : Tags} :
      Moves payer owner (.rechecking account rest) (.cloud (.organization (.listTags account.id)))
        (.ok tags) (if (Claim.ofTags tags).isFree then .naming account rest else .scanning rest)
  | tagged {account : Account} {token : String} {rest : List Account} :
      Moves payer owner (.tagging account token rest)
        (.cloud (.organization (.tag account.id (Tags.ofClaim owner token)))) (.ok ())
        (.verifying account token rest)
  | verified {account : Account} {token : String} {rest : List Account} {tags : Tags} :
      Moves payer owner (.verifying account token rest)
        (.cloud (.organization (.listTags account.id))) (.ok tags)
        (if keepsClaim tags owner token then .moving account else .scanning rest)
  | moved {account : Account} :
      Moves payer owner (.moving account)
        (.cloud (.organization (.move account.id payer.root payer.claimed))) (.ok ())
        (.won account.id)

/-- The stage at which a party ends with a result: all accounts that are left cannot be lent when it
reports that there is none, and it has stopped when it reports any other failure. -/
def Ends : Except PoolError String → Stage → Prop
  | .ok account, stage => stage = .won account
  | .error (.noUntaggedAccounts _), stage =>
    ∃ rest, stage = .scanning rest ∧ ∀ account ∈ rest, account.isActive = false
  | .error _, stage => stage = .stopped

end Stage

open Stage

variable {payer : Payer} {owner : String}

/-! ## The parts of lending -/

/-- A line for the log does not change the stage. -/
theorem follows_log {level : Log.Level} {message : String}
    {ends : Except PoolError Unit → Stage → Prop} {stage : Stage} (h : ends (.ok ()) stage) :
    (Action.log level message).Follows (Moves payer owner) ends stage := by
  intro reply
  exact ⟨stage, .host (by simp), h⟩

theorem follows_observe {account : String} {tags : Tags}
    {ends : Except PoolError Claim → Stage → Prop}
    {stage : Stage} (h : ends (.ok (Claim.ofTags tags)) stage) :
    Action.Follows (Moves payer owner) ends (liftM (observe account tags)) stage := by
  unfold observe
  cases Claim.anomaly? account tags with
  | none => exact h
  | some anomaly => exact fun _ => ⟨stage, .host (by simp), h⟩

/-- Reading a claim is reading tags. -/
theorem follows_readClaim {account : String} {ends : Except PoolError Claim → Stage → Prop}
    {stage : Stage} {next : Tags → Stage} (hasks : Asks payer owner stage (.listTags account))
    (hmoves : ∀ tags,
      Moves payer owner stage (.cloud (.organization (.listTags account))) (.ok tags) (next tags))
    (hfailed : ∀ failure, ends (.error (.service failure)) .stopped)
    (hread : ∀ tags, ends (.ok (Claim.ofTags tags)) (next tags)) :
    (readClaim account).Follows (Moves payer owner) ends stage := by
  refine (Action.follows_bind ..).2 ((Action.follows_cloud ..).2 fun reply => ?_)
  cases reply with
  | error failure => exact ⟨.stopped, .failed hasks, hfailed failure⟩
  | ok tags => exact ⟨next tags, hmoves tags, follows_observe (hread tags)⟩

theorem follows_settle {settings : AllocationSettings} {ends : Except PoolError Unit → Stage → Prop}
    {stage : Stage} (h : ends (.ok ()) stage) :
    (settle settings).Follows (Moves payer owner) ends stage := by
  unfold settle
  split
  · exact h
  · exact fun _ => ⟨stage, .host (by simp), h⟩

/-- Whether an account can be lent is found out by one look at an active account, and by none at any
other. -/
theorem follows_isEligible {account : Account} {skipped rest : List Account}
    {ends : Except PoolError Bool → Stage → Prop}
    (hskipped : ∀ other ∈ skipped, other.isActive = false)
    (hfailed : ∀ failure, ends (.error (.service failure)) .stopped)
    (hfree : account.isActive = true → ends (.ok true) (.rechecking account rest))
    (htaken : account.isActive = true → ends (.ok false) (.scanning rest))
    (hinactive : account.isActive = false →
      ends (.ok false) (.scanning (skipped ++ account :: rest))) :
    (isEligible account).Follows (Moves payer owner) ends
      (.scanning (skipped ++ account :: rest)) := by
  unfold isEligible
  cases hactive : account.isActive with
  | false =>
    rw [if_neg (by simp), Action.follows_bind]
    exact follows_log (hinactive hactive)
  | true =>
    rw [if_pos rfl, Action.follows_bind]
    apply follows_readClaim (.look hskipped hactive) (fun _ => .looked hskipped hactive) hfailed
    intro tags
    cases hclaim : (Claim.ofTags tags).isFree with
    | false => simpa [hclaim] using htaken hactive
    | true => simpa [hclaim] using hfree hactive

/-- A claim ends with the account to be moved, or with the next account to be looked at. -/
theorem follows_claim {settings : AllocationSettings} {account : Account} {rest : List Account}
    {ends : Except PoolError Bool → Stage → Prop}
    (hfailed : ∀ failure, ends (.error (.service failure)) .stopped)
    (hkept : ends (.ok true) (.moving account)) (hlost : ends (.ok false) (.scanning rest)) :
    (claim settings account.id owner).Follows (Moves payer owner) ends
      (.rechecking account rest) := by
  refine (Action.follows_bind ..).2 (follows_readClaim .recheck (fun _ => .rechecked) hfailed ?_)
  intro tags
  cases hclaim : (Claim.ofTags tags).isFree with
  | false => simpa [hclaim] using hlost
  | true =>
    simp only [Action.onward_ok, hclaim, if_true]
    -- the token, the tags, the pause and the reading back, one after the other
    refine (Action.follows_bind ..).2 ((Action.follows_bind ..).2 fun token => ?_)
    refine ⟨_, .named, (Action.follows_bind ..).2 ((Action.follows_cloud ..).2 fun reply => ?_)⟩
    cases reply with
    | error failure => exact ⟨_, .failed .tag, hfailed failure⟩
    | ok _ =>
      refine ⟨_, .tagged, (Action.follows_bind ..).2 (follows_settle ?_)⟩
      refine (Action.follows_bind ..).2 ((Action.follows_cloud ..).2 fun reply => ?_)
      cases reply with
      | error failure => exact ⟨_, .failed .verify, hfailed failure⟩
      | ok written =>
        refine ⟨_, .verified, ?_⟩
        cases hkeeps : keepsClaim written owner token with
        | false => simpa [hkeeps] using hlost
        | true => simpa [hkeeps] using hkept

theorem follows_handOver {account : Account} :
    (handOver payer account.id owner).Follows (Moves payer owner) Ends (.moving account) := by
  refine (Action.follows_bind ..).2 ((Action.follows_bind ..).2 (follows_log ?_))
  apply (Action.follows_cloud ..).2
  intro reply
  cases reply with
  | error failure => exact ⟨_, .failed .move, rfl⟩
  | ok _ => exact ⟨_, .moved, (Action.follows_bind ..).2 (follows_log rfl)⟩

/-! ## The whole -/

/-- The scan goes on from any place of the listing, as far as only inactive accounts were passed
over since the last look. -/
theorem assignFrom_follows (settings : AllocationSettings) (accounts skipped : List Account)
    (hskipped : ∀ other ∈ skipped, other.isActive = false) :
    (assignFrom payer settings owner accounts).Follows (Moves payer owner) Ends
      (.scanning (skipped ++ accounts)) := by
  induction accounts generalizing skipped with
  | nil => exact ⟨skipped ++ [], rfl, by simpa using hskipped⟩
  | cons account rest ih =>
    refine (Action.follows_bind ..).2 (follows_isEligible hskipped (fun _ => rfl) ?_ ?_ ?_)
    · intro _
      refine (Action.follows_bind ..).2 (follows_claim (fun _ => rfl) follows_handOver ?_)
      exact (Action.follows_bind ..).2 (follows_log (ih [] (by simp)))
    · intro _
      exact ih [] (by simp)
    · intro hinactive
      -- an inactive account is passed over without a call, and joins those that were
      have hrest :=
        ih (skipped ++ [account]) (by simpa [or_imp, forall_and] using ⟨hskipped, hinactive⟩)
      simpa using hrest

/-- Lending the first free account of a pool follows the protocol. -/
theorem assign_follows (payer : Payer) (settings : AllocationSettings) (owner : String) :
    (assign payer settings owner).Follows (Moves payer owner) Ends .unlisted := by
  refine (Action.follows_bind ..).2 ((Action.follows_bind ..).2 ((Action.follows_cloud ..).2 ?_))
  intro reply
  -- an empty pool ends the run just as a failed listing does
  cases reply with
  | error failure => exact ⟨_, .failed .list, rfl⟩
  | ok accounts =>
    refine ⟨_, .listed, ?_⟩
    cases accounts with
    | nil => exact rfl
    | cons account rest =>
      refine (Action.follows_bind ..).2 (follows_log ?_)
      exact assignFrom_follows settings (account :: rest) [] (by simp)

end AccountLending.Lending
