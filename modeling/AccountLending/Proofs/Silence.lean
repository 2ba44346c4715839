import AccountLending.Client
import AccountLending.Lending.Assignment
import AccountLending.Proofs.Reclamation.Footprint

/-!
# Operations write nothing

The result of an operation is written by the command that asked for it.  The operations themselves
tell what they do in the log, and ask the operator in the way that they are given, but write nothing
to the standard output.  Nor is anything written while their requests are sent.

* `Call.IsSilent` — a call that writes nothing to the standard output;
* `Lending.silent_assign`, `silent_assignAccount`, `silent_ownerOf`, `silent_accountsOf`,
  `silent_ownersUnder`, `Reclaimer.silent_reclaim` — the operations are silent;
* `Client.uses_answer` — a request is answered by sending it, page by page, and nothing else is
  written.
-/

namespace AccountLending

/-- A call that writes nothing to the standard output. -/
def Call.IsSilent : Call → Prop
  | .host (.print _) => False
  | _ => True

namespace Lending

/-! ## The parts of operations -/

theorem isSilent_of_isReading (call : Call) (h : IsReading call) : call.IsSilent := by
  match call, h with
  | .cloud _, _ => trivial
  | .host (.log _), _ => trivial

theorem isSilent_of_isTakingBack {payer : Payer} (call : Call) (h : call.IsTakingBack payer) :
    call.IsSilent := by
  rcases h with ⟨account, h⟩ | ⟨session, h⟩
  · match call, h with
    | .cloud _, _ => trivial
    | .host (.log _), _ => trivial
    | .host .now, _ => trivial
  · match call, h with
    | .cloud _, _ => trivial
    | .host (.log _), _ => trivial

theorem silent_log (level : Log.Level) (message : String) :
    (Action.log level message).Uses Call.IsSilent :=
  ⟨trivial, fun _ => trivial⟩

theorem silent_organization (request : Organization.Request) :
    (Action.organization request).Uses Call.IsSilent :=
  Action.uses_cloud trivial

theorem silent_readClaim (account : String) : (readClaim account).Uses Call.IsSilent :=
  (uses_readClaim account).mono isSilent_of_isReading

theorem silent_poolAccounts (parent : String) : (poolAccounts parent).Uses Call.IsSilent := by
  apply (silent_organization _).bind
  intro accounts
  split
  · trivial
  · exact (silent_log _ _).bind fun _ => trivial

/-! ## Lending an account -/

theorem silent_isEligible (account : Account) : (isEligible account).Uses Call.IsSilent := by
  unfold isEligible
  split
  · exact (silent_readClaim _).bind fun _ => trivial
  · exact (silent_log _ _).bind fun _ => trivial

theorem silent_settle (settings : AllocationSettings) : (settle settings).Uses Call.IsSilent := by
  unfold settle
  split
  · trivial
  · exact ⟨trivial, fun _ => trivial⟩

theorem silent_claim (settings : AllocationSettings) (account owner : String) :
    (claim settings account owner).Uses Call.IsSilent := by
  have hwrite : (writeClaim account owner).Uses Call.IsSilent :=
    ⟨trivial, fun _ => (silent_organization _).bind fun _ => trivial⟩
  apply (silent_readClaim account).bind
  intro found
  split
  · exact hwrite.bind fun _ => (silent_settle settings).bind fun _ =>
      (silent_organization _).bind fun _ => trivial
  · trivial

theorem silent_handOver (payer : Payer) (account owner : String) :
    (handOver payer account owner).Uses Call.IsSilent := by
  have hmove : (moveAccount account payer.root payer.claimed).Uses Call.IsSilent :=
    (silent_log _ _).bind fun _ => silent_organization _
  exact hmove.bind fun _ => (silent_log _ _).bind fun _ => trivial

theorem silent_assignFrom (payer : Payer) (settings : AllocationSettings) (owner : String)
    (accounts : List Account) : (assignFrom payer settings owner accounts).Uses Call.IsSilent := by
  induction accounts with
  | nil => trivial
  | cons account rest ih =>
    apply (silent_isEligible account).bind
    intro eligible
    split
    · apply (silent_claim settings account.id owner).bind
      intro won
      split
      · exact silent_handOver payer account.id owner
      · exact (silent_log _ _).bind fun _ => ih
    · exact ih

theorem silent_assign (payer : Payer) (settings : AllocationSettings) (owner : String) :
    (assign payer settings owner).Uses Call.IsSilent :=
  (silent_poolAccounts payer.root).bind fun accounts =>
    silent_assignFrom payer settings owner accounts

theorem silent_assignAccount (payer : Payer) (settings : AllocationSettings)
    (account owner : String) : (assignAccount payer settings account owner).Uses Call.IsSilent := by
  unfold assignAccount
  split
  case isFalse => trivial
  apply (silent_poolAccounts payer.root).bind
  intro accounts
  split
  case h_1 => trivial
  split
  case isFalse => trivial
  apply (silent_readClaim account).bind
  intro found
  split
  case h_1 => trivial
  apply (silent_claim settings account owner).bind
  intro won
  split
  · exact silent_handOver payer account owner
  · trivial

/-! ## Looking up -/

theorem silent_ownerOf (account : String) : (ownerOf account).Uses Call.IsSilent := by
  apply (silent_organization _).bind
  intro tags
  split
  · trivial
  · split <;> trivial

theorem silent_accountsOf (user : String) : (accountsOf user).Uses Call.IsSilent :=
  (uses_accountsOf user).mono isSilent_of_isReading

theorem silent_countAll (census : Census) (accounts : List Account) :
    (countAll census accounts).Uses Call.IsSilent := by
  induction accounts generalizing census with
  | nil => trivial
  | cons account rest ih => exact (silent_organization _).bind fun _ => ih _

theorem silent_ownersUnder (parent : String) : (ownersUnder parent).Uses Call.IsSilent := by
  apply (silent_organization _).bind
  intro accounts
  split
  case isTrue => trivial
  apply (silent_countAll {} accounts).bind
  intro census
  split
  case isTrue => trivial
  split
  · exact (silent_log _ _).bind fun _ => trivial
  · trivial

/-! ## Taking accounts back -/

/-- A reclamation is silent when asking the operator is. -/
theorem Reclaimer.silent_reclaim (reclaimer : Reclaimer) {confirm : String → Engine Bool}
    (hconfirm : ∀ question, (confirm question).Uses Call.IsSilent) (target : ReclaimTarget) :
    (reclaimer.reclaim confirm target).Uses Call.IsSilent := by
  have hplan := (reclaimer.uses_plan target).mono isSilent_of_isReading
  apply hplan.bind
  intro planned
  apply (Action.uses_lift (hconfirm _)).bind
  intro agreed
  split
  · apply ((reclaimer.uses_reclaimAll [] planned).mono isSilent_of_isTakingBack).bind
    intro reports
    split <;> trivial
  · exact (silent_log _ _).bind fun _ => trivial

end Lending

/-! ## Sending requests -/

namespace Client

/-- A call that sends a request or writes a line to the log. -/
def Call.IsSending : Call → Prop
  | .send _ | .host (.log _) => True
  | _ => False

theorem uses_send (request : Cloud.Request) (marker : Option String) :
    (send request marker).Uses Call.IsSending :=
  ⟨trivial, fun _ => trivial⟩

theorem uses_log (level : Log.Level) (message : String) : (log level message).Uses Call.IsSending :=
  ⟨trivial, fun _ => trivial⟩

theorem uses_collect {α : Type} {page : Option String → Client (Except Fault (Wire.Page α))}
    (hpage : ∀ marker, (page marker).Uses Call.IsSending) (next : Continuation α) (limit : Nat)
    (marker : Option String) : (collect page next limit marker).Uses Call.IsSending := by
  induction limit generalizing marker with
  | zero => trivial
  | succ limit ih =>
    apply (hpage marker).bind
    intro reply
    split
    · trivial
    · split
      · trivial
      · exact (ih _).bind fun _ => trivial

theorem uses_list {α β : Type} (limit : Nat) (request : Cloud.Request)
    {page : Option String → Client (Except Fault (Wire.Page α))}
    (hpage : ∀ marker, (page marker).Uses Call.IsSending) (next : Continuation α)
    (gather : List α → β) : (list limit request page next gather).Uses Call.IsSending := by
  apply (uses_collect hpage next limit none).bind
  intro reply
  split <;> trivial

theorem uses_submit {α : Type} (request : Cloud.Request)
    (read : Wire.Output request → Except ServiceError α) :
    (submit request read).Uses Call.IsSending := by
  apply (uses_send request none).bind
  intro reply
  split <;> trivial

theorem uses_organization (limit : Nat) (request : Organization.Request) :
    (organization limit request).Uses Call.IsSending := by
  cases request with
  | listAccounts parent =>
    apply (uses_list limit _ (uses_send _) whileMarked Wire.accounts).bind
    intro reply
    split
    · trivial
    · exact (uses_log _ _).bind fun _ => trivial
  | parentOf account => exact uses_submit _ _
  | listTags account => exact uses_list limit _ (uses_send _) whileMarked Wire.tags
  | tag account tags => exact uses_submit _ _
  | untag account keys => exact uses_submit _ _
  | move account source destination => exact uses_submit _ _
  | findResources key value =>
    exact uses_list limit _ (uses_send _) whileMarkedByText (List.filterMap id)

theorem uses_identity (request : Identity.Request) : (identity request).Uses Call.IsSending := by
  cases request with
  | caller => exact uses_submit _ _
  | assumeRole arn name seconds =>
    apply (uses_send _ none).bind
    intro reply
    split
    · trivial
    · trivial
    · exact (uses_log _ _).bind fun _ => trivial

theorem uses_iam (limit : Nat) (session : Option Session) (request : Iam.Request) :
    (iam limit session request).Uses Call.IsSending := by
  cases request with
  | query query => exact uses_list limit _ (uses_send _) whileTruncated query.gather
  | remove removal => exact uses_submit _ _
  | deleteLoginProfile user =>
    apply (uses_send _ none).bind
    intro reply
    split
    · trivial
    · split <;> trivial

/-- A request is answered by sending it, and by nothing else that could be seen. -/
theorem uses_answer (limit : Nat) (request : Cloud.Request) :
    (answer limit request).Uses Call.IsSending := by
  cases request with
  | organization request => exact uses_organization limit request
  | identity request => exact uses_identity request
  | iam session request => exact uses_iam limit session request

end Client

end AccountLending
