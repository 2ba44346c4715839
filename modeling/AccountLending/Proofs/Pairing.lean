import AccountLending.Proofs.Assignment.Discipline
import AccountLending.Proofs.Clearing.Whole
import AccountLending.Proofs.Concurrent
import AccountLending.Proofs.Reclamation.Agreement

/-!
# An owner and a claim come and go together

Lending writes both tags at once, and taking back removes both at once, as far as they were there
when the tags were read.  Others may write or remove tags between that look and the removal.  Still
no account is ever left with one of the two, as long as none was at the beginning: what a party
remembers of the tags that it has read is a pair as well, so that it removes both or neither.

* `Tags.IsPaired`, `Organization.IsPaired` — an owner and a claim are there together, or not at all;
* `Heeds` — the protocol: a party changes tags only as it may after the tags that it has read last;
* `Errand` — what the parties do, each for a pool of its own;
* `isPaired_of_run` — every state that they reach together is paired.
-/

namespace AccountLending

/-! ## Pairs of tags -/

namespace Tags

/-- An owner and a claim are there together, or not at all. -/
def IsPaired (tags : Tags) : Prop := tags.contains ownerKey = tags.contains claimedKey

instance (tags : Tags) : Decidable tags.IsPaired :=
  inferInstanceAs (Decidable (tags.contains ownerKey = tags.contains claimedKey))

/-- Paired tags are those that do not contradict each other. -/
theorem isPaired_iff (tags : Tags) :
    tags.IsPaired ↔ ∀ owner, Claim.ofTags tags ≠ .halfTagged owner := by
  unfold IsPaired Claim.ofTags owner?
  rw [Dict.contains]
  cases tags.get? ownerKey <;> cases tags.contains claimedKey <;> simp

theorem isPaired_ofClaim (owner token : String) : (ofClaim owner token).IsPaired := by
  simp [IsPaired, Dict.contains, get?_ofClaim, ownerKey, claimedKey, tokenKey]

namespace IsPaired

variable {tags new : Tags}

theorem empty : IsPaired Dict.empty := rfl

theorem insertAll (h : tags.IsPaired) (hnew : new.IsPaired) :
    IsPaired (tags.insertAll new.entries) := by
  simp only [IsPaired, Dict.contains, Dict.get?_insertAll_entries, Option.isSome_or] at *
  rw [h, hnew]

/-- Tags that are written, and a rival's claim after them, keep pairs. -/
theorem written (h : tags.IsPaired) (hnew : new.IsPaired) (rival : Option String) :
    (Organization.written tags new rival).IsPaired := by
  cases rival with
  | none => exact h.insertAll hnew
  | some owner => exact (h.insertAll hnew).insertAll (isPaired_ofClaim owner _)

theorem eraseAll (h : tags.IsPaired) {keys : List String}
    (hkeys : ownerKey ∈ keys ↔ claimedKey ∈ keys) : IsPaired (tags.eraseAll keys) := by
  simp only [IsPaired, Dict.contains, Dict.get?_eraseAll, hkeys] at *
  split
  · rfl
  · exact h

/-- Of paired tags, both or neither are among those to be removed. -/
theorem mem_present (h : tags.IsPaired) :
    ownerKey ∈ claimKeys.filter tags.contains ↔ claimedKey ∈ claimKeys.filter tags.contains := by
  have hkeys : tags.contains ownerKey = tags.contains claimedKey := h
  simp [claimKeys, hkeys]

end IsPaired

end Tags

namespace Organization

/-- A request that cannot part an owner from a claim. -/
def Request.KeepsPairs : Request → Prop
  | .tag _ tags => tags.IsPaired
  | .untag _ keys => Tags.ownerKey ∈ keys ↔ Tags.claimedKey ∈ keys
  | _ => True

/-- The tags of every member are paired. -/
def IsPaired (organization : Organization) : Prop :=
  ∀ member ∈ organization.members, member.tags.IsPaired

instance (organization : Organization) : Decidable organization.IsPaired :=
  inferInstanceAs (Decidable (∀ member ∈ organization.members, member.tags.IsPaired))

namespace IsPaired

variable {organization : Organization}

theorem change (h : organization.IsPaired) (account : String) {f : Member → Member}
    (hf : ∀ member, member.tags.IsPaired → (f member).tags.IsPaired) :
    (organization.change account f).IsPaired := by
  obtain ⟨members, resources, rivals⟩ := organization
  change ∀ member ∈ members, member.tags.IsPaired at h
  change ∀ member ∈ changeFirst account f members, member.tags.IsPaired
  induction members with
  | nil => exact h
  | cons first rest ih =>
    obtain ⟨hfirst, hrest⟩ := List.forall_mem_cons.1 h
    rw [changeFirst]
    split
    · exact List.forall_mem_cons.2 ⟨hf first hfirst, hrest⟩
    · exact List.forall_mem_cons.2 ⟨hfirst, ih hrest⟩

/-- A request that keeps pairs leaves the tags of every member paired. -/
theorem answer (h : organization.IsPaired) {request : Request} (hrequest : request.KeepsPairs) :
    (organization.answer request).2.IsPaired := by
  cases request with
  | tag account tags =>
    have hrivals : IsPaired { organization with rivals := organization.rivals.erase account } := h
    exact hrivals.change account fun member hmember => hmember.written hrequest _
  | untag account keys => exact h.change account fun member hmember => hmember.eraseAll hrequest
  | move account source destination =>
    simp only [Organization.answer]
    split
    · exact h
    · split
      · exact h.change account fun member hmember => hmember
      · exact h
  | _ => exact h

theorem serve {service : Journaled Organization Request} (h : service.state.IsPaired)
    {request : Request} (hrequest : request.KeepsPairs) :
    (Organization.serve request service).2.state.IsPaired := by
  unfold Organization.serve
  split
  · exact h
  · exact h.answer hrequest

/-- Tags that are read from paired ones are paired. -/
theorem read {service : Journaled Organization Request} (h : service.state.IsPaired)
    {account : String} {tags : Tags}
    (hread : (Organization.serve (.listTags account) service).1 = .ok tags) : tags.IsPaired := by
  unfold Organization.serve at hread
  split at hread
  · simp at hread
  · cases hfind : service.state.find? account with
    | none => simp [Organization.answer, fromMember, hfind] at hread
    | some member =>
      simp only [Organization.answer, fromMember, hfind, mapError_ok] at hread
      rw [← Except.ok.inj hread]
      exact h member (List.mem_of_find?_eq_some hfind)

end IsPaired

end Organization

/-! ## A cloud among others -/

/-- A cloud with other rivals waiting for the next tags written. -/
def Cloud.withRivals (cloud : Cloud) (rivals : Dict String) : Cloud :=
  cloud.changeOrganization fun organization => { organization with rivals }

/-- What a cloud replies to one of several parties.  Rivals may have been registered since the last
call, and any request may fail, which changes nothing of the organization.  A host may reply
anything. -/
inductive Cloud.Responds : (call : Call) → Cloud → call.Reply → Cloud → Prop
  | served {request : Cloud.Request} {cloud : Cloud} (rivals : Dict String) :
      Responds (.cloud request) cloud (Cloud.serve request (cloud.withRivals rivals)).1
        (Cloud.serve request (cloud.withRivals rivals)).2
  | failed {request : Cloud.Request} {cloud after : Cloud} {failure : ServiceError}
      (hsame : after.organization.state = cloud.organization.state) :
      Responds (.cloud request) cloud (.error failure) after
  | host {request : Host.Request} {cloud : Cloud} {reply : request.Answer} :
      Responds (.host request) cloud reply cloud

/-- A call that cannot part an owner from a claim. -/
def Call.KeepsPairs : Call → Prop
  | .cloud (.organization request) => request.KeepsPairs
  | _ => True

theorem Cloud.Responds.isPaired {call : Call} {reply : call.Reply} {cloud after : Cloud}
    (h : Cloud.Responds call cloud reply after) (hcloud : cloud.organization.state.IsPaired)
    (hcall : call.KeepsPairs) : after.organization.state.IsPaired := by
  cases h with
  | @served request _ rivals =>
    have hcontested : (cloud.withRivals rivals).organization.state.IsPaired := hcloud
    cases request with
    | organization request => exact hcontested.serve hcall
    | iam session request => exact hcontested
    | identity request =>
      cases request with
      | caller => exact hcontested
      | assumeRole arn name seconds =>
        have hkeeps := ((cloud.withRivals rivals).assumeRole_keeps arn name).1
        exact congrArg Journaled.state hkeeps ▸ hcontested
  | failed hsame => exact hsame ▸ hcloud
  | host => exact hcloud

theorem Cloud.Responds.read {account : String} {tags : Tags} {cloud after : Cloud}
    (h : Cloud.Responds (.cloud (.organization (.listTags account))) cloud (.ok tags) after)
    (hcloud : cloud.organization.state.IsPaired) : tags.IsPaired := by
  generalize hreply : (Except.ok tags : Except ServiceError Tags) = reply at h
  cases h with
  | served rivals =>
    have hcontested : (cloud.withRivals rivals).organization.state.IsPaired := hcloud
    exact hcontested.read hreply.symm
  | failed => simp at hreply

/-! ## What a party remembers -/

/-- A party changes tags only as it may when those that it has read last were paired. -/
inductive Heeds : Tags → (call : Call) → call.Reply → Tags → Prop
  | read {seen tags : Tags} {account : String} :
      Heeds seen (.cloud (.organization (.listTags account))) (.ok tags) tags
  | other {seen : Tags} {call : Call} {reply : call.Reply}
    (hcall : seen.IsPaired → call.KeepsPairs) :
      Heeds seen call reply seen

/-- A program changes tags only as it may, whatever tags were read before it. -/
def Program.IsHeedful {α : Type} (p : Engine α) : Prop :=
  ∀ seen, p.Follows Heeds (fun _ _ => True) seen

namespace Program.IsHeedful

variable {α β : Type}

theorem bind {p : Engine α} {f : α → Engine β} (hp : p.IsHeedful) (hf : ∀ a, (f a).IsHeedful) :
    (p.bind f).IsHeedful := by
  intro seen
  apply (Program.follows_bind p f ..).2
  exact (hp seen).mono (fun _ _ _ _ h => h) fun a place _ => hf a place

/-- A program that makes no call which can part an owner from a claim is heedful. -/
theorem of_uses {allowed : Call → Prop} {p : Engine α} (hp : p.Uses allowed)
    (hallowed : ∀ call, allowed call → call.KeepsPairs) : p.IsHeedful := by
  intro seen
  induction p with
  | done a => trivial
  | call op next ih =>
    exact fun reply => ⟨seen, .other fun _ => hallowed op hp.1, ih reply (hp.2 reply)⟩

end Program.IsHeedful

namespace Action

variable {α β : Type}

/-- An action changes tags only as it may, whatever tags were read before it. -/
def IsHeedful (action : Action α) : Prop := action.run.IsHeedful

namespace IsHeedful

theorem pure (a : α) : (pure a : Action α).IsHeedful := fun _ => trivial

theorem throw (e : PoolError) : (throw e : Action α).IsHeedful := fun _ => trivial

theorem lift {p : Engine α} (hp : p.IsHeedful) : Action.IsHeedful (ExceptT.lift p) :=
  Program.IsHeedful.bind hp fun _ _ => trivial

theorem result {action : Action α} (h : action.IsHeedful) : action.result.IsHeedful :=
  Program.IsHeedful.bind h fun _ _ => trivial

theorem bind {action : Action α} {f : α → Action β} (haction : action.IsHeedful)
    (hf : ∀ a, (f a).IsHeedful) : (action >>= f).IsHeedful := by
  apply Program.IsHeedful.bind haction
  intro result
  cases result with
  | ok a => exact hf a
  | error e => exact fun _ => trivial

theorem of_uses {allowed : Call → Prop} {action : Action α} (h : action.Uses allowed)
    (hallowed : ∀ call, allowed call → call.KeepsPairs) : action.IsHeedful :=
  Program.IsHeedful.of_uses h hallowed

theorem log (level : Log.Level) (message : String) : (Action.log level message).IsHeedful :=
  .lift fun _ _ => ⟨_, .other fun _ => trivial, trivial⟩

theorem cloud {request : Cloud.Request} (h : Call.KeepsPairs (.cloud request)) :
    (Action.cloud request).IsHeedful :=
  fun _ _ => ⟨_, .other fun _ => h, trivial⟩

end IsHeedful

end Action

namespace Lending

variable {payer : Payer} {owner : String}

/-! ## Lending -/

/-- Lending writes both tags at once, and removes none. -/
theorem keepsPairs_of_steps {stage stage' : Stage} {call : Call} {reply : call.Reply}
    (h : Steps payer owner stage call reply stage') : call.KeepsPairs := by
  cases h with
  | picked => trivial
  | move hmoves =>
    cases hmoves with
    | failed hasks =>
      cases hasks with
      | tag => exact Tags.isPaired_ofClaim owner _
      | _ => trivial
    | tagged => exact Tags.isPaired_ofClaim owner _
    | _ => trivial

theorem isHeedful_of_steps {ends : Except PoolError String → Stage → Prop} {action : Action String}
    {stage : Stage} (h : action.Follows (Steps payer owner) ends stage) : action.IsHeedful :=
  fun seen => Program.Follows.stays h seen fun _ _ _ _ hsteps => .other fun _ =>
    keepsPairs_of_steps hsteps

theorem isHeedful_assign (payer : Payer) (settings : AllocationSettings) (owner : String) :
    (assign payer settings owner).IsHeedful :=
  isHeedful_of_steps (follows_steps payer owner (assign_follows payer settings owner))

theorem isHeedful_assignAccount (payer : Payer) (settings : AllocationSettings)
    (account owner : String) : (assignAccount payer settings account owner).IsHeedful :=
  isHeedful_of_steps (assignAccount_follows payer settings account owner)

/-! ## Taking back -/

namespace Reclaimer

variable (reclaimer : Reclaimer)

theorem keepsPairs_of_isReading (call : Call) (h : IsReading call) : call.KeepsPairs := by
  cases call with
  | host request => trivial
  | cloud request =>
    cases request with
    | organization request =>
      cases request <;> simp_all [IsReading, Organization.Request.isMutation,
        Call.KeepsPairs, Organization.Request.KeepsPairs]
    | identity request => trivial
    | iam session request => trivial

theorem keepsPairs_of_isOwnCall {session : Session} (call : Call) (h : IsOwnCall session call) :
    call.KeepsPairs := by
  cases call with
  | host request => trivial
  | cloud request =>
    cases request with
    | organization request => exact absurd h id
    | identity request => trivial
    | iam session request => trivial

/-- Only what was read is removed, and of a pair that is both or neither. -/
theorem isHeedful_untag (account : String) : (untag account).IsHeedful := by
  intro seen
  refine (Action.follows_bind ..).2 ((Action.follows_cloud ..).2 fun reply => ?_)
  cases reply with
  | error failure => exact ⟨seen, .other fun _ => trivial, trivial⟩
  | ok tags =>
    refine ⟨tags, .read, ?_⟩
    show Action.Follows Heeds _ (if _ then _ else _) tags
    split
    · exact Action.IsHeedful.log _ _ tags
    · refine (Action.follows_bind ..).2 ((Action.follows_cloud ..).2 fun reply => ?_)
      refine ⟨tags, .other fun hpaired => hpaired.mem_present, ?_⟩
      cases reply with
      | error failure => trivial
      | ok _ => exact Action.IsHeedful.log _ _ tags

theorem isHeedful_moveBack (account : String) : (reclaimer.moveBack account).IsHeedful := by
  apply Action.IsHeedful.bind (.of_uses (reclaimer.uses_poolParent account) keepsPairs_of_isReading)
  intro parent
  split
  · exact .log _ _
  · exact .bind (.cloud trivial) fun _ => .log _ _

theorem isHeedful_openSession (account : String) : (reclaimer.openSession account).IsHeedful :=
  .bind (.lift fun _ _ => ⟨_, .other fun _ => trivial, trivial⟩) fun _ =>
    .bind (.log _ _) fun _ => .cloud trivial

theorem isHeedful_report (planned : Planned) (session : Session) :
    (reclaimer.report planned session).IsHeedful := by
  apply Program.IsHeedful.bind (.of_uses (uses_clear _ _) keepsPairs_of_isOwnCall)
  exact fun artifacts _ _ => ⟨_, .other fun _ => trivial, trivial⟩

theorem isHeedful_reclaimAll (done : List Report) (planned : List Planned) :
    (reclaimer.reclaimAll done planned).IsHeedful := by
  induction planned generalizing done with
  | nil => exact .pure done
  | cons first rest ih =>
    have hrelease : (reclaimer.release first.account).IsHeedful :=
      .bind (isHeedful_untag first.account) fun _ =>
        .bind (reclaimer.isHeedful_moveBack first.account) fun _ =>
          reclaimer.isHeedful_openSession first.account
    apply Action.IsHeedful.bind (.result hrelease)
    intro released
    cases released with
    | error source => exact .throw _
    | ok session =>
      exact .bind (.lift (reclaimer.isHeedful_report first session)) fun report => ih _

theorem isHeedful_reclaim {confirm : String → Engine Bool}
    (hconfirm : ∀ question, (confirm question).IsHeedful)
    (target : ReclaimTarget) : (reclaimer.reclaim confirm target).IsHeedful := by
  apply Action.IsHeedful.bind (.of_uses (reclaimer.uses_plan target) keepsPairs_of_isReading)
  intro planned
  apply Action.IsHeedful.bind (.lift (hconfirm _))
  intro agreed
  split
  · apply Action.IsHeedful.bind (reclaimer.isHeedful_reclaimAll [] planned)
    intro reports
    split
    · exact .pure _
    · exact .throw _
  · exact .bind (.log _ _) fun _ => .pure _

end Reclaimer

/-! ## Parties with errands of their own -/

/-- A call to the host. -/
def IsHostCall : Call → Prop
  | .host _ => True
  | .cloud _ => False

theorem uses_askOperator (question : String) : (askOperator question).Uses IsHostCall :=
  ⟨trivial, fun _ => trivial⟩

/-- What a party does, for a pool of its own.  Whoever is asked to agree to a reclamation makes no
call to the cloud, as when the operator is asked (`uses_askOperator`). -/
inductive Errand
  | lend (payer : Payer) (settings : AllocationSettings) (owner : String)
  | lendGiven (payer : Payer) (settings : AllocationSettings) (account owner : String)
  | takeBack (reclaimer : Reclaimer) (confirm : String → Engine Bool) (target : ReclaimTarget)
      (hconfirm : ∀ question, (confirm question).Uses IsHostCall)
  | untag (account : String)

namespace Errand

/-- What a party that is done with its errand returns. -/
@[reducible] def Result : Errand → Type
  | .lend .. | .lendGiven .. => String
  | .takeBack .. => ReclaimOutcome
  | .untag _ => Unit

/-- The program of an errand. -/
def program : (errand : Errand) → Engine (Except PoolError errand.Result)
  | .lend payer settings owner => (assign payer settings owner).run
  | .lendGiven payer settings account owner => (assignAccount payer settings account owner).run
  | .takeBack reclaimer confirm target _ => (reclaimer.reclaim confirm target).run
  | .untag account => (Reclaimer.untag account).run

theorem isHeedful (errand : Errand) : errand.program.IsHeedful := by
  cases errand with
  | lend payer settings owner => exact isHeedful_assign payer settings owner
  | lendGiven payer settings account owner =>
    exact isHeedful_assignAccount payer settings account owner
  | takeBack reclaimer confirm target hconfirm =>
    apply reclaimer.isHeedful_reclaim
    intro question
    apply Program.IsHeedful.of_uses (hconfirm question)
    rintro (request | request) h
    · exact absurd h id
    · trivial
  | untag account => exact Reclaimer.isHeedful_untag account

end Errand

variable {ι : Type} [DecidableEq ι]

/-- Parties at the beginning of their errands in a cloud. -/
def errands (cloud : Cloud) (errand : ι → Errand) :
    Concurrent Cloud ι Call.Reply fun i => Except PoolError (errand i).Result :=
  ⟨cloud, fun i => (errand i).program⟩

/-- A call that a party makes keeps the tags of all members, and what the party remembers,
paired. -/
theorem isPaired_of_heeds {cloud after : Cloud} {call : Call} {reply : call.Reply}
    {seen seen' : Tags} (hcloud : cloud.organization.state.IsPaired) (hseen : seen.IsPaired)
    (hresponds : Cloud.Responds call cloud reply after) (hheeds : Heeds seen call reply seen') :
    after.organization.state.IsPaired ∧ seen'.IsPaired := by
  cases hheeds with
  | read => exact ⟨hresponds.isPaired hcloud trivial, hresponds.read hcloud⟩
  | other hcall => exact ⟨hresponds.isPaired hcloud (hcall hseen), hseen⟩

/-- Any parties lend accounts of their pools, take accounts back or remove claim tags at the same
time, while any requests fail and any rivals are registered.  In every state that they reach, each
account has an owner tag if and only if it has a claim tag, when this was so at the beginning. -/
theorem isPaired_of_run {cloud : Cloud} (hcloud : cloud.organization.state.IsPaired)
    (errand : ι → Errand) {trace : List (Event ι Call.Reply)}
    {final : Concurrent Cloud ι Call.Reply fun i => Except PoolError (errand i).Result}
    (hrun : Concurrent.Run Cloud.Responds (errands cloud errand) trace final) :
    final.state.organization.state.IsPaired := by
  have hkeeps :
      ∀ (trace : List (Event ι Call.Reply)) (cloud : Cloud) (seen : ι → Tags) (i : ι) (call : Call)
      (reply : call.Reply) (after : Cloud) (seen' : Tags),
      (cloud.organization.state.IsPaired ∧ ∀ j, (seen j).IsPaired) →
      Cloud.Responds call cloud reply after → Heeds (seen i) call reply seen' →
      after.organization.state.IsPaired ∧ ∀ j, (Function.update seen i seen' j).IsPaired := by
    rintro trace cloud seen i call reply after seen' ⟨hcloud, hseen⟩ hresponds hheeds
    obtain ⟨hafter, hseen'⟩ := isPaired_of_heeds hcloud (hseen i) hresponds hheeds
    refine ⟨hafter, fun j => ?_⟩
    rcases eq_or_ne j i with rfl | hne
    · rwa [Function.update_self]
    · rw [Function.update_of_ne hne]
      exact hseen j
  obtain ⟨-, -, hfinal, -⟩ := hrun.invariant hkeeps (fun i => (errand i).isHeedful Dict.empty)
    ⟨hcloud, fun _ => .empty⟩
  exact hfinal

/-! ### A removal that comes late -/

/-- The units of a pool. -/
def stalePayer : Payer := { root := "root", claimed := "claimed" }

/-- A pool with one account, which is lent. -/
def staleCloud : Cloud :=
  { Cloud.ofCaller (.ok "999999999999") with
    organization := ⟨{ members := [⟨{ id := "111122223333", status := .active }, "claimed",
      Dict.ofList [("owner", "ada"), ("claimed", "true")]⟩] }, [], Dict.empty⟩ }

/-- One party removes the claim tags of the account, one takes back what its user has, and one wants
an account. -/
def staleErrand : Fin 3 → Errand
  | 0 => .untag "111122223333"
  | 1 => .takeBack ⟨stalePayer, {}⟩ askOperator (.user "ada") uses_askOperator
  | 2 => .lend stalePayer {} "grace"

/-- The cloud answers, and every host says the same. -/
def staleServe (_ : Fin 3) : (call : Call) → Cloud → call.Reply × Cloud
  | .cloud request, cloud => Cloud.serve request cloud
  | .host request, cloud => ((Host.serve request {}).1, cloud)

/-- The order of their calls. -/
def staleOrder : List (Fin 3) := 0 :: List.replicate 18 1 ++ List.replicate 6 2 ++ [0]

/-- The first party reads the tags, the second one takes the account back, the third one writes its
own claim, and only then does the first one remove what it has read. -/
def staleFinal :
    Concurrent Cloud (Fin 3) Call.Reply fun i => Except PoolError (staleErrand i).Result :=
  staleOrder.foldl (Concurrent.advance staleServe) (errands staleCloud staleErrand)

/-- The account is under the root again, and the late removal takes both tags of the new claim and
leaves its token. -/
theorem isPaired_stale : ∃ trace : List (Event (Fin 3) Call.Reply),
    staleCloud.organization.state.IsPaired ∧
    Concurrent.Run Cloud.Responds (errands staleCloud staleErrand) trace staleFinal ∧
      staleFinal.state.organization.state.IsPaired ∧
      staleFinal.state.organization.state.parent? "111122223333" = some "root" ∧
      (staleFinal.state.organization.state.tags "111122223333").keys = ["claim-token"] := by
  have hcloud : staleCloud.organization.state.IsPaired := by decide +kernel
  have hserve : ∀ i call cloud, Cloud.Responds call cloud (staleServe i call cloud).1
      (staleServe i call cloud).2 := by
    rintro i (request | request) cloud
    · exact .served cloud.organization.state.rivals
    · exact .host
  obtain ⟨trace, hrun⟩ := Concurrent.Run.schedule Cloud.Responds staleServe hserve
    (errands staleCloud staleErrand) staleOrder
  exact ⟨trace, hcloud, hrun, isPaired_of_run hcloud staleErrand hrun, by decide +kernel,
    by decide +kernel⟩

end Lending

end AccountLending
