import AccountLending.Proofs.Assignment.Protocol
import AccountLending.Proofs.Assignment.Undisturbed
import AccountLending.Proofs.Performing

/-!
# Lending that falters

Requests to the cloud may fail without effect, any of them and for any reason, while nobody else
writes.  A party that lends an account then leaves one of two things behind, wherever it was when it
failed: an organization that it has not changed, or one account with its claim, which stands under
the root or under the claimed unit.

* `Faltering` — a world with the faults that its requests meet;
* `Exchange.written?` — the account whose tags were written in a call;
* `IsUntouched`, `IsClaimed` — the two things that can be left behind;
* `AtStage` — which of them is so at each stage of lending;
* `lent_of_run` — what a party that lends an account leaves behind.
-/

namespace AccountLending

/-! ## Worlds whose requests falter -/

/-- A world with the faults that are still to come, one for each request to the cloud.  A request
that meets a fault fails without effect. -/
structure Faltering where
  world : World
  faults : List (Option ServiceError)

namespace Faltering

/-- Answer a call. -/
def serve (call : Call) (faltering : Faltering) : call.Reply × Faltering :=
  match call with
  | .cloud request =>
    match faltering.faults.head?.join with
    | some failure => (.error failure, { faltering with faults := faltering.faults.tail })
    | none =>
      let (reply, world) := World.serve (.cloud request) faltering.world
      (reply, ⟨world, faltering.faults.tail⟩)
  | .host request =>
    let (reply, world) := World.serve (.host request) faltering.world
    (reply, { faltering with world })

/-- Run a program. -/
def run {α : Type} (program : Engine α) (faltering : Faltering) : α × Faltering :=
  program.run serve faltering

/-- The calls of a program with the replies to them. -/
def exchanges {α : Type} (program : Engine α) (faltering : Faltering) :
    List (Exchange Call.Reply) :=
  program.exchanges serve faltering

variable {before after : Faltering}

/-- A request to the cloud meets a fault, or is answered by the cloud. -/
theorem of_serve_cloud {request : Cloud.Request} {reply : Except ServiceError request.Answer}
    (h : serve (.cloud request) before = (reply, after)) :
    (∃ failure, reply = .error failure ∧ after.world = before.world) ∨
      Cloud.Answers (.cloud request) before.world.cloud reply after.world.cloud ∧
        after.world.host = before.world.host := by
  unfold serve at h
  dsimp only at h
  split at h
  · rename_i failure _
    obtain ⟨rfl, rfl⟩ := Prod.mk.inj h
    exact .inl ⟨failure, rfl, rfl⟩
  · obtain ⟨rfl, rfl⟩ := Prod.mk.inj h
    exact .inr ⟨rfl, rfl⟩

theorem of_serve_host {request : Host.Request} {reply : request.Answer}
    (h : serve (.host request) before = (reply, after)) :
    World.serve (.host request) before.world = (reply, after.world) := by
  obtain ⟨rfl, rfl⟩ := Prod.mk.inj h
  rfl

end Faltering

/-! ## What lending does not change -/

/-- A world whose organization is undisturbed, and in which nothing has happened that is not about
the members of the organization. -/
structure World.IsStill (before after : World) : Prop where
  undisturbed : after.cloud.IsUndisturbed
  resources : after.cloud.organization.state.resources = before.cloud.organization.state.resources
  identity : after.cloud.identity = before.cloud.identity
  answer : after.host.answer = before.host.answer

namespace World.IsStill

variable {before : World} {now later : Faltering}

theorem of_serve_organization (h : before.IsStill now.world) {request : Organization.Request}
    {reply : Except ServiceError request.Answer}
    (hserve : Faltering.serve (.cloud (.organization request)) now = (reply, later)) :
    before.IsStill later.world := by
  rcases Faltering.of_serve_cloud hserve with ⟨-, -, hsame⟩ | ⟨hanswers, hhost⟩
  · rw [hsame]
    exact h
  · obtain ⟨-, hstate, hfailing⟩ := h.undisturbed.answer hanswers
    have hidentity : later.world.cloud.identity = now.world.cloud.identity := by
      have hcloud : (Cloud.serveOrganization request now.world.cloud).2 = later.world.cloud :=
        congrArg Prod.snd hanswers
      rw [← hcloud]
      rfl
    refine ⟨h.undisturbed.of_state hfailing ?_ ?_, ?_, hidentity.trans h.identity, ?_⟩
    · rw [hstate]
      exact Organization.rivals_answer h.undisturbed.alone request
    · rw [hstate]
      exact h.undisturbed.distinct.answer request
    · rw [hstate, Organization.resources_answer]
      exact h.resources
    · rw [hhost]
      exact h.answer

theorem of_serve_host (h : before.IsStill now.world) {request : Host.Request}
    {reply : request.Answer} (hserve : Faltering.serve (.host request) now = (reply, later)) :
    before.IsStill later.world ∧ later.world.cloud = now.world.cloud := by
  have hserved := congrArg Prod.snd (Faltering.of_serve_host hserve)
  have hcloud : later.world.cloud = now.world.cloud := (congrArg World.cloud hserved).symm
  have hanswer := World.answer_serve (.host request) now.world
  rw [hserved] at hanswer
  refine ⟨⟨?_, ?_, ?_, hanswer.trans h.answer⟩, hcloud⟩
  · rw [hcloud]
    exact h.undisturbed
  · rw [hcloud]
    exact h.resources
  · rw [hcloud]
    exact h.identity

/-- A request that is answered was answered by the cloud. -/
theorem answers {request : Organization.Request} {a : request.Answer}
    (hserve : Faltering.serve (.cloud (.organization request)) now = (.ok a, later)) :
    Cloud.Answers (.cloud (.organization request)) now.world.cloud (.ok a) later.world.cloud := by
  rcases Faltering.of_serve_cloud hserve with ⟨failure, hreply, -⟩ | ⟨hanswers, -⟩
  · cases hreply
  · exact hanswers

/-- A request that fails, by a fault or by itself, leaves the organization alone. -/
theorem state_of_failed (h : before.IsStill now.world) {request : Organization.Request}
    {failure : ServiceError}
    (hserve : Faltering.serve (.cloud (.organization request)) now = (.error failure, later)) :
    later.world.cloud.organization.state = now.world.cloud.organization.state := by
  rcases Faltering.of_serve_cloud hserve with ⟨-, -, hsame⟩ | ⟨hanswers, -⟩
  · rw [hsame]
  · exact (h.undisturbed.failed hanswers).2

end World.IsStill

/-! ## What lending leaves behind -/

/-- The account whose tags were written in a call. -/
def Exchange.written? : Exchange Call.Reply → Option String
  | ⟨.cloud (.organization (.tag account _)), .ok _⟩ => some account
  | _ => none

/-- The accounts that were tagged in a history. -/
def taggedIn (history : List (Exchange Call.Reply)) : List String :=
  history.filterMap Exchange.written?

theorem taggedIn_append (history : List (Exchange Call.Reply)) (exchange : Exchange Call.Reply) :
    taggedIn (history ++ [exchange]) = taggedIn history ++ exchange.written?.toList := by
  unfold taggedIn
  rw [List.filterMap_append]
  cases hwritten : exchange.written? <;> simp [hwritten]

theorem taggedIn_append_of_none {history : List (Exchange Call.Reply)}
    {exchange : Exchange Call.Reply} (h : exchange.written? = none) :
    taggedIn (history ++ [exchange]) = taggedIn history := by
  rw [taggedIn_append, h, Option.toList_none, List.append_nil]

/-- A request that fails tags nothing. -/
theorem Exchange.written?_of_failed (request : Organization.Request) (failure : ServiceError) :
    written? ⟨.cloud (.organization request), .error failure⟩ = none := by
  cases request <;> rfl

namespace Lending

open Stage

/-- Nothing of an organization was changed, and no account was tagged. -/
structure IsUntouched (before : Organization) (tagged : List String)
    (now : Organization) : Prop where
  tagged : tagged = []
  same : now = before

/-- One account was tagged, which was free under the root: it stands under a unit with its claim,
and all other accounts are what they were. -/
structure IsClaimed (payer : Payer) (owner : String) (before : Organization) (tagged : List String)
    (account token parent : String) (now : Organization) : Prop where
  tagged : tagged = [account]
  pooled : before.parent? account = some payer.root
  free : (Claim.ofTags (before.tags account)).isFree = true
  parent : now.parent? account = some parent
  tags :
    now.tags account = Organization.written (before.tags account) (Tags.ofClaim owner token) none
  other : ∀ other, other ≠ account → now.find? other = before.find? other

/-- What is so at each stage of lending, with the accounts that were tagged so far. -/
def AtStage (payer : Payer) (owner : String) (before : Organization) (tagged : List String)
    (now : Organization) : Stage → Prop
  | .unlisted => IsUntouched before tagged now
  | .scanning rest => IsUntouched before tagged now ∧
    ∀ account ∈ rest, before.parent? account.id = some payer.root
  | .rechecking account rest => IsUntouched before tagged now ∧
    ∀ other ∈ account :: rest, before.parent? other.id = some payer.root
  | .naming account rest | .tagging account _ rest => IsUntouched before tagged now ∧
    (∀ other ∈ account :: rest, before.parent? other.id = some payer.root) ∧
      (Claim.ofTags (before.tags account.id)).isFree = true
  | .verifying account token _ =>
    IsClaimed payer owner before tagged account.id token payer.root now
  | .moving account => ∃ token, IsClaimed payer owner before tagged account.id token payer.root now
  | .won account => ∃ token, IsClaimed payer owner before tagged account token payer.claimed now
  | .stopped => IsUntouched before tagged now ∨
    ∃ account token, IsClaimed payer owner before tagged account token payer.root now

section Stages

variable {payer : Payer} {owner token : String} {before now after : Organization}
  {tagged : List String}
variable {account : Account} {rest : List Account} {cloud later : Cloud}

/-- A party can stop wherever it makes a request. -/
theorem AtStage.stopped {stage : Stage} {request : Organization.Request}
    (h : AtStage payer owner before tagged now stage) (hasks : Asks payer owner stage request) :
    AtStage payer owner before tagged now .stopped := by
  cases hasks with
  | list => exact .inl h
  | look _ _ => exact .inl h.1
  | recheck => exact .inl h.1
  | tag => exact .inl h.1
  | verify => exact .inr ⟨_, _, h⟩
  | move => exact .inr ⟨_, h⟩

/-- The tags that are read of an account decide whether a party goes on with it. -/
theorem AtStage.looked {tags : Tags} {next : Stage}
    (h : AtStage payer owner before tagged now (.rechecking account rest))
    (htags : now.tags account.id = tags)
    (hnext : (Claim.ofTags (before.tags account.id)).isFree = true →
      AtStage payer owner before tagged now next) :
    AtStage payer owner before tagged now
      (if (Claim.ofTags tags).isFree then next else .scanning rest) := by
  obtain ⟨huntouched, hpooled⟩ := h
  split
  · rename_i hfree
    rw [← htags, huntouched.same] at hfree
    exact hnext hfree
  · exact ⟨huntouched, fun other hother => hpooled other (List.mem_cons_of_mem _ hother)⟩

/-- A claim is written to an account that is free. -/
theorem AtStage.written
    (h : AtStage payer owner before tagged cloud.organization.state (.tagging account token rest))
    (hcloud : cloud.IsUndisturbed)
    (hanswers : Cloud.Answers
      (.cloud (.organization (.tag account.id (Tags.ofClaim owner token)))) cloud (.ok ()) later) :
    AtStage payer owner before (tagged ++ [account.id]) later.organization.state
      (.verifying account token rest) := by
  obtain ⟨⟨rfl, hsame⟩, hpooled, hfree⟩ := h
  obtain ⟨-, htags, hparents, hothers⟩ := hcloud.tag hanswers
  rw [hsame] at htags hparents hothers
  have hroot := hpooled account List.mem_cons_self
  exact ⟨List.nil_append _, hroot, hfree, (hparents account.id).trans hroot, htags, hothers⟩

/-- A claim that was written is there when it is read back. -/
theorem AtStage.verified {tags : Tags}
    (h : AtStage payer owner before tagged now (.verifying account token rest))
    (htags : now.tags account.id = tags) :
    AtStage payer owner before tagged now
      (if keepsClaim tags owner token then .moving account else .scanning rest) := by
  have hkeeps : keepsClaim tags owner token = true := by
    rw [← htags, IsClaimed.tags h]
    simp [keepsClaim]
  rw [if_pos hkeeps]
  exact ⟨token, h⟩

theorem AtStage.moved
    (h : AtStage payer owner before tagged cloud.organization.state (.moving account))
    (hcloud : cloud.IsUndisturbed)
    (hanswers : Cloud.Answers
      (.cloud (.organization (.move account.id payer.root payer.claimed))) cloud (.ok ()) later) :
    AtStage payer owner before tagged later.organization.state (.won account.id) := by
  obtain ⟨token, hclaimed⟩ := h
  obtain ⟨-, -, hparent, htags, hothers⟩ := hcloud.move hanswers
  exact ⟨token, hclaimed.tagged, hclaimed.pooled, hclaimed.free, hparent,
    (htags account.id).trans hclaimed.tags,
    fun other hother => (hothers other hother).trans (hclaimed.other other hother)⟩

/-- No move of a party is about anything but the members of the organization. -/
theorem isStill_of_move {before : World} {now later : Faltering} {stage stage' : Stage}
    {call : Call} {reply : call.Reply} (h : before.IsStill now.world)
    (hserve : Faltering.serve call now = (reply, later))
    (hmove : Moves payer owner stage call reply stage') : before.IsStill later.world := by
  cases hmove with
  | host _ => exact (h.of_serve_host hserve).1
  | named => exact (h.of_serve_host hserve).1
  | _ => exact h.of_serve_organization hserve

/-- What is so at a stage is so at the next one, for each move of a party as it is answered. -/
theorem AtStage.step {before : World} {now later : Faltering} {stage stage' : Stage} {call : Call}
    {reply : call.Reply} {history : List (Exchange Call.Reply)}
    (h : AtStage payer owner before.cloud.organization.state (taggedIn history)
      now.world.cloud.organization.state stage)
    (hstill : before.IsStill now.world) (hserve : Faltering.serve call now = (reply, later))
    (hmove : Moves payer owner stage call reply stage') :
    AtStage payer owner before.cloud.organization.state (taggedIn (history ++ [⟨call, reply⟩]))
      later.world.cloud.organization.state stage' := by
  have hcloud := hstill.undisturbed
  cases hmove with
  | host _ =>
    rw [taggedIn_append_of_none rfl, (hstill.of_serve_host hserve).2]
    exact h
  | named =>
    rw [taggedIn_append_of_none rfl, (hstill.of_serve_host hserve).2]
    exact h
  | @failed _ request failure hasks =>
    rw [taggedIn_append_of_none (Exchange.written?_of_failed request failure),
      hstill.state_of_failed hserve]
    exact h.stopped hasks
  | listed =>
    obtain ⟨-, hstate, hpooled⟩ := hcloud.listAccounts (World.IsStill.answers hserve)
    rw [taggedIn_append_of_none rfl, hstate]
    obtain ⟨hnone, hsame⟩ : IsUntouched .. := h
    rw [hsame] at hpooled
    split
    · exact .inl ⟨hnone, hsame⟩
    · exact ⟨⟨hnone, hsame⟩, hpooled⟩
  | looked _ _ =>
    obtain ⟨-, hstate, htags⟩ := hcloud.listTags (World.IsStill.answers hserve)
    rw [taggedIn_append_of_none rfl, hstate]
    obtain ⟨huntouched, hpooled⟩ := h
    -- the accounts that were passed over are not looked at again
    have hrest := fun other hother => hpooled other (List.mem_append_right _ hother)
    exact AtStage.looked ⟨huntouched, hrest⟩ htags fun _ => ⟨huntouched, hrest⟩
  | rechecked =>
    obtain ⟨-, hstate, htags⟩ := hcloud.listTags (World.IsStill.answers hserve)
    rw [taggedIn_append_of_none rfl, hstate]
    exact h.looked htags fun hfree => ⟨h.1, h.2, hfree⟩
  | tagged =>
    rw [taggedIn_append]
    exact h.written hcloud (World.IsStill.answers hserve)
  | verified =>
    obtain ⟨-, hstate, htags⟩ := hcloud.listTags (World.IsStill.answers hserve)
    rw [taggedIn_append_of_none rfl, hstate]
    exact h.verified htags
  | moved =>
    rw [taggedIn_append_of_none rfl]
    exact h.moved hcloud (World.IsStill.answers hserve)

/-- A party at any stage has changed nothing, or has claimed one account. -/
theorem AtStage.untouched_or_claimed {stage : Stage}
    (h : AtStage payer owner before tagged now stage) :
    IsUntouched before tagged now ∨ ∃ account token parent,
      IsClaimed payer owner before tagged account token parent now ∧
        (parent = payer.root ∨ parent = payer.claimed) := by
  cases stage with
  | unlisted => exact .inl h
  | scanning rest => exact .inl h.1
  | rechecking account rest => exact .inl h.1
  | naming account rest => exact .inl h.1
  | tagging account token rest => exact .inl h.1
  | verifying account token rest => exact .inr ⟨_, _, _, h, .inl rfl⟩
  | moving account =>
    obtain ⟨token, hclaimed⟩ := h
    exact .inr ⟨_, _, _, hclaimed, .inl rfl⟩
  | won account =>
    obtain ⟨token, hclaimed⟩ := h
    exact .inr ⟨_, _, _, hclaimed, .inr rfl⟩
  | stopped =>
    refine h.imp_right ?_
    rintro ⟨account, token, hclaimed⟩
    exact ⟨_, _, _, hclaimed, .inl rfl⟩

/-- A party at a stage, in a world in which nobody else has changed anything. -/
structure IsAmid (payer : Payer) (owner : String) (before : World)
    (history : List (Exchange Call.Reply)) (now : Faltering) (stage : Stage) : Prop where
  still : before.IsStill now.world
  stage : AtStage payer owner before.cloud.organization.state (taggedIn history)
    now.world.cloud.organization.state stage

theorem IsAmid.step {before : World} {now later : Faltering} {stage stage' : Stage} {call : Call}
    {reply : call.Reply} {history : List (Exchange Call.Reply)}
    (h : IsAmid payer owner before history now stage)
    (hserve : Faltering.serve call now = (reply, later))
    (hmove : Moves payer owner stage call reply stage') :
    IsAmid payer owner before (history ++ [⟨call, reply⟩]) later stage' :=
  ⟨isStill_of_move h.still hserve hmove, h.stage.step h.still hserve hmove⟩

end Stages

/-- Lending that falters, wherever and however often, leaves an organization that it has not
changed, or one account with its claim. -/
theorem lent_of_run {payer : Payer} {settings : AllocationSettings} {owner : String}
    {start lent : Faltering} {assigned : Except PoolError String}
    (hcloud : start.world.cloud.IsUndisturbed)
    (hrun : Faltering.run (assign payer settings owner).run start = (assigned, lent)) :
    let tagged := taggedIn (Faltering.exchanges (assign payer settings owner).run start)
    start.world.IsStill lent.world ∧
      (IsUntouched start.world.cloud.organization.state tagged lent.world.cloud.organization.state ∨
        ∃ account token parent,
          IsClaimed payer owner start.world.cloud.organization.state tagged account token
            parent lent.world.cloud.organization.state ∧
          (parent = payer.root ∨ parent = payer.claimed)) := by
  intro tagged
  have hstart : IsAmid payer owner start.world [] start .unlisted :=
    ⟨⟨hcloud, rfl, rfl, rfl⟩, ⟨rfl, rfl⟩⟩
  obtain ⟨stage, hamid, -⟩ := (assign_follows payer settings owner).invariant
    (fun _ _ _ _ _ _ _ hamid hserve hmove => hamid.step hserve hmove) hstart
  obtain rfl : _ = lent := congrArg Prod.snd hrun
  exact ⟨hamid.still, hamid.stage.untouched_or_claimed⟩

end Lending

end AccountLending
