import AccountLending.Proofs.Assignment.Discipline
import AccountLending.Proofs.Reclamation.Footprint
import AccountLending.World.Interference

/-!
# What guards the removal of claim tags

Whose account it is, is looked at while the plan is made.  Before the claim tags of an account are
removed its tags are read once more, but only for which of the claim tags are there.  So what the
operator agreed to is done to an account whose owner has passed the checks, as the run has read it
before the question; whoever owns the account by the time of the removal is not asked about.

This is told by the exchanges of a run in arbitrary surroundings: the replies may be those of an
organization that others change between any two calls, and while the operator thinks.

* `LooksFirst` — histories in which tags are removed only right after a look at them;
* `IsPassing` — tags that the checks let pass;
* `Reclaimer.removals_foreseen` — what comes before each removal of tags;
* `IsForeseen.passing_or_retagged` — what was read last fails the checks only if the owner was
  changed;
* `retagged_removed` — a removal from an account that belongs to somebody else by then.
-/

namespace AccountLending

/-! ## Removals of tags -/

namespace Exchange

/-- Tags were to be removed from an account. -/
def removal (account : String) (keys : List String) (reply : Except ServiceError Unit) :
    Exchange Call.Reply :=
  ⟨.cloud (.organization (.untag account keys)), reply⟩

/-- The operator has agreed to a question. -/
def agreed (question : String) : Exchange Call.Reply := ⟨.host (.confirm question), true⟩

end Exchange

/-- A call that removes tags. -/
def Call.isRemoval : Call → Bool
  | .cloud (.organization (.untag ..)) => true
  | _ => false

namespace Lending

open Exchange

/-- In a history, tags are removed only from some accounts, and right after a look at the tags of
the account; what is removed are the claim tags that were seen. -/
def LooksFirst (accounts : List String) (history : List (Exchange Call.Reply)) : Prop :=
  ∀ before account keys reply after, history = before ++ removal account keys reply :: after →
    account ∈ accounts ∧ ∃ earlier tags, before = earlier ++ [look account tags] ∧
      keys = Tags.claimKeys.filter tags.contains

namespace LooksFirst

variable {accounts others : List String} {history later : List (Exchange Call.Reply)}

theorem of_isRemoval (h : ∀ exchange ∈ history, exchange.op.isRemoval = false) :
    LooksFirst accounts history := by
  rintro before account keys reply after rfl
  exact absurd (h (removal account keys reply) (by simp)) (by simp [removal, Call.isRemoval])

theorem append (h : LooksFirst accounts history) (h' : LooksFirst accounts later) :
    LooksFirst accounts (history ++ later) := by
  intro before account keys reply after hsplit
  rcases List.append_eq_append_iff.1 hsplit with ⟨middle, rfl, hlater⟩ | ⟨rest, rfl, hrest⟩
  · obtain ⟨haccount, earlier, tags, rfl, hkeys⟩ := h' middle account keys reply after hlater
    exact ⟨haccount, history ++ earlier, tags, by rw [List.append_assoc], hkeys⟩
  · cases rest with
    | nil =>
      obtain ⟨haccount, earlier, tags, hempty, -⟩ := h' [] account keys reply after hrest.symm
      simp at hempty
    | cons exchange rest =>
      obtain rfl : removal account keys reply = exchange := (List.cons.inj hrest).1
      exact h before account keys reply rest rfl

theorem mono (h : LooksFirst accounts history) (hsubset : ∀ account ∈ accounts, account ∈ others) :
    LooksFirst others history := by
  intro before account keys reply after hsplit
  obtain ⟨haccount, hlooked⟩ := h before account keys reply after hsplit
  exact ⟨hsubset account haccount, hlooked⟩

/-- The look and the removal, one right after the other. -/
theorem pair (account : String) (tags : Tags) (reply : Except ServiceError Unit) :
    LooksFirst [account]
    [look account tags, removal account (Tags.claimKeys.filter tags.contains) reply] := by
  intro before account' keys' reply' after hsplit
  match before, hsplit with
  | [], hsplit =>
    exact absurd (congrArg Exchange.op (List.cons.inj hsplit).1) (by simp [look, removal])
  | [first], hsplit =>
    obtain ⟨rfl, hrest⟩ := List.cons.inj hsplit
    have hcall := congrArg Exchange.op (List.cons.inj hrest).1
    simp only [removal, Call.cloud.injEq, Cloud.Request.organization.injEq,
      Organization.Request.untag.injEq] at hcall
    obtain ⟨rfl, rfl⟩ := hcall
    exact ⟨List.mem_singleton_self _, [], tags, rfl, rfl⟩
  | _ :: _ :: _, hsplit => simp at hsplit

end LooksFirst

namespace Reclaimer

variable {σ : Type} {handle : (call : Call) → σ → call.Reply × σ} {s : σ}

/-! ### Turns -/

theorem isRemoval_of_isReading (call : Call) (h : IsReading call) : call.isRemoval = false := by
  match call, h with
  | .cloud (.organization request), hrequest =>
    cases request with
    | untag account keys => exact absurd hrequest Bool.noConfusion
    | _ => rfl
  | .cloud (.identity .caller), _ => rfl
  | .host (.log _), _ => rfl

theorem isRemoval_of_isOwnCall {session : Session} (call : Call) (h : IsOwnCall session call) :
    call.isRemoval = false := by
  match call, h with
  | .cloud (.iam ..), _ => rfl
  | .host (.log _), _ => rfl

/-- What removes no tags at all. -/
theorem looksFirst_of_uses {α : Type} {action : Action α} {accounts : List String}
    (h : action.Uses fun call => call.isRemoval = false) :
    LooksFirst accounts (action.run.exchanges handle s) :=
  .of_isRemoval fun _ hexchange => Program.Uses.mem_exchanges h hexchange

theorem removesNothing_log (level : Log.Level) (message : String) :
    (Action.log level message).Uses fun call => call.isRemoval = false :=
  ⟨rfl, fun _ => trivial⟩

theorem removesNothing_moveBack (reclaimer : Reclaimer) (account : String) :
    (reclaimer.moveBack account).Uses fun call => call.isRemoval = false := by
  apply ((reclaimer.uses_poolParent account).mono isRemoval_of_isReading).bind
  intro parent
  split
  · exact ⟨rfl, fun _ => trivial⟩
  · have hmove :
        (Action.organization (.move account reclaimer.payer.claimed reclaimer.payer.root)).Uses
          fun call => call.isRemoval = false := Action.uses_cloud rfl
    exact hmove.bind fun _ => ⟨rfl, fun _ => trivial⟩

theorem removesNothing_openSession (reclaimer : Reclaimer) (account : String) :
    (reclaimer.openSession account).Uses fun call => call.isRemoval = false :=
  ⟨rfl, fun _ => ⟨rfl, fun _ => Action.uses_cloud rfl⟩⟩

/-- Claim tags are removed right after the tags were read, whatever is replied. -/
theorem looksFirst_untag (account : String) :
    LooksFirst [account] ((untag account).run.exchanges handle s) := by
  rw [untag, Action.exchanges_bind]
  have hlook :
      (readTags account).run.exchanges handle s = [⟨.cloud (.organization (.listTags account)),
      (handle (.cloud (.organization (.listTags account))) s).1⟩] := rfl
  have hread : (readTags account).run.run handle s =
      ((handle (.cloud (.organization (.listTags account))) s).1.mapError PoolError.service,
        (handle (.cloud (.organization (.listTags account))) s).2) := rfl
  rw [hlook, hread]
  cases (handle (.cloud (.organization (.listTags account))) s) with
  | mk reply read =>
  cases reply with
  | error failure => exact .of_isRemoval (by simp [Call.isRemoval])
  | ok tags =>
    show LooksFirst [account] ([look account tags] ++ _)
    dsimp only [Except.mapError]
    split
    · exact (LooksFirst.of_isRemoval (by simp [look, Call.isRemoval])).append
        (looksFirst_of_uses (removesNothing_log _ _))
    · have hlog : ∀ message, (Action.log .info message).Uses fun call => call.isRemoval = false :=
        fun _ => removesNothing_log _ _
      rw [Action.exchanges_bind, ← List.append_assoc]
      refine (LooksFirst.pair account tags _).append ?_
      split
      · exact looksFirst_of_uses (hlog _)
      · exact .of_isRemoval (by simp)

theorem looksFirst_release (reclaimer : Reclaimer) (account : String) :
    LooksFirst [account] ((reclaimer.release account).run.exchanges handle s) := by
  rw [release_eq, Action.exchanges_bind]
  refine (looksFirst_untag account).append ?_
  split
  · exact looksFirst_of_uses <| (reclaimer.removesNothing_moveBack account).bind fun _ =>
      reclaimer.removesNothing_openSession account
  · exact .of_isRemoval (by simp)

/-- In the turns of the accounts, tags are only removed from these, and right after a look. -/
theorem looksFirst_reclaimAll (reclaimer : Reclaimer) (done : List Report)
    (planned : List Planned) :
    LooksFirst (planned.map (·.account))
      ((reclaimer.reclaimAll done planned).run.exchanges handle s) := by
  induction planned generalizing done s with
  | nil => exact looksFirst_of_uses (Action.uses_pure _)
  | cons p rest ih =>
    have hrest : ∀ reports {now : σ}, LooksFirst ((p :: rest).map (·.account))
        ((reclaimer.reclaimAll reports rest).run.exchanges handle now) :=
      fun reports _ => (ih reports).mono fun account haccount => List.mem_cons_of_mem _ haccount
    have hrelease : LooksFirst ((p :: rest).map (·.account))
        ((reclaimer.release p.account).run.exchanges handle s) :=
      (reclaimer.looksFirst_release p.account).mono fun account haccount =>
        List.mem_singleton.1 haccount ▸ List.mem_cons_self
    rw [reclaimAll, Action.exchanges_bind, Action.exchanges_result]
    refine hrelease.append ?_
    split
    · rename_i released _
      cases released with
      | error source =>
        exact .of_isRemoval (by simp [throw, throwThe, MonadExceptOf.throw, Program.exchanges])
      | ok session =>
        dsimp only
        rw [Action.exchanges_bind]
        refine (looksFirst_of_uses (Action.uses_lift
          ((reclaimer.uses_report p session).mono isRemoval_of_isOwnCall))).append ?_
        split
        · exact hrest _
        · exact .of_isRemoval (by simp)
    · exact .of_isRemoval (by simp)

end Reclaimer

/-! ## Tags that pass the checks -/

/-- Tags that the checks let pass: they name no protected owner, and for a user they name the
user. -/
structure IsPassing (settings : ReclaimSettings) (target : ReclaimTarget) (tags : Tags) : Prop where
  unprotected : ∀ owner, tags.owner? = some owner → settings.isProtectedOwner owner = false
  owned : ∀ user, target.user? = some user → tags.owner? = some user

/-- Only the owner decides whether tags pass. -/
theorem IsPassing.congr {settings : ReclaimSettings} {target : ReclaimTarget} {tags other : Tags}
    (h : IsPassing settings target tags) (hsame : other.owner? = tags.owner?) :
    IsPassing settings target other where
  unprotected := hsame ▸ h.unprotected
  owned := hsame ▸ h.owned

namespace Reclaimer

variable {σ : Type} {handle : (call : Call) → σ → call.Reply × σ} {s : σ}
variable {reclaimer : Reclaimer} {target : ReclaimTarget} {account : String}

theorem look_of_run_readClaim {claim : Claim}
    (h : ((readClaim account).run.run handle s).1 = .ok claim) :
    ∃ tags, look account tags ∈ (readClaim account).run.exchanges handle s ∧
      tags.owner? = claim.owner? := by
  obtain ⟨tags, hread, hobserve, hexchanges⟩ := Action.exists_of_run_bind h
  refine ⟨tags, ?_, ?_⟩
  · rw [readClaim, hexchanges]
    have hreply : (handle (.cloud (.organization (.listTags account))) s).1 = .ok tags :=
      ok_of_mapError hread
    have hlook : (readTags account).run.exchanges handle s = [look account tags] :=
      congrArg (fun reply => [(⟨_, reply⟩ : Exchange Call.Reply)]) hreply
    rw [hlook]
    exact List.mem_append_left _ (List.mem_singleton_self _)
  · have hclaim : Claim.ofTags tags = claim := by
      unfold observe at hobserve
      cases hanomaly : Claim.anomaly? account tags with
      | none =>
        rw [hanomaly] at hobserve
        exact Except.ok.inj hobserve
      | some anomaly =>
        rw [hanomaly] at hobserve
        exact Except.ok.inj hobserve
    rw [← hclaim, Claim.owner?_ofTags]

/-- An account that is accepted has an owner that is not protected, and the rest follows. -/
theorem of_run_accept {owner : Option String} {rest : Action (List Planned)}
    {planned : List Planned}
    (h : ((reclaimer.accept account owner rest).run.run handle s).1 = .ok planned) :
    (∀ name, owner = some name → reclaimer.settings.isProtectedOwner name = false) ∧
      ∃ others now, planned = ⟨account, owner⟩ :: others ∧
        (rest.run.run handle now).1 = .ok others ∧ ∀ exchange ∈ rest.run.exchanges handle now,
          exchange ∈ (reclaimer.accept account owner rest).run.exchanges handle s := by
  obtain ⟨_, hchecked, h, hfirst⟩ := Action.exists_of_run_bind h
  obtain ⟨parent, hplaced, h, hsecond⟩ := Action.exists_of_run_bind h
  obtain ⟨others, hothers, h, hthird⟩ := Action.exists_of_run_bind h
  refine ⟨?_, others, _, (Except.ok.inj h).symm, hothers, fun exchange hexchange => ?_⟩
  · rintro name rfl
    rw [checkOwner] at hchecked
    cases hprotected : reclaimer.settings.isProtectedOwner name with
    | false => rfl
    | true =>
      rw [hprotected, if_pos rfl] at hchecked
      cases hchecked
  · rw [accept, hfirst, hsecond, hthird]
    exact List.mem_append_right _ (List.mem_append_right _ (List.mem_append_left _ hexchange))

/-- Every account that passed the checks was looked at, and its tags passed them. -/
theorem look_of_run_check {caller : String} {accounts : List String} {planned : List Planned}
    (h : ((reclaimer.check caller target.user? accounts).run.run handle s).1 = .ok planned) :
    ∀ p ∈ planned, ∃ tags, look p.account tags ∈
        (reclaimer.check caller target.user? accounts).run.exchanges handle s ∧
      IsPassing reclaimer.settings target tags := by
  induction accounts generalizing planned s with
  | nil =>
    obtain rfl : [] = planned := Except.ok.inj h
    exact fun p hp => absurd hp List.not_mem_nil
  | cons account rest ih =>
    rw [check] at h ⊢
    split at h
    · cases h
    rename_i hother
    rw [if_neg hother]
    obtain ⟨claim, hclaim, h, hexchanges⟩ := Action.exists_of_run_bind h
    obtain ⟨tags, hlook, howner⟩ := look_of_run_readClaim hclaim
    rw [hexchanges]
    -- an account that is accepted was looked at just now, and the others later
    have haccepted : ∀ now, ((reclaimer.accept account claim.owner?
          (reclaimer.check caller target.user? rest)).run.run handle now).1 = .ok planned →
        (∀ user, target.user? = some user → tags.owner? = some user) →
        ∀ p ∈ planned, ∃ tags, look p.account tags ∈ (readClaim account).run.exchanges handle s ++
            (reclaimer.accept account claim.owner?
              (reclaimer.check caller target.user? rest)).run.exchanges handle now ∧
          IsPassing reclaimer.settings target tags := by
      intro now haccept howned p hp
      obtain ⟨hunprotected, others, later, rfl, hothers, hmem⟩ := of_run_accept haccept
      rcases List.mem_cons.1 hp with rfl | hp
      · rw [← howner] at hunprotected
        exact ⟨tags, List.mem_append_left _ hlook, hunprotected, howned⟩
      · obtain ⟨seen, hseen, hpassing⟩ := ih hothers p hp
        exact ⟨seen, List.mem_append_right _ (hmem _ hseen), hpassing⟩
    cases huser : target.user? with
    | none =>
      rw [huser] at h haccepted
      exact haccepted _ h (by simp)
    | some name =>
      rw [huser] at h haccepted ih
      dsimp only at h ⊢
      split at h
      · rename_i howned
        rw [if_pos howned]
        refine haccepted _ h fun user hname => ?_
        rw [howner, howned, hname]
      · rename_i hforeign
        rw [if_neg hforeign]
        obtain ⟨_, -, h, hrest⟩ := Action.exists_of_run_bind h
        intro p hp
        obtain ⟨seen, hseen, hpassing⟩ := ih h p hp
        rw [hrest]
        exact ⟨seen, List.mem_append_right _ (List.mem_append_right _ hseen), hpassing⟩

theorem look_of_run_plan {planned : List Planned}
    (h : ((reclaimer.plan target).run.run handle s).1 = .ok planned) :
    ∀ p ∈ planned, ∃ tags, look p.account tags ∈ (reclaimer.plan target).run.exchanges handle s ∧
      IsPassing reclaimer.settings target tags := by
  obtain ⟨accounts, -, h, hfirst⟩ := Action.exists_of_run_bind h
  obtain ⟨caller, -, h, hsecond⟩ := Action.exists_of_run_bind h
  obtain ⟨checked, hchecked, h, hthird⟩ := Action.exists_of_run_bind h
  obtain rfl : checked = planned := by
    cases target with
    | account id => exact Except.ok.inj h
    | user name =>
      dsimp only at h
      split at h
      · cases h
      · exact Except.ok.inj h
  intro p hp
  obtain ⟨tags, hlook, hpassing⟩ := look_of_run_check hchecked p hp
  refine ⟨tags, ?_, hpassing⟩
  rw [plan, hfirst, hsecond, hthird]
  exact List.mem_append_right _ (List.mem_append_right _ (List.mem_append_left _ hlook))

end Reclaimer

/-- Asking the operator is one exchange. -/
theorem exchanges_ask {α σ : Type} (handle : (call : Call) → σ → call.Reply × σ) (s : σ)
    (question : String) (f : Bool → Action α) :
    ((liftM (askOperator question) : Action Bool) >>= f).run.exchanges handle s =
      ⟨.host (.confirm question), (handle (.host (.confirm question)) s).1⟩ ::
        (f (handle (.host (.confirm question)) s).1).run.exchanges handle
          (handle (.host (.confirm question)) s).2 := rfl

/-- What comes before tags are removed from an account.  The run has read tags of it that pass the
checks, then the operator has agreed, and right before the removal the run has read the tags again:
the claim tags among these are removed. -/
def IsForeseen (settings : ReclaimSettings) (target : ReclaimTarget)
    (before : List (Exchange Call.Reply)) (account : String) (keys : List String) : Prop :=
  ∃ first checked middle question later seen,
    before = first ++ look account checked :: middle ++ agreed question :: later ++
      [look account seen] ∧
      IsPassing settings target checked ∧ keys = Tags.claimKeys.filter seen.contains

/-- The owner that was read last is not checked again, but only somebody who has changed it since
the account was checked can make it fail the checks. -/
theorem IsForeseen.passing_or_retagged {settings : ReclaimSettings} {target : ReclaimTarget}
    {before : List (Exchange Call.Reply)} {account : String} {keys : List String}
    (h : IsForeseen settings target before account keys) :
    ∃ earlier checked seen, before = earlier ++ [look account seen] ∧
      look account checked ∈ earlier ∧ IsPassing settings target checked ∧
      (IsPassing settings target seen ∨ seen.owner? ≠ checked.owner?) := by
  obtain ⟨first, checked, middle, question, later, seen, rfl, hpassing, -⟩ := h
  refine ⟨_, checked, seen, rfl, by simp, hpassing, ?_⟩
  by_cases hsame : seen.owner? = checked.owner?
  · exact .inl (hpassing.congr hsame)
  · exact .inr hsame

/-- What comes before each removal of tags in a history. -/
def AreForeseen (settings : ReclaimSettings) (target : ReclaimTarget)
    (history : List (Exchange Call.Reply)) : Prop :=
  ∀ before account keys reply after, history = before ++ removal account keys reply :: after →
    IsForeseen settings target before account keys

/-- Before tags are removed from an account, the run has read tags of the account that pass the
checks, and the operator has agreed; and right before it the run has read the tags again, and
removes the claim tags among them, whoever their owner is by then.  This is so whatever surroundings
the calls are made in: `handle` may fail any call, and change anything between two of them. -/
theorem Reclaimer.removals_foreseen {σ : Type} (handle : (call : Call) → σ → call.Reply × σ) (s : σ)
    (reclaimer : Reclaimer) (target : ReclaimTarget) :
    AreForeseen reclaimer.settings target
      ((reclaimer.reclaim askOperator target).run.exchanges handle s) := by
  intro before account keys reply after hremoval
  have hplanned : removal account keys reply ∉ (reclaimer.plan target).run.exchanges handle s := by
    intro hmem
    have hquiet :=
      isRemoval_of_isReading _ (Program.Uses.mem_exchanges (reclaimer.uses_plan target) hmem)
    exact absurd hquiet (by simp [removal, Call.isRemoval])
  rw [reclaim, Action.exchanges_bind] at hremoval
  obtain ⟨middle, rfl, hrest⟩ := exists_of_append_eq hremoval hplanned
  cases hplan : ((reclaimer.plan target).run.run handle s).1 with
  | error e =>
    rw [hplan] at hrest
    simp at hrest
  | ok planned =>
    rw [hplan] at hrest
    dsimp only at hrest
    rw [exchanges_ask] at hrest
    cases hanswer : handle (.host (.confirm (reclaimer.question target planned)))
        ((reclaimer.plan target).run.run handle s).2 with
    | mk answer asked =>
    rw [hanswer] at hrest
    cases answer with
    | false =>
      -- the operator said no, and only the log is called after that
      have hquiet : ∀ exchange ∈ middle ++ removal account keys reply :: after,
          exchange.op.isRemoval = false := by
        rw [← hrest]
        refine List.forall_mem_cons.2 ⟨rfl, fun exchange hexchange => ?_⟩
        have hlog : (do
            Action.log .info ("Reclamation of " ++ target.words ++ " declined")
            return .declined : Action ReclaimOutcome).Uses fun call => call.isRemoval = false :=
          (removesNothing_log _ _).bind fun _ => Action.uses_pure _
        exact Program.Uses.mem_exchanges hlog hexchange
      exact absurd (hquiet (removal account keys reply) (by simp)) (by simp [removal,
        Call.isRemoval])
    | true =>
      have hbegin : removal account keys reply ∉ [agreed (reclaimer.question target planned)] := by
        simp [agreed, removal]
      obtain ⟨turns, rfl, hturns⟩ := exists_of_append_eq hrest hbegin
      have hall : (reclaimer.reclaimAll [] planned).run.exchanges handle asked =
          turns ++ removal account keys reply :: after := by
        rw [← hturns, if_pos rfl, Action.exchanges_bind]
        split
        · split <;> exact (List.append_nil _).symm
        · exact (List.append_nil _).symm
      obtain ⟨haccount, earlier, tags, rfl, hkeys⟩ :=
        reclaimer.looksFirst_reclaimAll [] planned turns account keys reply after hall
      obtain ⟨p, hp, rfl⟩ := List.mem_map.1 haccount
      obtain ⟨seen, hseen, hpassing⟩ := look_of_run_plan hplan p hp
      obtain ⟨first, others, hsplit⟩ := List.append_of_mem hseen
      refine ⟨first, seen, others, reclaimer.question target planned, earlier, tags, ?_,
        hpassing, hkeys⟩
      rw [hsplit]
      simp

/-! ### An account that changes hands -/

/-- A world in which an account of a user is retagged for a system identity, just before its tags
are read for the second time. -/
def retaggedWorld : Contested where
  world := lentWorld
  interferences := [⟨"ListTagsForResource:111122223333", 2, fun cloud =>
    (Cloud.serve (.organization (.tag "111122223333" (Dict.ofList [(Tags.ownerKey, "hive-ops")])))
      cloud).2⟩]

/-- The account and the owner that two exchanges tell of, when the first is a look at tags and the
second their removal. -/
def removedFrom? (first second : Exchange Call.Reply) : Option (String × Option String) :=
  match first, second with
  | ⟨.cloud (.organization (.listTags account)), .ok tags⟩,
    ⟨.cloud (.organization (.untag other _)), _⟩ =>
    if other = account then some (account, tags.owner?) else none
  | _, _ => none

/-- The first removal of tags right after a look at them. -/
def firstRemoval? : List (Exchange Call.Reply) → Option (String × Option String)
  | first :: second :: rest => (removedFrom? first second).or (firstRemoval? (second :: rest))
  | _ => none

theorem exists_of_firstRemoval? {history : List (Exchange Call.Reply)} {account : String}
    {owner : Option String} (h : firstRemoval? history = some (account, owner)) :
    ∃ before seen keys reply after,
      history = before ++ look account seen :: removal account keys reply :: after ∧
      seen.owner? = owner := by
  induction history with
  | nil => cases h
  | cons first rest ih =>
    cases rest with
    | nil => cases h
    | cons second rest =>
      rw [firstRemoval?] at h
      cases hboth : removedFrom? first second with
      | none =>
        rw [hboth, Option.none_or] at h
        obtain ⟨before, seen, keys, reply, after, hsplit, howner⟩ := ih h
        exact ⟨first :: before, seen, keys, reply, after, by rw [hsplit]; rfl, howner⟩
      | some found =>
        rw [hboth, Option.some_or] at h
        obtain rfl : found = (account, owner) := Option.some.inj h
        unfold removedFrom? at hboth
        split at hboth
        · split at hboth
          · rename_i heq
            subst heq
            obtain ⟨rfl, rfl⟩ := Prod.mk.inj (Option.some.inj hboth)
            exact ⟨[], _, _, _, rest, rfl, rfl⟩
          · cases hboth
        · cases hboth

/-- The run removes the claim tags of an account right after it has read that the account belongs to
a system identity. -/
theorem retagged_removed :
    ∃ before seen keys reply after,
      (lentReclaimer.reclaim askOperator (.user "alice")).run.exchanges Contested.serve
        retaggedWorld =
        before ++ look "111122223333" seen :: removal "111122223333" keys reply :: after ∧
      seen.owner? = some "hive-ops" ∧
      lentReclaimer.settings.isProtectedOwner "hive-ops" = true := by
  have hremoval : firstRemoval? ((lentReclaimer.reclaim askOperator (.user "alice")).run.exchanges
      Contested.serve retaggedWorld) = some ("111122223333", some "hive-ops") := by
    decide +kernel
  obtain ⟨before, seen, keys, reply, after, hsplit, howner⟩ := exists_of_firstRemoval? hremoval
  exact ⟨before, seen, keys, reply, after, hsplit, howner, by decide +kernel⟩

end Lending

end AccountLending
