import AccountLending.Proofs.Clearing.Rerunning
import AccountLending.Proofs.Reclamation.Batches
import AccountLending.Proofs.Reclamation.Repeating

/-!
# Taking back an account that was taken back

A reclamation of one account that completes leaves it at rest: the account is free, stands in its
place, has nothing in it but what is protected, and everything that was listed or opened on the way
can be listed or opened again.  The same reclamation of an account at rest completes once more, and
on its way it only looks.

* `Call.IsLooking` — the calls that change nothing, whatever their replies;
* `World.Looks` — an action has a value in a world, and makes such calls only;
* `IsAtRest` — an account whose reclamation has nothing to do;
* `Reclaimer.isAtRest_of_completed` — what a run that completes leaves;
* `IsAtRest.looks_reclaim` — what a run does with an account at rest;
* `World.reclaim_settled` — the one after the other.
-/

namespace AccountLending

/-! ## Looking -/

/-- A call that changes nothing, whatever its reply: it reads the organization, asks who the caller
is or opens a session, lists something in an account's IAM, writes a line to the log, reads the
clock or puts a question. -/
def Call.IsLooking : Call → Prop
  | .cloud (.organization request) => request.isMutation = false
  | .cloud (.identity _) => True
  | .cloud (.iam _ (.query _)) => True
  | .host (.log _) | .host .now | .host (.confirm _) => True
  | _ => False

theorem Call.isLooking_of_isReading {call : Call} (h : Lending.IsReading call) :
    call.IsLooking := by
  match call, h with
  | .cloud (.organization request), hrequest => exact hrequest
  | .cloud (.identity .caller), _ => trivial
  | .host (.log line), _ => trivial

theorem Cloud.identity_assumeRole (cloud : Cloud) (arn name : String) :
    cloud.identity.IsAlike (cloud.assumeRole arn name).2.identity := by
  unfold Cloud.assumeRole
  split
  · exact .refl _
  · dsimp only
    split <;> exact ⟨rfl, rfl⟩

theorem Iam.failing_serve (request : Request) (service : Journaled Iam Request) :
    (serve request service).2.failing = service.failing := by
  unfold serve
  split <;> rfl

theorem Iam.isAlike_serve_query (query : Query) (service : Journaled Iam Request) :
    service.IsAlike (serve (.query query) service).2 :=
  ⟨state_serve_query query service, failing_serve _ service⟩

namespace World

variable {α β : Type} {world mid after : World} {action : Action α} {a : α} {b : β}

/-- A world is as it was after a looking call. -/
theorem isAlike_serve {call : Call} (h : call.IsLooking) (world : World) :
    world.IsAlike (World.serve call world).2 := by
  match call, h with
  | .cloud (.organization request), hrequest =>
    have hreading : Lending.IsReading (.cloud (.organization request)) := hrequest
    exact (HasOnlyRead.serve hreading world).isAlike
  | .cloud (.identity .caller), _ => exact .refl world
  | .cloud (.identity (.assumeRole arn name _)), _ =>
    obtain ⟨horganization, hiam⟩ := world.cloud.assumeRole_keeps arn name
    refine ⟨⟨?_, world.cloud.identity_assumeRole arn name, fun account => ?_⟩,
      (IsAlike.refl world).host⟩
    · exact horganization ▸ .refl world.cloud.organization
    · exact (hiam account) ▸ .refl (world.cloud.iamOf account)
  | .cloud (.iam session (.query query)), _ =>
    refine ⟨⟨.refl _, .refl _, fun account => ?_⟩, (IsAlike.refl world).host⟩
    show (world.cloud.iamOf account).IsAlike
      ((world.cloud.changeIam (world.cloud.accountOf session) fun _ =>
        (Iam.serve (.query query) (world.cloud.iamOf (world.cloud.accountOf session))).2).iamOf
          account)
    rw [Cloud.iamOf_changeIam]
    split
    · rename_i haccount
      rw [haccount]
      exact Iam.isAlike_serve_query query _
    · exact .refl _
  | .host (.log line), _ => exact ⟨(IsAlike.refl world).cloud, world.host.log ++ [line], _, rfl⟩
  | .host .now, _ => exact .refl world
  | .host (.confirm question), _ => exact world.isAlike_asked question

/-- An action has a value in a world, and all that it does is to look. -/
structure Looks (world : World) (action : Action α) (a : α) : Prop where
  result : (world.perform action).1 = .ok a
  calls : ∀ call ∈ world.calls action, call.IsLooking

theorem Looks.perform (h : world.Looks action a) :
    world.perform action = (.ok a, (world.perform action).2) :=
  Prod.ext h.result rfl

/-- A world is as it was after an action that only looked. -/
theorem Looks.isAlike (h : world.Looks action a) : world.IsAlike (world.perform action).2 :=
  Program.run_keeps_of_trace (fun _ _ hcall halike => halike.trans (isAlike_serve hcall _)) h.calls
    (.refl world)

theorem Looks.bind {f : α → Action β} (h : world.Looks action a)
    (hf : ∀ mid, world.IsAlike mid → mid.Looks (f a) b) : world.Looks (action >>= f) b := by
  obtain ⟨hresult, hcalls⟩ := hf _ h.isAlike
  constructor
  · rw [perform_bind_ok h.perform]
    exact hresult
  · rw [calls_bind_ok h.perform, List.forall_mem_append]
    exact ⟨h.calls, hcalls⟩

theorem looks_of_uses (huses : action.Uses Lending.IsReading)
    (h : (world.perform action).1 = .ok a) : world.Looks action a :=
  ⟨h, fun _ hcall => Call.isLooking_of_isReading (Program.Uses.mem_trace huses hcall)⟩

theorem looks_pure (a : α) (world : World) : world.Looks (pure a) a :=
  looks_of_uses (Action.uses_pure a) rfl

theorem looks_log (level : Log.Level) (message : String) (world : World) :
    world.Looks (Action.log level message) () :=
  looks_of_uses (Lending.uses_log level message) rfl

/-- No call changes which requests to an account's IAM are registered to fail. -/
theorem failing_iamOf_serve (call : Call) (world : World) (account : String) :
    ((World.serve call world).2.cloud.iamOf account).failing =
      (world.cloud.iamOf account).failing := by
  match call with
  | .cloud (.organization request) => rfl
  | .cloud (.identity .caller) => rfl
  | .cloud (.identity (.assumeRole arn name _)) =>
    exact congrArg Journaled.failing ((world.cloud.assumeRole_keeps arn name).2 account)
  | .cloud (.iam session request) =>
    apply (congrArg Journaled.failing (Cloud.iamOf_changeIam world.cloud _ account _)).trans
    split
    · rename_i haccount
      rw [haccount]
      exact Iam.failing_serve request _
    · rfl
  | .host request => rfl

/-- No call changes in which accounts a role cannot be assumed. -/
theorem failing_identity_serve (call : Call) (world : World) :
    (World.serve call world).2.cloud.identity.failing = world.cloud.identity.failing := by
  match call with
  | .cloud (.organization request) => rfl
  | .cloud (.identity .caller) => rfl
  | .cloud (.identity (.assumeRole arn name _)) =>
    exact (world.cloud.identity_assumeRole arn name).failing
  | .cloud (.iam session request) => rfl
  | .host request => rfl

theorem failing_iamOf_perform (action : Action α) (world : World) (account : String) :
    ((world.perform action).2.cloud.iamOf account).failing = (world.cloud.iamOf account).failing :=
  perform_keeps (Action.uses_any action)
    (fun call now _ (hnow : (now.cloud.iamOf account).failing = _) =>
      (failing_iamOf_serve call now account).trans hnow) rfl

theorem failing_identity_perform (action : Action α) (world : World) :
    (world.perform action).2.cloud.identity.failing = world.cloud.identity.failing :=
  perform_keeps (Action.uses_any action)
    (fun call now _ (hnow : now.cloud.identity.failing = _) =>
      (failing_identity_serve call now).trans hnow) rfl

theorem IsAlike.answer (h : world.IsAlike mid) : mid.host.answer = world.host.answer := by
  obtain ⟨log, questions, hhost⟩ := h.host
  rw [hhost]

theorem looks_question {question : String} (h : world.host.answer question = true) :
    world.Looks (liftM (Lending.askOperator question) : Action Bool) true := by
  constructor
  · rw [perform_lift, run_askOperator, h]
  · rw [calls_lift]
    intro call hcall
    rw [List.mem_singleton.1 hcall]
    trivial

end World

namespace Lending

open World

theorem Reclaimer.reportOf_of_isAlike {reclaimer : Reclaimer} {world mid : World} {p : Planned}
    (h : world.IsAlike mid) : reclaimer.reportOf mid p = reclaimer.reportOf world p := by
  rw [reportOf, (h.cloud.iamOf p.account).state, (h.cloud.iamOf p.account).failing]
  rfl

/-! ## Accounts at rest -/

/-- An account whose reclamation has nothing to do: it passes the checks without an owner, it is
free and in its place, the session in it can be opened, and clearing it neither fails nor finds
anything to remove. -/
structure IsAtRest (reclaimer : Reclaimer) (account : String) (world : World) : Prop where
  plannable : IsPlannable reclaimer world ⟨account, none⟩
  freed : IsFreed reclaimer account world
  opened : world.cloud.identity.fails (Identity.Event.assumed account).entry = false
  settled : IsSettled reclaimer.settings (world.cloud.iamOf account).state
  clean : Deed.AreClean (clearDeeds (world.cloud.iamOf account).failing reclaimer.settings
    (world.cloud.iamOf account).state)

namespace IsAtRest

variable {reclaimer : Reclaimer} {account : String} {world mid : World}

theorem of_isAlike (h : IsAtRest reclaimer account world) (halike : world.IsAlike mid) :
    IsAtRest reclaimer account mid where
  plannable := h.plannable.of_isAlike halike
  freed := by
    obtain ⟨htags, hparent⟩ := h.freed
    rw [← halike.cloud.organization.state] at htags hparent
    exact ⟨htags, hparent⟩
  opened := (halike.cloud.identity.fails _).trans h.opened
  settled := by
    rw [(halike.cloud.iamOf account).state]
    exact h.settled
  clean := by
    rw [(halike.cloud.iamOf account).state, (halike.cloud.iamOf account).failing]
    exact h.clean

theorem isValid (h : IsAtRest reclaimer account world) : AccountId.isValid account = true :=
  h.plannable.reclaimable.isValid

/-- The member of an account at rest. -/
theorem exists_member (h : IsAtRest reclaimer account world) :
    ∃ member, world.cloud.organization.state.find? account = some member ∧
      member.parent = reclaimer.payer.root ∧
      Tags.claimKeys.filter member.tags.contains = [] := by
  obtain ⟨-, member, hmember, -⟩ := h.plannable.reclaimable
  have hparent := h.freed.parent
  rw [Organization.parent?, hmember] at hparent
  refine ⟨member, hmember, Option.some.inj hparent, List.filter_eq_nil_iff.2 fun key hkey => ?_⟩
  have habsent := h.freed.tags key hkey
  rw [Organization.tags_of_find? hmember] at habsent
  exact Bool.eq_false_iff.1 habsent

theorem readable (h : IsAtRest reclaimer account world) : world.IsReadable account := by
  obtain ⟨caller, -, hadmitted⟩ := h.plannable.admitted
  exact hadmitted.readable

theorem isLook (h : IsAtRest reclaimer account world) :
    ∀ deed ∈ clearDeeds (world.cloud.iamOf account).failing reclaimer.settings
      (world.cloud.iamOf account).state, deed.isLook = true := by
  obtain ⟨hboth, -⟩ := Deed.areClean_append.1 h.clean
  exact isLook_of_isSettled (rolesLeft_of_areClean (Deed.areClean_append.1 hboth).1).1 h.settled

/-! ### Each step -/

theorem looks_plan (h : IsAtRest reclaimer account world) :
    world.Looks (reclaimer.plan (.account account)) [⟨account, none⟩] := by
  obtain ⟨mid, hplan⟩ := Reclaimer.perform_plan_account h.plannable
  exact looks_of_uses (reclaimer.uses_plan _) (congrArg Prod.fst hplan)

theorem looks_untag (h : IsAtRest reclaimer account world) :
    world.Looks (Reclaimer.untag account) () := by
  obtain ⟨member, hmember, -, hnone⟩ := h.exists_member
  have hanswer :
      (world.cloud.organization.state.answer (.listTags account)).1 = .ok member.tags := by
    simp [Organization.answer, Organization.fromMember, hmember]
  have hread := perform_organization h.readable.tags hanswer
  refine (looks_of_uses (uses_readTags account) (congrArg Prod.fst hread)).bind fun mid _ => ?_
  dsimp only
  rw [hnone]
  exact looks_log _ _ mid

theorem looks_moveBack (h : IsAtRest reclaimer account world) :
    world.Looks (reclaimer.moveBack account) () := by
  obtain ⟨member, hmember, hroot, -⟩ := h.exists_member
  obtain ⟨parent, mid, hplaced⟩ : world.Succeeds (reclaimer.poolParent account) := by
    refine Reclaimer.succeeds_poolParent hmember (.inl hroot) fun call hcall => ?_
    rw [(reclaimer.uses_parentOf account).mem_trace hcall]
    exact h.readable.parent
  obtain ⟨found, hfound, rfl, -⟩ := Reclaimer.exists_of_perform_poolParent hplaced
  obtain rfl := Option.some.inj (hmember.symm.trans hfound)
  refine (looks_of_uses (reclaimer.uses_poolParent account) (congrArg Prod.fst hplaced)).bind
    fun mid _ => ?_
  rw [if_pos hroot]
  exact looks_log _ _ mid

theorem looks_openSession (h : IsAtRest reclaimer account world) :
    world.Looks (reclaimer.openSession account) (Cloud.sessionOf account) := by
  have hnow : world.Looks (Action.host .now) world.host.clock := ⟨rfl, fun call hcall => by
    rw [List.mem_singleton.1 hcall]
    trivial⟩
  refine hnow.bind fun told htold => (looks_log _ _ told).bind fun logged hlogged => ?_
  have hrole := Reclaimer.accountOfRole?_adminRoleArn reclaimer h.isValid
  have hrest := h.of_isAlike (htold.trans hlogged)
  have hgranted : ∀ name seconds, logged.isRefused
      (.cloud (.identity (.assumeRole (reclaimer.adminRoleArn account) name seconds))) = false := by
    intro name seconds
    rw [isRefused, hrole]
    exact hrest.opened
  obtain ⟨after, hsession, -⟩ := Reclaimer.exists_of_assumeRole _ _ hrole (hgranted _ _)
  exact ⟨congrArg Prod.fst hsession, fun call hcall => by
    rw [List.mem_singleton.1 hcall]
    trivial⟩

theorem looks_release (h : IsAtRest reclaimer account world) :
    world.Looks (reclaimer.release account) (Cloud.sessionOf account) :=
  h.looks_untag.bind fun _ huntagged => (h.of_isAlike huntagged).looks_moveBack.bind fun _ hmoved =>
    (h.of_isAlike (huntagged.trans hmoved)).looks_openSession

/-! ### The whole run -/

/-- The report of an account at rest: nothing was deleted and nothing failed. -/
theorem counts_reportOf {p : Planned} (h : IsAtRest reclaimer p.account world) :
    (reclaimer.reportOf world p).deletedCount = 0 ∧
    (reclaimer.reportOf world p).failedCount = 0 := by
  constructor
  · rw [Report.deletedCount, List.countP_eq_zero]
    intro artifact hartifact
    rw [not_isSucceeded_of_isLook h.isLook hartifact]
    exact Bool.false_ne_true
  · rw [Report.failedCount, List.countP_eq_zero]
    intro artifact hartifact
    rw [Deed.areClean_iff.1 h.clean artifact hartifact]
    exact Bool.false_ne_true

/-- Clearing an account at rest lists what there is. -/
theorem isLooking_of_mem_report {p : Planned} (h : IsAtRest reclaimer p.account world) {call : Call}
    (hcall : call ∈ (reclaimer.report p (Cloud.sessionOf p.account)).trace World.serve world) :
    call.IsLooking := by
  rw [Reclaimer.report_eq, Program.trace_bind] at hcall
  rcases List.mem_append.1 hcall with hcall | hcall
  · have hrequests :=
      requests_trace_clear ⟨p.account, Cloud.sessionOf p.account⟩ reclaimer.settings world
    match call, (uses_clear _ _).mem_trace hcall with
    | .host (.log line), _ => trivial
    | .cloud (.iam (some _) request), rfl =>
      have hrequest := List.mem_filterMap.2 ⟨_, hcall, (rfl : iamRequest? _ = some request)⟩
      rw [hrequests] at hrequest
      obtain ⟨query, rfl⟩ := query_of_isLook h.isLook hrequest
      trivial
  · rw [List.mem_singleton.1 hcall]
    trivial

theorem looks_reclaimAll {p : Planned} (h : IsAtRest reclaimer p.account world) :
    world.Looks (reclaimer.reclaimAll [] [p]) [reclaimer.reportOf world p] := by
  have hlooks := h.looks_release
  obtain ⟨released, hrelease⟩ : ∃ released, world.perform (reclaimer.release p.account) =
      (.ok (Cloud.sessionOf p.account), released) := ⟨_, hlooks.perform⟩
  have hrest := h.of_isAlike hlooks.isAlike
  rw [hrelease] at hrest
  obtain ⟨-, hreleased⟩ := Reclaimer.of_perform_release h.isValid hrelease
  obtain ⟨after, hreport, -⟩ := Reclaimer.run_report hreleased
  constructor
  · rw [Reclaimer.perform_reclaimAll_cons hrelease hreport]
    rfl
  · rw [Reclaimer.calls_reclaimAll_cons hrelease hreport, List.forall_mem_append,
      List.forall_mem_append]
    exact ⟨hlooks.calls, fun _ => hrest.isLooking_of_mem_report,
      fun _ hcall => absurd hcall List.not_mem_nil⟩

/-- The reclamation of an account at rest, to which the operator agrees, only looks and completes
with a report in which nothing was deleted and nothing failed. -/
theorem looks_reclaim (h : IsAtRest reclaimer account world)
    (hagreed : world.host.answer (reclaimer.question (.account account) [⟨account, none⟩]) = true) :
    ∃ report : Report, report.account = account ∧ report.deletedCount = 0 ∧ report.failedCount = 0 ∧
      world.Looks (reclaimer.reclaim askOperator (.account account)) (.completed [report]) := by
  let p : Planned := ⟨account, none⟩
  obtain ⟨hdeleted, hfailed⟩ := h.counts_reportOf (p := p)
  refine ⟨reclaimer.reportOf world p, rfl, hdeleted, hfailed, h.looks_plan.bind fun mid hmid => ?_⟩
  refine (looks_question (hmid.answer ▸ hagreed)).bind fun start hstart => ?_
  have halike := hmid.trans hstart
  rw [if_pos rfl, ← Reclaimer.reportOf_of_isAlike halike]
  refine (h.of_isAlike halike).looks_reclaimAll.bind fun after hafter => ?_
  have hclean :
      [reclaimer.reportOf world p].all Report.isClean = true := by simp [Report.isClean, hfailed]
  rw [Reclaimer.reportOf_of_isAlike halike, if_pos hclean]
  exact looks_pure _ after

end IsAtRest

/-! ## After a run that completes -/

namespace Reclaimer

variable {reclaimer : Reclaimer} {account : String} {target : ReclaimTarget} {world after : World}
variable {reports : List Report}

/-- A run that completes was agreed to, and all that it came to is clean. -/
theorem of_completed
    (hrun : world.perform (reclaimer.reclaim askOperator target) =
      (.ok (.completed reports), after)) :
    ∃ planned mid, world.perform (reclaimer.plan target) = (.ok planned, mid) ∧
      world.host.answer (reclaimer.question target planned) = true ∧
      (mid.asked (reclaimer.question target planned)).perform (reclaimer.reclaimAll [] planned) =
        (.ok reports, after) ∧
      ∀ report ∈ reports, report.isClean = true := by
  obtain ⟨planned, mid, hplan, hanswer⟩ := agreed_of_isUnstarted hrun rfl
  refine ⟨planned, mid, hplan, hanswer, ?_⟩
  have hread := hasOnlyRead_of_perform (reclaimer.uses_plan target) hplan
  have hconfirm := mid.run_askOperator (reclaimer.question target planned)
  rw [hread.answer, hanswer] at hconfirm
  cases hall : (mid.asked (reclaimer.question target planned)).perform
    (reclaimer.reclaimAll [] planned) with
  | mk all finished =>
  obtain ⟨hresult, rfl⟩ :=
    Prod.mk.inj (hrun.symm.trans (perform_reclaim_agreed hplan hconfirm hall))
  cases all with
  | error e => simp [Except.bind] at hresult
  | ok others =>
    obtain ⟨hclean, rfl⟩ := conclusion_eq_completed_iff.1 hresult.symm
    exact ⟨rfl, hclean⟩

/-- A session was opened in an account that was returned. -/
theorem opened_of_perform_release {session : Session} (hvalid : AccountId.isValid account = true)
    (h : world.perform (reclaimer.release account) = (.ok session, after)) :
    world.cloud.identity.fails (Identity.Event.assumed account).entry = false := by
  rw [release_eq] at h
  obtain ⟨_, freed, huntag, h⟩ := exists_of_perform_bind h
  obtain ⟨_, moved, hmove, hopen⟩ := exists_of_perform_bind h
  obtain ⟨now, told, htold, htail⟩ := exists_of_perform_bind hopen
  obtain ⟨_, logged, hlogged, hassume⟩ := exists_of_perform_bind htail
  obtain rfl : moved = told := congrArg Prod.snd htold
  have hgranted : logged.isRefused _ = false := not_refused_of_assumeRole hassume
  rw [isRefused, accountOfRole?_adminRoleArn reclaimer hvalid, Option.any_some,
    (hasOnlyRead_of_perform (uses_log _ _) hlogged).cloud.identity, Journaled.fails] at hgranted
  -- none of the steps before has changed what fails
  have hfreed := failing_identity_perform (untag account) world
  have hmoved := failing_identity_perform (reclaimer.moveBack account) freed
  rw [huntag] at hfreed
  rw [hmove] at hmoved
  rwa [hmoved, hfreed] at hgranted

/-- When all accounts were dealt with, the first of them was returned. -/
theorem released_of_perform_reclaimAll {done : List Report} {p : Planned} {rest : List Planned}
    (h : world.perform (reclaimer.reclaimAll done (p :: rest)) = (.ok reports, after)) :
    ∃ session released, world.perform (reclaimer.release p.account) = (.ok session, released) := by
  cases hrelease : world.perform (reclaimer.release p.account) with
  | mk result released =>
  cases result with
  | error source =>
    rw [perform_reclaimAll_aborted hrelease] at h
    exact absurd (congrArg Prod.fst h) (by simp)
  | ok session => exact ⟨session, released, rfl⟩

end Reclaimer

section TakenBack

variable {reclaimer : Reclaimer} {p : Planned} {world after : World}

/-- An account that was taken back passes the checks again, now without an owner. -/
theorem IsPlannable.taken (h : IsPlannable reclaimer world p)
    (htaken : HasTakenBack reclaimer [p.account] world after)
    (hcaller : after.cloud.identity.state = world.cloud.identity.state) :
    IsPlannable reclaimer after ⟨p.account, none⟩ where
  reclaimable := by
    obtain ⟨hvalid, member, hmember, -⟩ := h.reclaimable
    refine ⟨hvalid, reclaimer.returned member, ?_, .inl rfl, ?_⟩
    · rw [htaken.find?, if_pos (List.mem_singleton_self _), hmember, Option.map_some]
    · simp [Reclaimer.returned, Reclaimer.atRoot, Reclaimer.untagged, Tags.owner?,
        Dict.get?_eraseAll, Tags.claimKeys]
  admitted := by
    obtain ⟨caller, hcalled, hadmitted⟩ := h.admitted
    refine ⟨caller, hcaller.trans hcalled, hadmitted.other, ?_, by simp⟩
    exact ⟨(htaken.isRefused _).trans hadmitted.readable.tags,
      (htaken.isRefused _).trans hadmitted.readable.parent⟩

end TakenBack

namespace Reclaimer

variable {reclaimer : Reclaimer} {account : String} {world after : World} {reports : List Report}

/-- A run on one account that completes leaves the account at rest. -/
theorem isAtRest_of_completed
    (hrun : world.perform (reclaimer.reclaim askOperator (.account account)) =
      (.ok (.completed reports), after)) : IsAtRest reclaimer account after := by
  obtain ⟨planned, mid, hplan, -, hall, hclean⟩ := of_completed hrun
  obtain ⟨owner, rfl⟩ := exists_of_perform_plan_account hplan
  have hread := hasOnlyRead_of_perform (reclaimer.uses_plan (.account account)) hplan
  obtain ⟨hnodup, hplanned⟩ := planned_of_perform_plan hplan
  have hplannable := isPlannable_of_perform_plan hplan _ (List.mem_singleton_self _)
  obtain ⟨hreports, htaken⟩ :=
    of_perform_reclaimAll hnodup (fun p hp => (hplanned p hp).isValid) hall
  have htaken := htaken.of_asked hread
  have hreclaimed :=
    (isReclaimed_of_completed hread hnodup hplanned hall hclean).2 _ (List.mem_singleton_self _)
  -- what fails, and who the caller is, is the same after any run
  have hfailing :=
    failing_iamOf_perform (reclaimer.reclaim askOperator (.account account)) world account
  have hidentity :=
    failing_identity_perform (reclaimer.reclaim askOperator (.account account)) world
  have hcaller := caller_perform (reclaimer.reclaim askOperator (.account account)) world
  rw [hrun] at hfailing hidentity hcaller
  constructor
  · exact hplannable.taken htaken hcaller
  · exact hreclaimed.isFinished.toIsFreed
  · obtain ⟨session, released, hrelease⟩ := released_of_perform_reclaimAll hall
    have hopened := opened_of_perform_release hplannable.reclaimable.isValid hrelease
    rw [Journaled.fails, hidentity, ← congrArg Journaled.failing hread.cloud.identity]
    exact hopened
  · exact hreclaimed.iam.isSettled
  · have hcleared := htaken.cleared account (List.mem_singleton_self _)
    have hreport : (reclaimer.reportOf world ⟨account, owner⟩).isClean = true := by
      rw [← reportOf_congr (hread.iamOf account)]
      exact hclean _ (hreports ▸ List.mem_singleton_self _)
    rw [hfailing, hcleared]
    exact areClean_cleared (Deed.areClean_iff.2 ((Report.isClean_iff _).1 hreport))

end Reclaimer

end Lending

open Lending

/-- When the reclamation of one account completes, so does the same reclamation in the world that it
leaves.  The second one makes only calls that look, has one report in which nothing was deleted and
nothing failed, and leaves everything as it was. -/
theorem World.reclaim_settled {world after : World} {reclaimer : Reclaimer} {account : String}
    {reports : List Report}
    (hrun : world.perform (reclaimer.reclaim askOperator (.account account)) =
      (.ok (.completed reports), after)) :
    let (result, again) := after.perform (reclaimer.reclaim askOperator (.account account))
    (∃ report : Report, result = .ok (.completed [report]) ∧ report.account = account ∧
      report.deletedCount = 0 ∧ report.failedCount = 0) ∧
    (∀ call ∈ after.calls (reclaimer.reclaim askOperator (.account account)), call.IsLooking) ∧
    after.IsAlike again := by
  have hrest := Reclaimer.isAtRest_of_completed hrun
  obtain ⟨planned, mid, hplan, hagreed, -⟩ := Reclaimer.of_completed hrun
  obtain ⟨owner, rfl⟩ := Reclaimer.exists_of_perform_plan_account hplan
  -- the operator is asked the same question again, since the question does not name the owner
  have hanswer :
      after.host.answer (reclaimer.question (.account account) [⟨account, none⟩]) = true := by
    have hsame := answer_perform (reclaimer.reclaim askOperator (.account account)) world
    rw [hrun] at hsame
    rw [hsame]
    exact hagreed
  obtain ⟨report, haccount, hdeleted, hfailed, hlooks⟩ := hrest.looks_reclaim hanswer
  exact ⟨⟨report, hlooks.result, haccount, hdeleted, hfailed⟩, hlooks.calls, hlooks.isAlike⟩

/-! ## An account with a policy that cannot be deleted -/

/-- A world in which an account is lent.  The policy that a protected role of the account holds
cannot be deleted. -/
def guardedWorld : World where
  cloud := lentWorld.cloud.changeIam "111122223333"
    (·.failOn (Iam.Request.remove (.deletePolicy (Iam.policyArn "111122223333" "kept"))).entry)

/-- How many reports there are, and how many artifacts were deleted, when a run completes. -/
def completedCounts? : Except PoolError ReclaimOutcome → Option (List Nat)
  | .ok (.completed reports) => some (reports.map Report.deletedCount)
  | _ => none

theorem exists_of_completedCounts? {result : Except PoolError ReclaimOutcome} {counts : List Nat}
    (h : completedCounts? result = some counts) :
    ∃ reports, result = .ok (.completed reports) ∧ reports.map Report.deletedCount = counts := by
  unfold completedCounts? at h
  split at h
  · exact ⟨_, rfl, Option.some.inj h⟩
  · simp at h

/-- The first run deletes eight artifacts, and the second one none. -/
theorem reclaim_settled_guarded :
    let reclaim := lentReclaimer.reclaim askOperator (.account "111122223333")
    let (first, after) := guardedWorld.perform reclaim
    (∃ report : Report, first = .ok (.completed [report]) ∧ report.deletedCount = 8) ∧
    (∃ report : Report, (after.perform reclaim).1 = .ok (.completed [report]) ∧
      report.deletedCount = 0) ∧
    after.IsAlike (after.perform reclaim).2 := by
  intro reclaim
  have hcompletes : completedCounts? (guardedWorld.perform reclaim).1 = some [8] := by
    decide +kernel
  obtain ⟨reports, hfirst, hcounts⟩ := exists_of_completedCounts? hcompletes
  cases hrun : guardedWorld.perform reclaim with
  | mk first after =>
  rw [hrun] at hfirst
  obtain rfl : first = .ok (.completed reports) := hfirst
  obtain ⟨⟨again, hagain, -, hdeleted, -⟩, -, halike⟩ := World.reclaim_settled hrun
  have hlength := congrArg List.length hcounts
  rw [List.length_map] at hlength
  obtain ⟨report, rfl⟩ := List.length_eq_one_iff.1 hlength
  exact ⟨⟨report, rfl, (List.cons.inj hcounts).1⟩, ⟨again, hagain, hdeleted⟩, halike⟩

end AccountLending
