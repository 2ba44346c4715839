import AccountLending.Proofs.Clearing.Emptied
import AccountLending.Proofs.Reclamation.Agreement
import AccountLending.Proofs.Reclamation.Releasing

/-!
# Reclamations that complete

Accounts are returned and cleared one after the other.  An account is touched in its own turn only,
so what is found in it then is what was there when the run started, and what is left of it then is
there when the run ends.  A run that completes has taken back every account of the plan; and it does
complete when no call is refused.

* `HasTakenBack` — a world after some accounts were taken back;
* `Reclaimer.of_perform_reclaimAll` — the reports and the world after all accounts;
* `Reclaimer.succeeds_reclaimAll` — all accounts are dealt with unless a call is refused;
* `World.reclaim_completed` — completing means that every account is free, in its place and empty.
-/

namespace AccountLending

namespace Lending

/-! ## Accounts that were taken back -/

/-- A world after some accounts were taken back: their members are returned and their IAM is
cleared, while the other members and the IAM of the other accounts are what they were. -/
structure HasTakenBack (reclaimer : Reclaimer) (accounts : List String)
    (before after : World) : Prop where
  find? : ∀ other, after.cloud.organization.state.find? other =
    if other ∈ accounts then (before.cloud.organization.state.find? other).map reclaimer.returned
    else before.cloud.organization.state.find? other
  iamOf : ∀ other, other ∉ accounts → after.cloud.iamOf other = before.cloud.iamOf other
  cleared : ∀ account ∈ accounts, (after.cloud.iamOf account).state =
    cleared (before.cloud.iamOf account).failing reclaimer.settings
      (before.cloud.iamOf account).state
  isRefused : ∀ call, after.isRefused call = before.isRefused call

theorem hasTakenBack_nothing (reclaimer : Reclaimer) (world : World) :
    HasTakenBack reclaimer [] world world where
  find? _ := (if_neg (List.not_mem_nil)).symm
  iamOf _ _ := rfl
  cleared _ haccount := absurd haccount List.not_mem_nil
  isRefused _ := rfl

theorem HasTakenBack.cons {reclaimer : Reclaimer} {account : String} {rest : List String}
    {before mid after : World} (hnew : account ∉ rest)
    (h : HasTakenBack reclaimer [account] before mid)
    (h' : HasTakenBack reclaimer rest mid after) :
    HasTakenBack reclaimer (account :: rest) before after where
  find? other := by
    rw [h'.find?, h.find?]
    by_cases hother : other = account
    · rw [hother, if_neg hnew, if_pos List.mem_cons_self, if_pos List.mem_cons_self]
    · simp [hother]
  iamOf other hother := by
    rw [List.mem_cons, not_or] at hother
    rw [h'.iamOf other hother.2, h.iamOf other (by simpa using hother.1)]
  cleared other hother := by
    rcases List.mem_cons.1 hother with rfl | hother
    · rw [h'.iamOf other hnew]
      exact h.cleared other List.mem_cons_self
    · have hne : other ∉ [account] := fun heq => hnew (List.mem_singleton.1 heq ▸ hother)
      rw [h'.cleared other hother, h.iamOf other hne]
  isRefused call := (h'.isRefused call).trans (h.isRefused call)

/-- A returned account is taken back by clearing it, as far as nothing else is changed. -/
theorem HasTakenBack.of_cleared {reclaimer : Reclaimer} {account : String}
    {before released after : World}
    (hreleased : World.HasChanged account reclaimer.returned before released)
    (hsame : World.IsSameBut account released after)
    (hcleared : (after.cloud.iamOf account).state =
      Lending.cleared (before.cloud.iamOf account).failing reclaimer.settings
        (before.cloud.iamOf account).state)
    (hfailing : (after.cloud.iamOf account).failing = (before.cloud.iamOf account).failing) :
    HasTakenBack reclaimer [account] before after where
  find? other := by
    rw [hsame.organization, hreleased.find?]
    simp only [List.mem_singleton]
  iamOf other hother := by rw [hsame.iamOf other (by simpa using hother), hreleased.iamOf]
  cleared other hother := by
    rw [List.mem_singleton.1 hother]
    exact hcleared
  isRefused call := by
    rw [← hreleased.isRefused]
    refine World.isRefused_congr ?_ ?_ ?_ (fun other => ?_) call
    · rw [hsame.organization]
    · rw [hsame.identity]
    · rw [hsame.identity]
    · by_cases hother : other = account
      · rw [hother, hreleased.iamOf, hfailing]
      · rw [hsame.iamOf other hother]

namespace Reclaimer

variable {reclaimer : Reclaimer} {world released after : World} {planned : List Planned}
  {p : Planned}

/-- The report of an account that is cleared in a world. -/
def reportOf (reclaimer : Reclaimer) (world : World) (p : Planned) : Report where
  account := p.account
  owner := p.owner
  artifacts := Deed.entries (clearDeeds (world.cloud.iamOf p.account).failing reclaimer.settings
    (world.cloud.iamOf p.account).state)

theorem reportOf_congr {other : World}
    (h : other.cloud.iamOf p.account = world.cloud.iamOf p.account) :
    reclaimer.reportOf other p = reclaimer.reportOf world p := by
  rw [reportOf, h]
  rfl

/-- Say what a report came to. -/
def summarize (report : Report) : Engine Report := do
  Engine.log .info ("Account " ++ report.account ++ ": " ++ toString report.deletedCount
    ++ " artifact(s) deleted, " ++ toString report.failedCount ++ " failed")
  return report

theorem report_eq (p : Planned) (session : Session) :
    reclaimer.report p session =
      (clear ⟨p.account, session⟩ reclaimer.settings).bind fun artifacts =>
      summarize ⟨p.account, p.owner, artifacts⟩ := rfl

/-- Clearing an account that was returned, with its own session. -/
theorem run_report (hreleased : World.HasChanged p.account reclaimer.returned world released) :
    ∃ after, released.run (reclaimer.report p (Cloud.sessionOf p.account)) =
        (reclaimer.reportOf world p, after) ∧ HasTakenBack reclaimer [p.account] world after := by
  let site : Site := ⟨p.account, Cloud.sessionOf p.account⟩
  obtain ⟨hentries, hafter, hsame⟩ := released.run_clear site reclaimer.settings
  have hkey : released.cloud.iamOf site.session.accessKey = world.cloud.iamOf p.account :=
    hreleased.iamOf p.account
  rw [hkey] at hentries hafter
  rw [report_eq, World.run, Program.run_bind]
  refine ⟨_, Prod.ext ?_ rfl, HasTakenBack.of_cleared hreleased
    ⟨hsame.organization, hsame.identity, hsame.iamOf, hsame.host⟩ ?_ ?_⟩
  · show (⟨p.account, p.owner, (released.run (clear _ reclaimer.settings)).1⟩ : Report) = _
    rw [hentries]
    rfl
  · exact congrArg Journaled.state hafter
  · have hfailing := congrArg Journaled.failing hafter
    exact hfailing

/-! ## One account after the other -/

/-- An account that cannot be returned ends the run. -/
theorem perform_reclaimAll_aborted {done : List Report} {rest : List Planned} {source : PoolError}
    (hrelease : world.perform (reclaimer.release p.account) = (.error source, released)) :
    world.perform (reclaimer.reclaimAll done (p :: rest)) =
      (.error (.reclaimAborted p.account source done), released) := by
  rw [reclaimAll, World.perform_bind_ok (World.perform_result _ _), hrelease]
  rfl

/-- An account that is returned is cleared, and the rest follows. -/
theorem perform_reclaimAll_cons {done : List Report} {rest : List Planned} {session : Session}
    {report : Report} {mid : World}
    (hrelease : world.perform (reclaimer.release p.account) = (.ok session, released))
    (hreport : released.run (reclaimer.report p session) = (report, mid)) :
    world.perform (reclaimer.reclaimAll done (p :: rest)) =
      mid.perform (reclaimer.reclaimAll (done ++ [report]) rest) := by
  rw [reclaimAll, World.perform_bind_ok (World.perform_result _ _), hrelease]
  apply (World.perform_bind_ok (World.perform_lift _ _) _).trans
  rw [hreport]

theorem calls_reclaimAll_cons {done : List Report} {rest : List Planned} {session : Session}
    {report : Report} {mid : World}
    (hrelease : world.perform (reclaimer.release p.account) = (.ok session, released))
    (hreport : released.run (reclaimer.report p session) = (report, mid)) :
    world.calls (reclaimer.reclaimAll done (p :: rest)) = world.calls (reclaimer.release p.account)
      ++ ((reclaimer.report p session).trace World.serve released
        ++ mid.calls (reclaimer.reclaimAll (done ++ [report]) rest)) := by
  rw [reclaimAll, World.calls_bind_ok (World.perform_result _ _), World.calls_result, hrelease]
  refine congrArg (_ ++ ·) ((World.calls_bind_ok (World.perform_lift _ _) _).trans ?_)
  rw [World.calls_lift, hreport]

/-- When no account fails to be returned, there is a report for each in the order of the plan, and
all of them were taken back. -/
theorem of_perform_reclaimAll {done reports : List Report}
    (hnodup : (planned.map (·.account)).Nodup)
    (hvalid : ∀ p ∈ planned, AccountId.isValid p.account = true)
    (h : world.perform (reclaimer.reclaimAll done planned) = (.ok reports, after)) :
    reports = done ++ planned.map (reclaimer.reportOf world) ∧
      HasTakenBack reclaimer (planned.map (·.account)) world after := by
  induction planned generalizing done world with
  | nil =>
    obtain ⟨rfl, rfl⟩ := World.eq_of_perform_pure h
    exact ⟨(List.append_nil _).symm, hasTakenBack_nothing reclaimer world⟩
  | cons p rest ih =>
    obtain ⟨hnew, hnodup⟩ := List.nodup_cons.1 hnodup
    cases hrelease : world.perform (reclaimer.release p.account) with
    | mk result released =>
    cases result with
    | error source =>
      rw [perform_reclaimAll_aborted hrelease] at h
      exact absurd (congrArg Prod.fst h) (by simp)
    | ok session =>
      obtain ⟨rfl, hreleased⟩ := of_perform_release (hvalid p List.mem_cons_self) hrelease
      obtain ⟨mid, hreport, htaken⟩ := run_report hreleased
      rw [perform_reclaimAll_cons hrelease hreport] at h
      obtain ⟨hreports, hrest⟩ := ih hnodup (fun q hq => hvalid q (List.mem_cons_of_mem _ hq)) h
      -- the rest was not touched in the turn of this account
      have hsame : rest.map (reclaimer.reportOf mid) = rest.map (reclaimer.reportOf world) := by
        refine List.map_congr_left fun q hq =>
          reportOf_congr (htaken.iamOf q.account fun heq => hnew ?_)
        exact List.mem_map.2 ⟨q, hq, List.mem_singleton.1 heq⟩
      refine ⟨?_, htaken.cons hnew hrest⟩
      rw [hreports, hsame, List.append_assoc]
      rfl

theorem mem_trace_report {session : Session} {call : Call}
    (h : call ∈ (clear ⟨p.account, session⟩ reclaimer.settings).trace World.serve released) :
    call ∈ (reclaimer.report p session).trace World.serve released := by
  rw [report_eq, Program.trace_bind]
  exact List.mem_append_left _ h

/-- A clearing none of whose calls is refused is one of granted deeds. -/
theorem areGranted_of_trace
    (hreleased : World.HasChanged p.account reclaimer.returned world released)
    (h : ∀ call ∈ (reclaimer.report p (Cloud.sessionOf p.account)).trace World.serve released,
      world.isRefused call = false) :
    Deed.AreGranted (world.cloud.iamOf p.account).failing (clearDeeds
      (world.cloud.iamOf p.account).failing reclaimer.settings
      (world.cloud.iamOf p.account).state) := by
  apply Deed.areGranted_iff.2
  intro request hrequest
  have hkey : released.cloud.iamOf p.account = world.cloud.iamOf p.account :=
    hreleased.iamOf p.account
  rw [← hkey] at hrequest
  exact h _ (mem_trace_report (mem_trace_clear ⟨p.account, Cloud.sessionOf p.account⟩ hrequest))

/-- Accounts that may be taken back are all dealt with when no call is refused, and none of the
requests of their clearings was refused. -/
theorem succeeds_reclaimAll {done : List Report} (hnodup : (planned.map (·.account)).Nodup)
    (hplanned : ∀ p ∈ planned, IsReclaimable reclaimer world.cloud.organization.state p)
    (h : ∀ call ∈ world.calls (reclaimer.reclaimAll done planned), world.isRefused call = false) :
    world.Succeeds (reclaimer.reclaimAll done planned) ∧ ∀ p ∈ planned,
      Deed.AreGranted (world.cloud.iamOf p.account).failing (clearDeeds
        (world.cloud.iamOf p.account).failing reclaimer.settings
        (world.cloud.iamOf p.account).state) := by
  induction planned generalizing done world with
  | nil => exact ⟨World.succeeds_pure _ _, by simp⟩
  | cons p rest ih =>
    obtain ⟨hnew, hnodup⟩ := List.nodup_cons.1 hnodup
    obtain ⟨hvalid, member, hmember, hpool, -⟩ := hplanned p List.mem_cons_self
    have hcalls : ∀ call ∈ world.calls (reclaimer.release p.account),
        world.isRefused call = false := by
      intro call hcall
      apply h call
      rw [reclaimAll, World.calls_bind, World.calls_result]
      exact List.mem_append_left _ hcall
    -- the first account is returned and cleared, and the others are still where the plan found them
    obtain ⟨session, released, hrelease⟩ := succeeds_release hvalid hmember hpool hcalls
    obtain ⟨rfl, hreleased⟩ := of_perform_release hvalid hrelease
    obtain ⟨mid, hreport, htaken⟩ := run_report hreleased
    rw [calls_reclaimAll_cons hrelease hreport] at h
    have hothers : ∀ q ∈ rest, q.account ∉ [p.account] := fun q hq heq =>
      hnew (List.mem_map.2 ⟨q, hq, List.mem_singleton.1 heq⟩)
    have hstill : ∀ q ∈ rest, IsReclaimable reclaimer mid.cloud.organization.state q := by
      intro q hq
      obtain ⟨hqvalid, found, hfound, hplace⟩ := hplanned q (List.mem_cons_of_mem _ hq)
      refine ⟨hqvalid, found, ?_, hplace⟩
      rw [htaken.find?, if_neg (hothers q hq)]
      exact hfound
    have hlater :
        ∀ call ∈ mid.calls (reclaimer.reclaimAll (done ++ [reclaimer.reportOf world p]) rest),
        mid.isRefused call = false := by
      intro call hcall
      rw [htaken.isRefused]
      exact h call (List.mem_append_right _ (List.mem_append_right _ hcall))
    obtain ⟨⟨reports, after, hreports⟩, hgranted⟩ := ih hnodup hstill hlater
    refine ⟨⟨reports, after, (perform_reclaimAll_cons hrelease hreport).trans hreports⟩,
      fun q hq => ?_⟩
    rcases List.mem_cons.1 hq with rfl | hq
    · exact areGranted_of_trace hreleased fun call hcall =>
        h call (List.mem_append_right _ (List.mem_append_left _ hcall))
    · rw [← htaken.iamOf q.account (hothers q hq)]
      exact hgranted q hq

end Reclaimer

/-! ## The whole run -/

/-- An account was taken back: it stands under the root of the pool, it has none of the claim tags
and all of its other tags, and its IAM has been emptied. -/
structure IsReclaimed (reclaimer : Reclaimer) (account : String) (before after : World) : Prop where
  parent : after.cloud.organization.state.parent? account = some reclaimer.payer.root
  tags : ∀ key, (after.cloud.organization.state.tags account).get? key =
    if key ∈ Tags.claimKeys then none else (before.cloud.organization.state.tags account).get? key
  iam : IsEmptied reclaimer.settings (before.cloud.iamOf account).state
    (after.cloud.iamOf account).state

theorem HasTakenBack.isReclaimed {reclaimer : Reclaimer} {accounts : List String} {account : String}
    {before after : World} (h : HasTakenBack reclaimer accounts before after)
    (haccount : account ∈ accounts) {member : Member}
    (hmember : before.cloud.organization.state.find? account = some member)
    (hclean : Deed.AreClean (clearDeeds (before.cloud.iamOf account).failing reclaimer.settings
      (before.cloud.iamOf account).state)) : IsReclaimed reclaimer account before after := by
  have hfound :
      after.cloud.organization.state.find? account = some (reclaimer.returned member) := by
    rw [h.find?, if_pos haccount, hmember, Option.map_some]
  constructor
  · simp [Organization.parent?, hfound, Reclaimer.returned, Reclaimer.atRoot]
  · intro key
    rw [Organization.tags_of_find? hfound, Organization.tags_of_find? hmember]
    exact Dict.get?_eraseAll _ _ _
  · rw [h.cleared account haccount]
    exact isEmptied_of_areClean hclean

/-- The world from which accounts are taken back is the one from which the plan was made, but for
the question and the log. -/
theorem IsReclaimed.of_asked {reclaimer : Reclaimer} {account question : String}
    {world mid after : World} (hread : world.HasOnlyRead mid)
    (h : IsReclaimed reclaimer account (mid.asked question) after) :
    IsReclaimed reclaimer account world after where
  parent := h.parent
  tags key := by
    rw [← hread.cloud.state]
    exact h.tags key
  iam := by
    rw [← hread.iamOf]
    exact h.iam

namespace Reclaimer

variable {reclaimer : Reclaimer} {target : ReclaimTarget} {planned : List Planned}
  {world mid after : World}

theorem conclusion_eq_completed_iff {reports others : List Report} :
    conclusion reports = .ok (.completed others) ↔
      (∀ report ∈ reports, report.isClean = true) ∧ reports = others := by
  rw [← List.all_eq_true, conclusion]
  cases reports.all Report.isClean <;> simp

/-- What a run that completes has done. -/
theorem isReclaimed_of_completed {reports : List Report} {question : String}
    (hread : world.HasOnlyRead mid) (hnodup : (planned.map (·.account)).Nodup)
    (hplanned : ∀ p ∈ planned, IsReclaimable reclaimer world.cloud.organization.state p)
    (hall : (mid.asked question).perform (reclaimer.reclaimAll [] planned) = (.ok reports, after))
    (hclean : ∀ report ∈ reports, report.isClean = true) :
    reports.map (fun report => (report.account, report.owner)) =
        planned.map (fun p => (p.account, p.owner)) ∧
      ∀ p ∈ planned, IsReclaimed reclaimer p.account world after := by
  obtain ⟨hreports, htaken⟩ :=
    of_perform_reclaimAll hnodup (fun p hp => (hplanned p hp).isValid) hall
  rw [List.nil_append] at hreports
  constructor
  · rw [hreports, List.map_map]
    rfl
  · intro p hp
    obtain ⟨-, member, hmember, -⟩ := hplanned p hp
    have hreport : reclaimer.reportOf (mid.asked question) p ∈ reports := by
      rw [hreports]
      exact List.mem_map_of_mem hp
    have hfound : (mid.asked question).cloud.organization.state.find? p.account = some member := by
      show mid.cloud.organization.state.find? p.account = some member
      rw [hread.cloud.state]
      exact hmember
    have hdeeds := Deed.areClean_iff.2 ((Report.isClean_iff _).1 (hclean _ hreport))
    exact IsReclaimed.of_asked hread (htaken.isReclaimed (List.mem_map_of_mem hp) hfound hdeeds)

/-- A run that is not refused anything has only clean reports. -/
theorem succeeds_clean {question : String} (hread : world.HasOnlyRead mid)
    (hnodup : (planned.map (·.account)).Nodup)
    (hplanned : ∀ p ∈ planned, IsReclaimable reclaimer world.cloud.organization.state p)
    (hgranted : ∀ call ∈ (mid.asked question).calls (reclaimer.reclaimAll [] planned),
      world.isRefused call = false)
    (hsound : ∀ p ∈ planned, (world.cloud.iamOf p.account).state.IsSound) :
    ∃ reports after,
      (mid.asked question).perform (reclaimer.reclaimAll [] planned) = (.ok reports, after) ∧
      ∀ report ∈ reports, report.isClean = true := by
  have hstill :
      ∀ p ∈ planned, IsReclaimable reclaimer (mid.asked question).cloud.organization.state p := by
    show ∀ p ∈ planned, IsReclaimable reclaimer mid.cloud.organization.state p
    rw [hread.cloud.state]
    exact hplanned
  obtain ⟨⟨reports, after, hall⟩, hdeeds⟩ := succeeds_reclaimAll hnodup hstill fun call hcall =>
    (hread.isRefused call).trans (hgranted call hcall)
  refine ⟨reports, after, hall, fun report hreport => ?_⟩
  obtain ⟨hreports, -⟩ := of_perform_reclaimAll hnodup (fun p hp => (hplanned p hp).isValid) hall
  rw [hreports, List.nil_append] at hreport
  obtain ⟨p, hp, rfl⟩ := List.mem_map.1 hreport
  refine (Report.isClean_iff _).2 (Deed.areClean_iff.1 (areClean_of_areGranted ?_ (hdeeds p hp)))
  show (mid.cloud.iamOf p.account).state.IsSound
  rw [hread.iamOf]
  exact hsound p hp

end Reclaimer

end Lending

open Lending

/-- A reclamation that completes has a report for each account of its plan, in the order of the
plan, and every account of the plan was taken back.  And a reclamation completes when its plan is
made, the operator agrees, none of its calls is registered to fail, and each policy of the accounts
has one default version and versions of different names, as it has in every account that was set up
(`IsBuilt.isSound`). -/
theorem World.reclaim_completed (world : World) (reclaimer : Reclaimer) (target : ReclaimTarget) :
    let (result, after) := world.perform (reclaimer.reclaim askOperator target)
    (∀ reports, result = .ok (.completed reports) →
      ∃ planned, (world.perform (reclaimer.plan target)).1 = .ok planned ∧
        reports.map (fun report => (report.account, report.owner)) =
          planned.map (fun p => (p.account, p.owner)) ∧
        ∀ p ∈ planned, IsReclaimed reclaimer p.account world after) ∧
    ∀ planned, (world.perform (reclaimer.plan target)).1 = .ok planned →
      world.host.answer (reclaimer.question target planned) = true →
      (∀ call ∈ world.calls (reclaimer.reclaim askOperator target), world.isRefused call = false) →
      (∀ p ∈ planned, (world.cloud.iamOf p.account).state.IsSound) →
      ∃ reports, result = .ok (.completed reports) := by
  cases hplan : world.perform (reclaimer.plan target) with
  | mk found mid =>
  have hread := hasOnlyRead_of_perform (reclaimer.uses_plan target) hplan
  cases found with
  | error e =>
    rw [Reclaimer.perform_reclaim_failed hplan]
    exact ⟨fun reports h => by simp at h, fun planned h => by simp at h⟩
  | ok planned =>
    obtain ⟨hnodup, hplanned⟩ := Reclaimer.planned_of_perform_plan hplan
    have hconfirm := mid.run_askOperator (reclaimer.question target planned)
    rw [hread.answer] at hconfirm
    cases hanswer : world.host.answer (reclaimer.question target planned) with
    | false =>
      rw [hanswer] at hconfirm
      rw [Reclaimer.perform_reclaim_declined hplan hconfirm]
      refine ⟨fun reports h => by simp at h, fun other hother hagreed => ?_⟩
      obtain rfl := Except.ok.inj hother
      exact absurd (hagreed.symm.trans hanswer) Bool.false_ne_true.symm
    | true =>
      rw [hanswer] at hconfirm
      cases hall : (mid.asked (reclaimer.question target planned)).perform
          (reclaimer.reclaimAll [] planned) with
      | mk result after =>
      rw [Reclaimer.perform_reclaim_agreed hplan hconfirm hall]
      constructor
      · intro reports hcompleted
        cases result with
        | error e => simp [Except.bind] at hcompleted
        | ok all =>
          obtain ⟨hclean, rfl⟩ := Reclaimer.conclusion_eq_completed_iff.1 hcompleted
          exact ⟨planned, rfl, Reclaimer.isReclaimed_of_completed hread hnodup hplanned hall hclean⟩
      · intro other hother _ hgranted hsound
        obtain rfl := Except.ok.inj hother
        obtain ⟨reports, _, hperform, hclean⟩ := Reclaimer.succeeds_clean hread hnodup hplanned
          (fun call hcall => hgranted call
            (Reclaimer.mem_calls_reclaim_agreed hplan hconfirm hcall)) hsound
        obtain ⟨rfl, rfl⟩ := Prod.mk.inj (hall.symm.trans hperform)
        exact ⟨reports, Reclaimer.conclusion_eq_completed_iff.2 ⟨hclean, rfl⟩⟩

/-! ## An account that is taken back -/

/-- The IAM of an account with a protected role that holds a policy, and with a role, a policy and a
user that have to go. -/
def lentIam : Iam :=
  ({} : Iam).addPolicy "111122223333" "kept" 0
    |>.addPolicy "111122223333" "old" 2
    |>.addRole "OrganizationAccountAccessRole" "/"
    |>.attachRolePolicy "OrganizationAccountAccessRole" (Iam.policyArn "111122223333" "kept")
    |>.addRole "builder" "/"
    |>.attachRolePolicy "builder" (Iam.policyArn "111122223333" "old")
    |>.addUser "alice"
    |>.setProfile "alice"
    |>.addAccessKey "alice" "key"

theorem isSound_lentIam : lentIam.IsSound := by
  have hpolicies :=
    (Iam.isSound_empty.addPolicy "111122223333" "kept" 0).addPolicy "111122223333" "old" 2
  exact hpolicies

/-- A world with that account, which is lent to a user. -/
def lentWorld : World where
  cloud := ((Cloud.ofCaller (.ok "999999999999")).changeOrganization
    (·.addMember ⟨{ id := "111122223333", status := .active }, "ou-lent",
      Tags.ofClaim "alice" "token"⟩)).changeIam "111122223333" (·.modify fun _ => lentIam)

/-- The pool of that account. -/
def lentReclaimer : Reclaimer := ⟨{ root := "r-pool", claimed := "ou-lent" }, {}⟩

theorem plan_lent : (lentWorld.perform (lentReclaimer.plan (.account "111122223333"))).1 =
    .ok [⟨"111122223333", some "alice"⟩] := by
  have hplanned : (lentWorld.perform (lentReclaimer.plan (.account "111122223333"))).1.toOption =
      some [⟨"111122223333", some "alice"⟩] := by
    decide +kernel
  obtain ⟨mid, hplan⟩ := World.exists_of_toOption hplanned
  rw [hplan]

theorem reclaim_completed_lent :
    let (result, after) :=
      lentWorld.perform (lentReclaimer.reclaim askOperator (.account "111122223333"))
    ∃ report, result = .ok (.completed [report]) ∧ report.account = "111122223333" ∧
      after.cloud.organization.state.parent? "111122223333" = some "r-pool" ∧
      (after.cloud.iamOf "111122223333").state.users.get? "alice" = none := by
  have hboth := lentWorld.reclaim_completed lentReclaimer (.account "111122223333")
  have hgranted :
      ∀ call ∈ lentWorld.calls (lentReclaimer.reclaim askOperator (.account "111122223333")),
      lentWorld.isRefused call = false := by
    decide +kernel
  cases hrun : lentWorld.perform (lentReclaimer.reclaim askOperator (.account "111122223333")) with
  | mk result after =>
  rw [hrun] at hboth
  obtain ⟨hcompleted, hcompletes⟩ := hboth
  obtain ⟨reports, hresult⟩ := hcompletes _ plan_lent rfl hgranted fun p hp => by
    rw [List.mem_singleton.1 hp]
    exact isSound_lentIam
  obtain ⟨planned, hplan, hreports, hreclaimed⟩ := hcompleted reports hresult
  -- the plan that the run made is the one that was worked out above
  obtain rfl := Except.ok.inj (plan_lent.symm.trans hplan)
  have hlent := hreclaimed _ (List.mem_singleton_self _)
  obtain ⟨report, rfl⟩ : ∃ report, reports = [report] := by
    have hlength := congrArg List.length hreports
    rw [List.length_map] at hlength
    exact List.length_eq_one_iff.1 hlength
  refine ⟨report, hresult, ?_, hlent.parent, hlent.iam.users "alice"⟩
  exact (Prod.mk.inj (List.cons.inj hreports).1).1

end AccountLending
