import AccountLending.Proofs.Alike
import AccountLending.Proofs.Reclamation.Alone
import AccountLending.Proofs.Reclamation.Footprint

/-!
# A run over several accounts is the runs over each of them

A run finds and checks all its accounts before it changes the first one, while runs on single
accounts take turns in finding, checking and changing.  It comes to the same: the turn of one
account changes nothing that another one is found and checked by, so that each account of a plan is
still planned when its own run comes.

* `World.reclaimEach` — runs on single accounts, until one is aborted;
* `Reclaimer.AmountTo` — what the runs on single accounts amount to, run by run;
* `Reclaimer.amountTo_of_perform_reclaimAll` — the turns of a run amount to the runs on each
  account;
* `Lending.IsBatchOf` — how a run over several accounts ends, by the runs on each of them;
* `World.reclaim_batch` — whole runs.
-/

namespace AccountLending

open Lending

/-! ## Runs on single accounts -/

namespace Lending

/-- A run that was aborted. -/
def isAborted : Except PoolError ReclaimOutcome → Bool
  | .error (.reclaimAborted ..) => true
  | _ => false

theorem isAborted_conclusion (reports : List Report) :
    isAborted (Reclaimer.conclusion reports) = false := by
  unfold Reclaimer.conclusion
  split <;> rfl

end Lending

/-- Take accounts back one after the other, each in a run of its own, until a run is aborted.  The
runs are given with their accounts. -/
def World.reclaimEach (reclaimer : Reclaimer) :
    List String → World → List (String × Except PoolError ReclaimOutcome) × World
  | [], world => ([], world)
  | account :: rest, world =>
    let (result, after) := world.perform (reclaimer.reclaim askOperator (.account account))
    if isAborted result then ([(account, result)], after)
    else
      let (runs, last) := World.reclaimEach reclaimer rest after
      ((account, result) :: runs, last)

/-! ## What is only read -/

namespace World

variable {world mid : World}

theorem HasOnlyRead.isAlike (h : world.HasOnlyRead mid) : world.IsAlike mid where
  cloud := ⟨⟨h.cloud.state, h.cloud.failing⟩, h.cloud.identity ▸ .refl _,
    fun account => h.iamOf account ▸ .refl _⟩
  host := by
    have hhost := congrArg (fun host : Host => { host with log := mid.host.log }) h.host
    exact ⟨mid.host.log, world.host.questions, hhost⟩

theorem isAlike_asked (world : World) (question : String) : world.IsAlike (world.asked question) :=
  ⟨(IsAlike.refl world).cloud, world.host.log, world.host.questions ++ [question], rfl⟩

theorem IsAlike.isRefused (h : world.IsAlike mid) (call : Call) :
    mid.isRefused call = world.isRefused call :=
  isRefused_congr h.cloud.organization.failing h.cloud.identity.failing h.cloud.identity.state
    (fun account => (h.cloud.iamOf account).failing) call

end World

namespace Lending

open World

/-! ## Accounts that are still planned -/

variable {reclaimer : Reclaimer} {p q : Planned} {planned : List Planned} {target : ReclaimTarget}
variable {world mid after last : World}

theorem IsPlannable.of_isAlike (h : IsPlannable reclaimer world p) (halike : world.IsAlike mid) :
    IsPlannable reclaimer mid p where
  reclaimable := by
    rw [halike.cloud.organization.state]
    exact h.reclaimable
  admitted := by
    obtain ⟨caller, hcaller, hadmitted⟩ := h.admitted
    refine ⟨caller, halike.cloud.identity.state.trans hcaller,
      hadmitted.of_isRefused fun call => ?_⟩
    exact (halike.isRefused call).symm

/-- An account passes its checks whether or not another one has been taken back. -/
theorem IsPlannable.of_hasTakenBack (h : IsPlannable reclaimer world q)
    (htaken : HasTakenBack reclaimer [p.account] world after) (hother : q.account ≠ p.account)
    (hcaller : after.cloud.identity.state = world.cloud.identity.state) :
    IsPlannable reclaimer after q where
  reclaimable := by
    obtain ⟨hvalid, member, hmember, hplace⟩ := h.reclaimable
    refine ⟨hvalid, member, ?_, hplace⟩
    rw [htaken.find?, if_neg (by simpa using hother)]
    exact hmember
  admitted := by
    obtain ⟨caller, hcalled, hadmitted⟩ := h.admitted
    refine ⟨caller, hcaller.trans hcalled, hadmitted.of_isRefused fun call => ?_⟩
    exact (htaken.isRefused call).symm

/-! ## Runs of their own -/

namespace Reclaimer

variable {account : String} {source : PoolError} {done reports : List Report} {report : Report}
variable {runs : List (String × Except PoolError ReclaimOutcome)}
  {all : Except PoolError (List Report)}

theorem reclaimEach_aborted {accounts : List String}
    (hrun : world.perform (reclaimer.reclaim askOperator
      (.account account)) = (.error (.reclaimAborted account source reports), after)) :
    world.reclaimEach reclaimer (account :: accounts) =
      ([(account, .error (.reclaimAborted account source reports))], after) := by
  rw [World.reclaimEach, hrun]
  rfl

theorem reclaimEach_concluded {accounts : List String}
    (hrun : world.perform (reclaimer.reclaim askOperator
      (.account account)) = (conclusion reports, after)) :
    world.reclaimEach reclaimer (account :: accounts) =
      ((account, conclusion reports) :: (after.reclaimEach reclaimer accounts).1,
        (after.reclaimEach reclaimer accounts).2) := by
  rw [World.reclaimEach, hrun]
  dsimp only
  rw [isAborted_conclusion, if_neg Bool.false_ne_true]

/-- An account that passes its checks, in a run of its own whose operator agrees. -/
theorem exists_perform_reclaim_account (hagreed : ∀ question, world.host.answer question = true)
    (h : IsPlannable reclaimer world p) :
    ∃ start, world.IsAlike start ∧ ∀ {all after},
      start.perform (reclaimer.reclaimAll [] [p]) = (all, after) →
      world.perform (reclaimer.reclaim askOperator (.account p.account)) =
        (all.bind conclusion, after) := by
  obtain ⟨mid, hplan⟩ := perform_plan_account h
  have hread := hasOnlyRead_of_perform (reclaimer.uses_plan (.account p.account)) hplan
  have hconfirm := mid.run_askOperator (reclaimer.question (.account p.account) [p])
  rw [hread.answer, hagreed] at hconfirm
  exact ⟨_, hread.isAlike.trans (mid.isAlike_asked _),
    fun hall => perform_reclaim_agreed hplan hconfirm hall⟩

/-- After the run of one account, the other accounts still pass their checks. -/
theorem isPlannable_of_own_run {start : World} {result : Except PoolError ReclaimOutcome}
    (hrun : world.perform (reclaimer.reclaim askOperator (.account p.account)) = (result, after))
    (hstart : world.IsAlike start) (htaken : HasTakenBack reclaimer [p.account] start after)
    (hother : q.account ≠ p.account) (h : IsPlannable reclaimer world q) :
    IsPlannable reclaimer after q := by
  have hcaller : after.cloud.identity.state = start.cloud.identity.state := by
    have hkept := caller_perform (reclaimer.reclaim askOperator (.account p.account)) world
    rw [hrun] at hkept
    exact hkept.trans hstart.cloud.identity.state.symm
  exact (h.of_isAlike hstart).of_hasTakenBack htaken hother hcaller

/-! ## Run by run -/

/-- What runs on single accounts amount to, after accounts that have their reports. -/
inductive AmountTo : List Report → List (String × Except PoolError ReclaimOutcome) →
    Except PoolError (List Report) → Prop
  | done (reports : List Report) : AmountTo reports [] (.ok reports)
  | aborted (reports : List Report) (account : String) (source : PoolError) :
      AmountTo reports [(account, .error (.reclaimAborted account source []))]
        (.error (.reclaimAborted account source reports))
  | concluded {reports : List Report} (account : String) {report : Report}
      {runs : List (String × Except PoolError ReclaimOutcome)}
      {all : Except PoolError (List Report)} (h : AmountTo (reports ++ [report]) runs all) :
      AmountTo reports ((account, conclusion [report]) :: runs) all

/-- The turns of a run amount to the runs on each account, in worlds that are alike. -/
theorem amountTo_of_perform_reclaimAll {batch single : World} (halike : batch.IsAlike single)
    (hnodup : (planned.map (·.account)).Nodup)
    (hplannable : ∀ p ∈ planned, IsPlannable reclaimer single p)
    (hagreed : ∀ question, single.host.answer question = true)
    (hall : batch.perform (reclaimer.reclaimAll done planned) = (all, after))
    (hruns : single.reclaimEach reclaimer (planned.map (·.account)) = (runs, last)) :
    AmountTo done runs all ∧ after.IsAlike last := by
  induction planned generalizing done batch single runs with
  | nil =>
    obtain ⟨rfl, rfl⟩ := Prod.mk.inj hall
    obtain ⟨rfl, rfl⟩ := Prod.mk.inj hruns
    exact ⟨.done done, halike⟩
  | cons p rest ih =>
    obtain ⟨hnew, hnodup⟩ := List.nodup_cons.1 hnodup
    have hp := hplannable p List.mem_cons_self
    obtain ⟨start, hstart, hown⟩ := exists_perform_reclaim_account hagreed hp
    rw [List.map_cons] at hruns
    cases hrelease : batch.perform (reclaimer.release p.account) with
    | mk result released =>
    -- the account is returned in its own run as it is in the run over all accounts
    obtain ⟨released', hrelease', hreleased⟩ := (halike.trans hstart).perform hrelease
    cases result with
    | error source =>
      rw [perform_reclaimAll_aborted hrelease] at hall
      rw [reclaimEach_aborted (hown (perform_reclaimAll_aborted hrelease'))] at hruns
      obtain ⟨rfl, rfl⟩ := Prod.mk.inj hall
      obtain ⟨rfl, rfl⟩ := Prod.mk.inj hruns
      exact ⟨.aborted done p.account source, hreleased⟩
    | ok session =>
      obtain ⟨rfl, hchanged⟩ := of_perform_release hp.reclaimable.isValid hrelease'
      obtain ⟨next', hreport', htaken⟩ := run_report hchanged
      obtain ⟨hreport, hnext⟩ := hreleased.run (reclaimer.report p (Cloud.sessionOf p.account))
      cases hcleared : released.run (reclaimer.report p (Cloud.sessionOf p.account)) with
      | mk report next =>
      rw [hreport', hcleared] at hreport hnext
      obtain rfl : reclaimer.reportOf start p = report := hreport
      rw [perform_reclaimAll_cons hrelease hcleared] at hall
      have hrun := hown ((perform_reclaimAll_cons hrelease' hreport').trans (perform_pure _ _))
      have hstill : ∀ q ∈ rest, IsPlannable reclaimer next' q := fun q hq =>
        isPlannable_of_own_run hrun hstart htaken (fun heq => hnew (List.mem_map.2 ⟨q, hq, heq⟩))
          (hplannable q (List.mem_cons_of_mem _ hq))
      have hanswer : next'.host.answer = single.host.answer := by
        have hkept := answer_perform (reclaimer.reclaim askOperator (.account p.account)) single
        rwa [hrun] at hkept
      rw [reclaimEach_concluded hrun] at hruns
      obtain ⟨rfl, rfl⟩ := Prod.mk.inj hruns
      obtain ⟨hamount, hlast⟩ := ih hnext hnodup hstill (hanswer ▸ hagreed) hall rfl
      exact ⟨.concluded p.account hamount, hlast⟩

/-! ### What runs amount to -/

theorem AmountTo.reportsOf (h : AmountTo done runs all) :
    Reclaimer.reportsOf (all.bind conclusion) = done ++ runs.flatMap (Reclaimer.reportsOf ·.2) := by
  induction h with
  | done reports => exact (reportsOf_conclusion reports).trans (List.append_nil _).symm
  | aborted reports account source => exact (List.append_nil _).symm
  | concluded account h ih =>
    rw [ih, List.flatMap_cons, reportsOf_conclusion, List.append_assoc]

theorem AmountTo.started (h : AmountTo done runs all) :
    isUnstarted (all.bind conclusion) = false ∧ ∀ run ∈ runs, isUnstarted run.2 = false := by
  induction h with
  | done reports =>
    exact ⟨isUnstarted_conclusion reports, fun run hrun => absurd hrun List.not_mem_nil⟩
  | aborted reports account source => exact ⟨rfl, List.forall_mem_singleton.2 rfl⟩
  | concluded account h ih => exact ⟨ih.1, List.forall_mem_cons.2 ⟨isUnstarted_conclusion _, ih.2⟩⟩

theorem conclusion_ne_aborted (reports others : List Report) (account : String)
    (source : PoolError) : conclusion reports ≠ .error (.reclaimAborted account source others) := by
  intro h
  have haborted := isAborted_conclusion reports
  rw [h] at haborted
  exact Bool.false_ne_true haborted.symm

/-- The run over all accounts is aborted as the run on the account is. -/
theorem AmountTo.aborted_iff (h : AmountTo done runs all) (account : String) (source : PoolError) :
    (∃ reports, all.bind conclusion = .error (.reclaimAborted account source reports)) ↔
      (account, .error (.reclaimAborted account source [])) ∈ runs := by
  induction h with
  | done reports => simp [Except.bind, conclusion_ne_aborted]
  | aborted reports account' source' => simp [Except.bind, eq_comm]
  | concluded account' h ih =>
    rw [ih, List.mem_cons]
    constructor
    · exact .inr
    · rintro (hown | hlater)
      · exact absurd (congrArg Prod.snd hown).symm (conclusion_ne_aborted _ _ _ _)
      · exact hlater

theorem AmountTo.own (h : AmountTo done runs all) :
    ∀ run ∈ runs, isAborted run.2 = true →
      ∃ source, run.2 = .error (.reclaimAborted run.1 source []) := by
  induction h with
  | done reports => exact fun run hrun => absurd hrun List.not_mem_nil
  | aborted reports account source => exact List.forall_mem_singleton.2 fun _ => ⟨source, rfl⟩
  | concluded account h ih =>
    refine List.forall_mem_cons.2 ⟨fun haborted => ?_, ih⟩
    rw [isAborted_conclusion] at haborted
    exact absurd haborted Bool.false_ne_true

theorem exists_conclusion_eq_completed_iff (reports : List Report) :
    (∃ others, conclusion reports = .ok (.completed others)) ↔
    reports.all Report.isClean = true := by
  unfold conclusion
  split <;> simp [*]

/-- The run over all accounts completes as the runs on all accounts do. -/
theorem AmountTo.completed_iff (h : AmountTo done runs all) :
    (∃ reports, all.bind conclusion = .ok (.completed reports)) ↔
      done.all Report.isClean = true ∧ ∀ run ∈ runs, ∃ reports,
        run.2 = .ok (.completed reports) := by
  induction h with
  | done reports => simpa [Except.bind] using exists_conclusion_eq_completed_iff reports
  | aborted reports account source => simp [Except.bind]
  | concluded account h ih =>
    rw [ih, List.forall_mem_cons, exists_conclusion_eq_completed_iff, List.all_append,
      Bool.and_eq_true, and_assoc]

end Reclaimer

/-! ## Whole runs -/

/-- How a run over several accounts ends, by the runs on each of them. -/
structure IsBatchOf (runs : List (String × Except PoolError ReclaimOutcome))
    (result : Except PoolError ReclaimOutcome) : Prop where
  /-- None of the runs fails before it has started, or is declined. -/
  started : isUnstarted result = false ∧ ∀ run ∈ runs, isUnstarted run.2 = false
  reports : Reclaimer.reportsOf result = runs.flatMap (Reclaimer.reportsOf ·.2)
  /-- A run on one account is aborted at that account, and without a report. -/
  own : ∀ run ∈ runs, isAborted run.2 = true →
    ∃ source, run.2 = .error (.reclaimAborted run.1 source [])
  aborted : ∀ account source,
    (∃ reports, result = .error (.reclaimAborted account source reports)) ↔
    (account, .error (.reclaimAborted account source [])) ∈ runs
  completed : (∃ reports, result = .ok (.completed reports)) ↔
    ∀ run ∈ runs, ∃ reports, run.2 = .ok (.completed reports)

end Lending

/-- A plan is made and its run is agreed to.  Runs on the accounts of the plan, one after the other
and each with its own checks, until one is aborted, leave a world that no program can tell from the
one that the run over all accounts leaves: the organization and the IAM of every account are the
same.  The run over all accounts has the reports of the runs on each of them, one after the other.
It is aborted at an account just when the run on that account is, and by the same failure, and it
completes just when they all do. -/
theorem World.reclaim_batch {world mid after last : World} {reclaimer : Reclaimer}
    {target : ReclaimTarget} {planned : List Planned} {result : Except PoolError ReclaimOutcome}
    {runs : List (String × Except PoolError ReclaimOutcome)}
    (hagreed : ∀ question, world.host.answer question = true)
    (hplan : world.perform (reclaimer.plan target) = (.ok planned, mid))
    (hrun : world.perform (reclaimer.reclaim askOperator target) = (result, after))
    (hruns : world.reclaimEach reclaimer (planned.map (·.account)) = (runs, last)) :
    after.IsAlike last ∧ IsBatchOf runs result := by
  have hread := hasOnlyRead_of_perform (reclaimer.uses_plan target) hplan
  have hstart := hread.isAlike.trans (mid.isAlike_asked (reclaimer.question target planned))
  have hconfirm := mid.run_askOperator (reclaimer.question target planned)
  rw [hread.answer, hagreed] at hconfirm
  cases hall : (mid.asked (reclaimer.question target planned)).perform
    (reclaimer.reclaimAll [] planned) with
  | mk all finished =>
  obtain ⟨rfl, rfl⟩ :=
    Prod.mk.inj (hrun.symm.trans (Reclaimer.perform_reclaim_agreed hplan hconfirm hall))
  obtain ⟨hnodup, -⟩ := Reclaimer.planned_of_perform_plan hplan
  obtain ⟨hamount, halike⟩ := Reclaimer.amountTo_of_perform_reclaimAll hstart.symm hnodup
    (Reclaimer.isPlannable_of_perform_plan hplan) hagreed hall hruns
  exact ⟨halike, hamount.started, hamount.reportsOf, hamount.own, hamount.aborted_iff,
    by simpa using hamount.completed_iff⟩

/-- The session in the second account is refused.  The run on the first account leaves an access
key, the run on the second one is aborted, and so is the run over both. -/
theorem reclaim_batch_crew : ∃ result after runs last,
    (crewWorld true).perform (lentReclaimer.reclaim askOperator (.user "alice")) = (result, after) ∧
      (crewWorld true).reclaimEach lentReclaimer (crewPlan.map (·.account)) = (runs, last) ∧
      after.IsAlike last ∧ Reclaimer.reportsOf result = runs.flatMap (Reclaimer.reportsOf ·.2) ∧
      ∃ source, ("222222222222", .error (.reclaimAborted "222222222222" source [])) ∈ runs := by
  obtain ⟨mid, hplan⟩ := exists_plan_crew true
  have hagreed : ∀ question, (crewWorld true).host.answer question = true := fun _ => rfl
  have hstopped :
      stoppedAt? ((crewWorld true).perform (lentReclaimer.reclaim askOperator (.user "alice"))).1 =
      some ("222222222222", [2]) := by
    decide +kernel
  obtain ⟨source, reports, haborted, -⟩ := exists_of_stoppedAt? hstopped
  obtain ⟨halike, hbatch⟩ := World.reclaim_batch hagreed hplan Prod.mk.eta.symm Prod.mk.eta.symm
  exact ⟨_, _, _, _, Prod.mk.eta.symm, Prod.mk.eta.symm, halike, hbatch.reports, source,
    (hbatch.aborted _ source).1 ⟨reports, haborted⟩⟩

end AccountLending
