import AccountLending.Proofs.Reclamation.Planning

/-!
# Nothing happens before the operator agrees

A reclamation that ends in a failure of finding and checking, or because the operator said no, has
changed nothing: all that it asked of the cloud was to be read.  Which of its parts a reclamation
ended in can be told from how it ended.

* `Reclaimer.perform_reclaim_agreed`, `Reclaimer.perform_reclaim_declined` — the run by its parts;
* `isUnstarted` — the ways to end without having started;
* `World.reclaim_unstarted` — what such a reclamation called and left.
-/

namespace AccountLending

namespace Lending

namespace Reclaimer

variable {reclaimer : Reclaimer} {confirm : String → Engine Bool} {target : ReclaimTarget}
variable {planned : List Planned} {world mid after : World}

/-! ## A run by its parts -/

theorem perform_reclaim_failed {e : PoolError}
    (hplan : world.perform (reclaimer.plan target) = (.error e, mid)) :
    world.perform (reclaimer.reclaim confirm target) = (.error e, mid) :=
  World.perform_bind_error hplan _

theorem calls_reclaim_failed {e : PoolError}
    (hplan : world.perform (reclaimer.plan target) = (.error e, mid)) :
    world.calls (reclaimer.reclaim confirm target) = world.calls (reclaimer.plan target) :=
  World.calls_bind_error hplan _

theorem perform_question {answer : Bool}
    (hconfirm : mid.run (confirm (reclaimer.question target planned)) = (answer, after)) :
    mid.perform (liftM (confirm (reclaimer.question target planned)) : Action Bool) =
      (.ok answer, after) := by
  rw [World.perform_lift, hconfirm]

/-- The line for the log when the operator says no. -/
def declinedLine (target : ReclaimTarget) : Log.Line :=
  ⟨.info, "Reclamation of " ++ target.words ++ " declined"⟩

/-- The operator says no. -/
theorem perform_reclaim_declined
    (hplan : world.perform (reclaimer.plan target) = (.ok planned, mid))
    (hconfirm : mid.run (confirm (reclaimer.question target planned)) = (false, after)) :
    world.perform (reclaimer.reclaim confirm target) =
      (.ok .declined, after.logged [declinedLine target]) := by
  apply (World.perform_bind_ok hplan _).trans
  exact World.perform_bind_ok (perform_question hconfirm) _

theorem calls_reclaim_declined (hplan : world.perform (reclaimer.plan target) = (.ok planned, mid))
    (hconfirm : mid.run (confirm (reclaimer.question target planned)) = (false, after)) :
    world.calls (reclaimer.reclaim confirm target) = world.calls (reclaimer.plan target)
      ++ mid.calls (liftM (confirm (reclaimer.question target planned)) : Action Bool)
      ++ [.host (.log (declinedLine target))] := by
  apply (World.calls_bind_ok hplan _).trans
  rw [List.append_assoc]
  exact congrArg (_ ++ ·) (World.calls_bind_ok (perform_question hconfirm) _)

/-- What a reclamation ends with when all accounts have been released. -/
def conclusion (reports : List Report) : Except PoolError ReclaimOutcome :=
  if reports.all Report.isClean then .ok (.completed reports)
  else .error (.teardownIncomplete reports)

/-- The operator says yes. -/
theorem perform_reclaim_agreed {asked : World} {result : Except PoolError (List Report)}
    (hplan : world.perform (reclaimer.plan target) = (.ok planned, mid))
    (hconfirm : mid.run (confirm (reclaimer.question target planned)) = (true, asked))
    (hall : asked.perform (reclaimer.reclaimAll [] planned) = (result, after)) :
    world.perform (reclaimer.reclaim confirm target) = (result.bind conclusion, after) := by
  apply (World.perform_bind_ok hplan _).trans
  apply (World.perform_bind_ok (perform_question hconfirm) _).trans
  cases result with
  | error e => exact World.perform_bind_error hall _
  | ok reports =>
    apply (World.perform_bind_ok hall _).trans
    unfold conclusion
    dsimp only [Except.bind]
    split <;> rfl

theorem calls_reclaim_agreed {asked : World}
    (hplan : world.perform (reclaimer.plan target) = (.ok planned, mid))
    (hconfirm : mid.run (confirm (reclaimer.question target planned)) = (true, asked)) :
    world.calls (reclaimer.reclaim confirm target) = world.calls (reclaimer.plan target)
      ++ mid.calls (liftM (confirm (reclaimer.question target planned)) : Action Bool)
      ++ asked.calls (reclaimer.reclaimAll [] planned) := by
  apply (World.calls_bind_ok hplan _).trans
  rw [List.append_assoc]
  apply congrArg (_ ++ ·)
  apply (World.calls_bind_ok (perform_question hconfirm) _).trans
  apply congrArg (_ ++ ·)
  -- the conclusion is drawn without a call
  rw [if_pos rfl, World.calls_bind]
  split
  · split <;> exact List.append_nil _
  · exact List.append_nil _

theorem mem_calls_reclaim_agreed {asked : World} {call : Call}
    (hplan : world.perform (reclaimer.plan target) = (.ok planned, mid))
    (hconfirm : mid.run (confirm (reclaimer.question target planned)) = (true, asked))
    (h : call ∈ asked.calls (reclaimer.reclaimAll [] planned)) :
    call ∈ world.calls (reclaimer.reclaim confirm target) := by
  rw [calls_reclaim_agreed hplan hconfirm]
  exact List.mem_append_right _ h

/-- Releasing accounts one after the other only fails by being aborted. -/
theorem error_of_perform_reclaimAll {done : List Report} {e : PoolError}
    (h : world.perform (reclaimer.reclaimAll done planned) = (.error e, after)) :
    ∃ account source reports, e = .reclaimAborted account source reports := by
  induction planned generalizing done world with
  | nil => simp [reclaimAll, World.perform_pure] at h
  | cons p rest ih =>
    rw [reclaimAll, World.perform_bind_ok (World.perform_result _ _)] at h
    cases hrelease : (world.perform (reclaimer.release p.account)).1 with
    | error source =>
      rw [hrelease] at h
      exact ⟨_, _, _, (Except.error.inj (congrArg Prod.fst h)).symm⟩
    | ok session =>
      rw [hrelease] at h
      dsimp only at h
      rw [World.perform_bind_ok (World.perform_lift _ _)] at h
      exact ih h

end Reclaimer

/-! ## Reclamations that do not start -/

/-- A reclamation that has not started: it failed before the operator was asked, or the operator
said no. -/
def isUnstarted : Except PoolError ReclaimOutcome → Bool
  | .error (.reclaimAborted ..) | .error (.teardownIncomplete _) => false
  | .error _ => true
  | .ok .declined => true
  | .ok (.completed _) => false

theorem isUnstarted_conclusion (reports : List Report) :
    isUnstarted (Reclaimer.conclusion reports) = false := by
  unfold Reclaimer.conclusion
  split <;> rfl

/-- Ask the operator of the host. -/
def askOperator (question : String) : Engine Bool := Engine.host (.confirm question)

end Lending

open Lending

/-- A world after a question was put to its operator. -/
def World.asked (world : World) (question : String) : World :=
  { world with host := { world.host with questions := world.host.questions ++ [question] } }

theorem World.run_askOperator (world : World) (question : String) :
    world.run (askOperator question) = (world.host.answer question, world.asked question) := rfl

/-- A reclamation that ends in a failure other than being aborted or left incomplete, or because the
operator said no, makes only calls that read and write the log, and puts at most one question.  The
cloud is what it was, and only a reclamation that is declined has put its question. -/
theorem World.reclaim_unstarted (world : World) (reclaimer : Reclaimer) (target : ReclaimTarget)
    (h : isUnstarted (world.perform (reclaimer.reclaim askOperator target)).1 = true) :
    let (result, after) := world.perform (reclaimer.reclaim askOperator target)
    ∃ reads asked others,
      world.calls (reclaimer.reclaim askOperator target) =
        reads ++ asked.map (fun question => .host (.confirm question)) ++ others ∧
      (∀ call ∈ reads ++ others, IsReading call) ∧
      after.host.questions = world.host.questions ++ asked ∧
      world.cloud.HasOnlyRead after.cloud ∧
      match result with
      | .error _ => asked = []
      | .ok _ => ∃ planned, (world.perform (reclaimer.plan target)).1 = .ok planned ∧
          asked = [reclaimer.question target planned] := by
  cases hplan : world.perform (reclaimer.plan target) with
  | mk found mid =>
  have hreads : ∀ call ∈ world.calls (reclaimer.plan target), IsReading call :=
    fun call hcall => (reclaimer.uses_plan target).mem_trace hcall
  have hread := hasOnlyRead_of_perform (reclaimer.uses_plan target) hplan
  cases found with
  | error e =>
    rw [Reclaimer.perform_reclaim_failed hplan, Reclaimer.calls_reclaim_failed hplan]
    refine ⟨world.calls (reclaimer.plan target), [], [], ?_, ?_, ?_, hread.cloud, rfl⟩
    · rw [List.map_nil, List.append_nil, List.append_nil]
    · rwa [List.append_nil]
    · rw [List.append_nil]
      exact hread.questions
  | ok planned =>
    have hconfirm := mid.run_askOperator (reclaimer.question target planned)
    cases hanswer : mid.host.answer (reclaimer.question target planned) with
    | true =>
      -- the operator agreed, so the reclamation did start
      rw [hanswer] at hconfirm
      cases hall : (mid.asked _).perform (reclaimer.reclaimAll [] planned) with
      | mk result after =>
      rw [Reclaimer.perform_reclaim_agreed hplan hconfirm hall] at h
      cases result with
      | error e =>
        obtain ⟨account, source, reports, rfl⟩ := Reclaimer.error_of_perform_reclaimAll hall
        exact absurd h Bool.false_ne_true
      | ok reports =>
        have hstarted := isUnstarted_conclusion reports
        exact absurd (h.symm.trans hstarted) Bool.false_ne_true.symm
    | false =>
      rw [hanswer] at hconfirm
      rw [Reclaimer.perform_reclaim_declined hplan hconfirm,
        Reclaimer.calls_reclaim_declined hplan hconfirm]
      refine ⟨world.calls (reclaimer.plan target), [reclaimer.question target planned],
        [.host (.log (Reclaimer.declinedLine target))], rfl, ?_, ?_, hread.cloud, planned, rfl, rfl⟩
      · intro call hcall
        rcases List.mem_append.1 hcall with hcall | hcall
        · exact hreads call hcall
        · rw [List.mem_singleton.1 hcall]
          trivial
      · rw [← hread.questions]
        rfl

/-- A world with one account, which is lent, and an operator who says no to everything. -/
def reluctantWorld : World where
  cloud := (Cloud.ofCaller (.ok "999999999999")).changeOrganization (·.addMember
    ⟨{ id := "111122223333", status := .active }, "ou-lent", Tags.ofClaim "alice" "token"⟩)
  host := { answer := fun _ => false }

theorem reclaim_unstarted_reluctant :
    let reclaim := Reclaimer.reclaim ⟨{ root := "r-pool", claimed := "ou-lent" }, {}⟩ askOperator
      (.account "111122223333")
    let after := (reluctantWorld.perform reclaim).2
    reluctantWorld.cloud.HasOnlyRead after.cloud ∧ after.host.questions.length ≤ 1 := by
  intro reclaim after
  obtain ⟨reads, asked, others, -, -, hquestions, hread, hasked⟩ :=
    reluctantWorld.reclaim_unstarted ⟨{ root := "r-pool", claimed := "ou-lent" }, {}⟩
      (.account "111122223333") (by decide +kernel)
  refine ⟨hread, ?_⟩
  rw [show after.host.questions = [] ++ asked from hquestions]
  split at hasked
  · simp [hasked]
  · obtain ⟨planned, -, rfl⟩ := hasked
    simp

end AccountLending
