import AccountLending.Proofs.Uses
import AccountLending.World

/-!
# Running actions in a world

What it comes to, in a world, to run the parts of an action one after the other.

* `World.perform_bind` — a failure ends a sequence, and what was done before it stays done;
* `World.logged` — a world with more lines in the log;
* `World.calls` — the calls that an action makes;
* `World.moments` — the same calls with the worlds in which they are made;
* `World.caller_perform`, `World.answer_perform` — what no action changes.
-/

namespace AccountLending

namespace World

variable {α β : Type}

/-- A world with more lines in its log. -/
def logged (world : World) (lines : List Log.Line) : World :=
  { world with host := { world.host with log := world.host.log ++ lines } }

theorem perform_bind (action : Action α) (f : α → Action β) (world : World) :
    world.perform (action >>= f) = match (world.perform action).1 with
      | .ok a => (world.perform action).2.perform (f a)
      | .error e => (.error e, (world.perform action).2) := by
  have hrun := Program.run_bind serve action.run (ExceptT.bindCont f) world
  apply hrun.trans
  show (ExceptT.bindCont f (world.perform action).1).run serve (world.perform action).2 = _
  cases (world.perform action).1 <;> rfl

theorem perform_pure (a : α) (world : World) : world.perform (pure a) = (.ok a, world) := rfl

theorem perform_throw (e : PoolError) (world : World) :
    world.perform (throw e : Action α) = (.error e, world) := rfl

theorem eq_of_perform_pure {a b : α} {world after : World}
    (h : world.perform (pure a) = (.ok b, after)) : a = b ∧ world = after := by
  rw [perform_pure] at h
  simpa using h

theorem perform_throw_ne_ok {e : PoolError} {a : α} {world after : World} :
    world.perform (throw e : Action α) ≠ (.ok a, after) := by
  rw [perform_throw]
  simp

/-- A part that succeeds hands its value on. -/
theorem perform_bind_ok {action : Action α} {a : α} {world mid : World}
    (h : world.perform action = (.ok a, mid)) (f : α → Action β) :
    world.perform (action >>= f) = mid.perform (f a) := by
  rw [perform_bind, h]

/-- A part that fails ends the sequence. -/
theorem perform_bind_error {action : Action α} {e : PoolError} {world mid : World}
    (h : world.perform action = (.error e, mid)) (f : α → Action β) :
    world.perform (action >>= f) = (.error e, mid) := by
  rw [perform_bind, h]

/-- A sequence that succeeds is one whose parts do. -/
theorem exists_of_perform_bind {action : Action α} {f : α → Action β} {b : β} {world after : World}
    (h : world.perform (action >>= f) = (.ok b, after)) :
    ∃ a mid, world.perform action = (.ok a, mid) ∧ mid.perform (f a) = (.ok b, after) := by
  rw [perform_bind] at h
  cases hresult : (world.perform action).1 with
  | ok a =>
    rw [hresult] at h
    exact ⟨a, _, Prod.ext hresult rfl, h⟩
  | error e =>
    rw [hresult] at h
    simp at h

theorem exists_of_toOption {action : Action α} {a : α} {world : World}
    (h : (world.perform action).1.toOption = some a) :
    ∃ after, world.perform action = (.ok a, after) := by
  cases hperform : world.perform action with
  | mk result after =>
  rw [hperform] at h
  cases result with
  | error e => simp [Except.toOption] at h
  | ok b =>
    obtain rfl : b = a := Option.some.inj h
    exact ⟨after, rfl⟩

theorem perform_result (action : Action α) (world : World) :
    world.perform action.result = (.ok (world.perform action).1, (world.perform action).2) := by
  have hrun := Program.run_bind serve action.run (fun result =>
    (.done (.ok result) : Program Call Call.Reply (Except PoolError (Except PoolError α)))) world
  exact hrun

theorem perform_lift (program : Engine α) (world : World) :
    world.perform (liftM program : Action α) =
      (.ok (world.run program).1, (world.run program).2) := by
  have hrun := Program.run_bind serve program (fun a =>
    (.done (.ok a) : Program Call Call.Reply (Except PoolError α))) world
  exact hrun

theorem perform_cloud (request : Cloud.Request) (world : World) :
    world.perform (Action.cloud request) =
      ((Cloud.serve request world.cloud).1.mapError PoolError.service,
        { world with cloud := (Cloud.serve request world.cloud).2 }) := rfl

/-- What each call of an action keeps, the action keeps. -/
theorem perform_keeps {allowed : Call → Prop} {action : Action α} (h : action.Uses allowed)
    {holds : World → Prop}
    (hkeeps : ∀ call world, allowed call → holds world → holds (serve call world).2)
    {world : World} (hworld : holds world) : holds (world.perform action).2 :=
  Program.Uses.run_keeps h hkeeps hworld

/-! ## The calls of an action -/

/-- The calls that an action makes, the first one first. -/
def calls (world : World) (action : Action α) : List Call := action.run.trace serve world

theorem calls_bind (action : Action α) (f : α → Action β) (world : World) :
    world.calls (action >>= f) = world.calls action ++ match (world.perform action).1 with
      | .ok a => (world.perform action).2.calls (f a)
      | .error _ => [] := by
  apply (Program.trace_bind serve action.run (ExceptT.bindCont f) world).trans
  show _ ++ (ExceptT.bindCont f (world.perform action).1).trace serve (world.perform action).2 = _
  cases (world.perform action).1 <;> rfl

theorem calls_bind_ok {action : Action α} {a : α} {world mid : World}
    (h : world.perform action = (.ok a, mid)) (f : α → Action β) :
    world.calls (action >>= f) = world.calls action ++ mid.calls (f a) := by
  rw [calls_bind, h]

theorem calls_bind_error {action : Action α} {e : PoolError} {world mid : World}
    (h : world.perform action = (.error e, mid)) (f : α → Action β) :
    world.calls (action >>= f) = world.calls action := by
  rw [calls_bind, h, List.append_nil]

theorem calls_lift (program : Engine α) (world : World) :
    world.calls (liftM program : Action α) = program.trace serve world := by
  have htrace := Program.trace_bind serve program (fun a =>
    (.done (.ok a) : Program Call Call.Reply (Except PoolError α))) world
  exact htrace.trans (List.append_nil _)

theorem calls_result (action : Action α) (world : World) :
    world.calls action.result = world.calls action := by
  have htrace := Program.trace_bind serve action.run (fun result =>
    (.done (.ok result) : Program Call Call.Reply (Except PoolError (Except PoolError α)))) world
  exact htrace.trans (List.append_nil _)

/-! ## The worlds in which calls are made -/

/-- The calls that an action makes, each with the world in which it is made. -/
def moments (world : World) (action : Action α) : List (Call × World) :=
  action.run.moments serve world

theorem mem_calls_iff {action : Action α} {world : World} {call : Call} :
    call ∈ world.calls action ↔ ∃ now, (call, now) ∈ world.moments action := by
  rw [calls, ← Program.map_fst_moments, moments, List.mem_map]
  constructor
  · rintro ⟨⟨_, now⟩, h, rfl⟩
    exact ⟨now, h⟩
  · rintro ⟨now, h⟩
    exact ⟨(call, now), h, rfl⟩

/-- A call of a sequence is one of its first part, or of what that part goes on with. -/
theorem mem_moments_bind {action : Action α} {f : α → Action β} {world : World}
    {moment : Call × World} :
    moment ∈ world.moments (action >>= f) ↔ moment ∈ world.moments action ∨
      ∃ a mid, world.perform action = (.ok a, mid) ∧ moment ∈ mid.moments (f a) := by
  have hmoments := Program.moments_bind serve action.run (ExceptT.bindCont f) world
  have hmem : moment ∈ world.moments (action >>= f) ↔ moment ∈ world.moments action ∨
      moment ∈ (ExceptT.bindCont f (world.perform action).1).moments serve
        (world.perform action).2 := by
    rw [moments, ← List.mem_append]
    exact iff_of_eq (congrArg (moment ∈ ·) hmoments)
  rw [hmem]
  cases hperform : world.perform action with
  | mk result mid =>
  cases result with
  | ok a =>
    apply or_congr_right
    constructor
    · exact fun h => ⟨a, mid, rfl, h⟩
    · rintro ⟨_, _, heq, h⟩
      obtain ⟨ha, rfl⟩ := Prod.mk.inj heq
      rw [Except.ok.inj ha]
      exact h
  | error e => simp [ExceptT.bindCont, Program.moments]

theorem moments_lift (program : Engine α) (world : World) :
    world.moments (liftM program : Action α) = program.moments serve world := by
  have hmoments := Program.moments_bind serve program (fun a =>
    (.done (.ok a) : Program Call Call.Reply (Except PoolError α))) world
  exact hmoments.trans (List.append_nil _)

theorem moments_result (action : Action α) (world : World) :
    world.moments action.result = world.moments action := by
  have hmoments := Program.moments_bind serve action.run (fun result =>
    (.done (.ok result) : Program Call Call.Reply (Except PoolError (Except PoolError α)))) world
  exact hmoments.trans (List.append_nil _)

/-! ## What no call changes -/

/-- No call changes whose credentials the caller has. -/
theorem caller_serve (call : Call) (world : World) :
    (World.serve call world).2.cloud.identity.state = world.cloud.identity.state := by
  match call with
  | .cloud (.organization _) | .cloud (.identity .caller) | .cloud (.iam ..) | .host _ => rfl
  | .cloud (.identity (.assumeRole arn name _)) =>
    show (world.cloud.assumeRole arn name).2.identity.state = _
    unfold Cloud.assumeRole
    split
    · rfl
    · dsimp only
      split <;> rfl

/-- No call changes what the operator answers to questions. -/
theorem answer_serve (call : Call) (world : World) :
    (World.serve call world).2.host.answer = world.host.answer := by
  match call with
  | .cloud _ => rfl
  | .host (.log _) | .host .freshToken | .host .now | .host (.pause _) | .host (.confirm _)
  | .host (.print _)
  | .host (.say _) | .host .isInteractive | .host (.readFile _) => rfl
  | .host .readLine =>
    show (Host.serve .readLine world.host).2.answer = _
    rw [Host.serve]
    split <;> rfl
  | .host (.connect payer) =>
    show (Host.serve (.connect payer) world.host).2.answer = _
    rw [Host.serve]
    split <;> rfl

theorem caller_perform (action : Action α) (world : World) :
    (world.perform action).2.cloud.identity.state = world.cloud.identity.state :=
  perform_keeps (Action.uses_any action)
    (fun call now _ (hnow : now.cloud.identity.state = world.cloud.identity.state) =>
      (caller_serve call now).trans hnow) rfl

theorem answer_perform (action : Action α) (world : World) :
    (world.perform action).2.host.answer = world.host.answer :=
  perform_keeps (Action.uses_any action)
    (fun call now _ (hnow : now.host.answer = world.host.answer) =>
    (answer_serve call now).trans hnow) rfl

end World

end AccountLending
