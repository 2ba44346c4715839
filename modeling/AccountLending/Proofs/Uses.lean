import AccountLending.Engine

/-!
# Which calls a program uses

A program uses only some calls when every call that it makes is one of them, whatever the replies.
What those calls do decides what the program can do.

* `Program.Uses.run_project` — the program runs in a part of a state as it runs in that part alone;
* `Program.Uses.run_keeps` — what each of the calls keeps, the program keeps;
* `Program.trace` — the calls of one run;
* `Program.moments` — the same calls with the states in which they are made.
-/

namespace AccountLending

namespace Program

variable {Op : Type} {Reply : Op → Type} {α β σ τ : Type} {allowed : Op → Prop}

/-- Every call that a program makes is allowed, whatever the replies. -/
def Uses (allowed : Op → Prop) : Program Op Reply α → Prop
  | .done _ => True
  | .call op next => allowed op ∧ ∀ reply, (next reply).Uses allowed

theorem Uses.bind {p : Program Op Reply α} {f : α → Program Op Reply β} (hp : p.Uses allowed)
    (hf : ∀ a, (f a).Uses allowed) : (p.bind f).Uses allowed := by
  induction p with
  | done a => exact hf a
  | call op next ih => exact ⟨hp.1, fun reply => ih reply (hp.2 reply)⟩

/-- A sequence that a failure ends uses only what its parts use. -/
theorem Uses.bind_except {ε : Type} {p : ExceptT ε (Program Op Reply) α}
    {f : α → ExceptT ε (Program Op Reply) β} (hp : p.run.Uses allowed)
    (hf : ∀ a, (f a).run.Uses allowed) : (p >>= f).run.Uses allowed := by
  apply Program.Uses.bind hp
  intro result
  cases result with
  | ok a => exact hf a
  | error e => trivial

theorem Uses.mono {allowed' : Op → Prop} {p : Program Op Reply α} (hp : p.Uses allowed)
    (h : ∀ op, allowed op → allowed' op) : p.Uses allowed' := by
  induction p with
  | done a => trivial
  | call op next ih => exact ⟨h op hp.1, fun reply => ih reply (hp.2 reply)⟩

theorem uses_any (p : Program Op Reply α) : p.Uses fun _ => True := by
  induction p with
  | done a => trivial
  | call op next ih => exact ⟨trivial, ih⟩

theorem Uses.run_project {p : Program Op Reply α} (hp : p.Uses allowed)
    (handle : (op : Op) → σ → Reply op × σ) (part : (op : Op) → τ → Reply op × τ)
    (project : σ → τ) (hproject : ∀ op s, allowed op →
      (handle op s).1 = (part op (project s)).1 ∧ project (handle op s).2 = (part op (project s)).2)
    (s : σ) :
    (p.run handle s).1 = (p.run part (project s)).1 ∧
      project (p.run handle s).2 = (p.run part (project s)).2 := by
  induction p generalizing s with
  | done a => exact ⟨rfl, rfl⟩
  | call op next ih =>
    obtain ⟨hreply, hstate⟩ := hproject op s hp.1
    rw [run_call, run_call, ← hreply, ← hstate]
    exact ih _ (hp.2 _) _

theorem Uses.run_keeps {p : Program Op Reply α} (hp : p.Uses allowed)
    {handle : (op : Op) → σ → Reply op × σ} {holds : σ → Prop}
    (hkeeps : ∀ op s, allowed op → holds s → holds (handle op s).2) {s : σ} (hs : holds s) :
    holds (p.run handle s).2 := by
  induction p generalizing s with
  | done a => exact hs
  | call op next ih => exact ih _ (hp.2 _) (hkeeps op s hp.1 hs)

/-! ## The calls of one run -/

/-- The calls that a program makes in one run, the first one first. -/
def trace (handle : (op : Op) → σ → Reply op × σ) : Program Op Reply α → σ → List Op
  | .done _, _ => []
  | .call op next, s => op :: (next (handle op s).1).trace handle (handle op s).2

theorem trace_bind (handle : (op : Op) → σ → Reply op × σ) (p : Program Op Reply α)
    (f : α → Program Op Reply β) (s : σ) :
    (p.bind f).trace handle s =
      p.trace handle s ++ (f (p.run handle s).1).trace handle (p.run handle s).2 := by
  induction p generalizing s with
  | done a => rfl
  | call op next ih =>
    show op :: ((next _).bind f).trace handle _ = op :: (next _).trace handle _ ++ _
    rw [ih]
    rfl

theorem Uses.mem_trace {p : Program Op Reply α} (hp : p.Uses allowed)
    {handle : (op : Op) → σ → Reply op × σ} {s : σ} {op : Op} (hop : op ∈ p.trace handle s) :
    allowed op := by
  induction p generalizing s with
  | done a => simp [trace] at hop
  | call first next ih =>
    rcases List.mem_cons.1 hop with rfl | hop
    · exact hp.1
    · exact ih _ (hp.2 _) hop

/-- What each of the calls of one run keeps, that run keeps. -/
theorem run_keeps_of_trace {handle : (op : Op) → σ → Reply op × σ} {holds : σ → Prop}
    (hkeeps : ∀ op s, allowed op → holds s → holds (handle op s).2) {p : Program Op Reply α} {s : σ}
    (h : ∀ op ∈ p.trace handle s, allowed op) (hs : holds s) : holds (p.run handle s).2 := by
  induction p generalizing s with
  | done a => exact hs
  | call op next ih =>
    obtain ⟨hop, hrest⟩ := List.forall_mem_cons.1 h
    exact ih _ hrest (hkeeps op s hop hs)

/-- The calls that a program makes in one run, each with the state in which it is made. -/
def moments (handle : (op : Op) → σ → Reply op × σ) : Program Op Reply α → σ → List (Op × σ)
  | .done _, _ => []
  | .call op next, s => (op, s) :: (next (handle op s).1).moments handle (handle op s).2

theorem map_fst_moments (handle : (op : Op) → σ → Reply op × σ) (p : Program Op Reply α) (s : σ) :
    (p.moments handle s).map Prod.fst = p.trace handle s := by
  induction p generalizing s with
  | done a => rfl
  | call op next ih => exact congrArg (op :: ·) (ih _ _)

theorem moments_bind (handle : (op : Op) → σ → Reply op × σ) (p : Program Op Reply α)
    (f : α → Program Op Reply β) (s : σ) :
    (p.bind f).moments handle s =
      p.moments handle s ++ (f (p.run handle s).1).moments handle (p.run handle s).2 := by
  induction p generalizing s with
  | done a => rfl
  | call op next ih => exact congrArg ((op, s) :: ·) (ih _ _)

/-- What each of the calls keeps is so whenever one of them is made. -/
theorem Uses.of_mem_moments {p : Program Op Reply α} (hp : p.Uses allowed)
    {handle : (op : Op) → σ → Reply op × σ} {holds : σ → Prop}
    (hkeeps : ∀ op s, allowed op → holds s → holds (handle op s).2) {s : σ} (hs : holds s)
    {moment : Op × σ} (h : moment ∈ p.moments handle s) : allowed moment.1 ∧ holds moment.2 := by
  induction p generalizing s with
  | done a => simp [moments] at h
  | call op next ih =>
    rcases List.mem_cons.1 h with rfl | h
    · exact ⟨hp.1, hs⟩
    · exact ih _ (hp.2 _) (hkeeps op s hp.1 hs) h

end Program

namespace Action

variable {α β : Type} {allowed : Call → Prop}

/-- Every call that an action makes is allowed, whatever the replies. -/
def Uses (allowed : Call → Prop) (action : Action α) : Prop := action.run.Uses allowed

theorem uses_pure (a : α) : (pure a : Action α).Uses allowed := trivial

theorem uses_any (action : Action α) : action.Uses fun _ => True := Program.uses_any action.run

theorem Uses.bind {action : Action α} {f : α → Action β} (haction : action.Uses allowed)
    (hf : ∀ a, (f a).Uses allowed) : (action >>= f).Uses allowed :=
  Program.Uses.bind_except haction hf

theorem Uses.mono {allowed' : Call → Prop} {action : Action α} (haction : action.Uses allowed)
    (h : ∀ call, allowed call → allowed' call) : action.Uses allowed' :=
  Program.Uses.mono haction h

theorem uses_cloud {request : Cloud.Request} (h : allowed (.cloud request)) :
    (cloud request).Uses allowed :=
  ⟨h, fun _ => trivial⟩

theorem uses_lift {program : Engine α} (h : program.Uses allowed) :
    (liftM program : Action α).Uses allowed :=
  Program.Uses.bind h fun _ => trivial

end Action

end AccountLending
