import AccountLending.Proofs.Uses

/-!
# Programs that follow a protocol

A protocol says which calls can be made at a place and where each reply leads: it is a relation
`moves place op reply place'`.  A program follows a protocol when every call that it makes, after
whatever replies, is a move from the place reached so far, and when it ends only at places that fit
its value.  Nothing is assumed about the replies, so a protocol that a program follows is kept under
any interference.

* `Program.follows_bind` — a sequence of programs follows a protocol part by part;
* `Program.Follows.invariant` — an invariant of the calls so far, the surroundings and the place,
  kept by every move as it is answered, holds at the end of a run;
* `Program.Follows.exchanges` — the same of the calls and the place alone, whatever surroundings
  reply;
* `Program.Follows.keeps` — the same of the surroundings and the place alone;
* `Program.exchanges_bind`, `Action.exchanges_bind` — the exchanges of a sequence are those of its
  parts;
* `Program.Uses.mem_exchanges` — the calls of the exchanges are those that the program may use;
* `Action.follows_bind` — a sequence of actions follows a protocol part by part, and a failure ends
  it;
* `Action.FailsWith` — the failures that an action can end with.
-/

namespace AccountLending

namespace Program

variable {Op : Type} {Reply : Op → Type} {α β γ : Type}
variable {moves : γ → (op : Op) → Reply op → γ → Prop}

/-- A program follows a protocol from a place: each of its calls is a move there, whatever the
reply, and it ends with a value only at a place that fits the value. -/
def Follows (moves : γ → (op : Op) → Reply op → γ → Prop) (ends : α → γ → Prop) :
    Program Op Reply α → γ → Prop
  | .done a, place => ends a place
  | .call op next, place =>
    ∀ reply, ∃ place', moves place op reply place' ∧ (next reply).Follows moves ends place'

@[simp] theorem follows_call (ends : α → γ → Prop) (op : Op) (next : Reply op → Program Op Reply α)
    (place : γ) :
    (call op next).Follows moves ends place ↔
      ∀ reply, ∃ place', moves place op reply place' ∧ (next reply).Follows moves ends place' :=
  Iff.rfl

theorem follows_bind (p : Program Op Reply α) (f : α → Program Op Reply β) (ends : β → γ → Prop)
    (place : γ) :
    (p.bind f).Follows moves ends place ↔
      p.Follows moves (fun a place' => (f a).Follows moves ends place') place := by
  induction p generalizing place with
  | done a => rfl
  | call op next ih => simp only [call_bind, follows_call, ih]

/-- A program that follows a protocol follows every one that allows more. -/
theorem Follows.mono {moves' : γ → (op : Op) → Reply op → γ → Prop}
    {ends ends' : α → γ → Prop} {p : Program Op Reply α} {place : γ}
    (h : p.Follows moves ends place)
    (hmoves : ∀ place op reply place', moves place op reply place' → moves' place op reply place')
    (hends : ∀ a place, ends a place → ends' a place) : p.Follows moves' ends' place := by
  induction p generalizing place with
  | done a => exact hends a place h
  | call op next ih =>
    intro reply
    obtain ⟨place', hmove, hrest⟩ := h reply
    exact ⟨place', hmoves _ _ _ _ hmove, ih reply hrest⟩

/-- A program that makes only calls of one protocol follows another one that allows these calls at
some place and stays there. -/
theorem Follows.stays {δ : Type} {moves' : δ → (op : Op) → Reply op → δ → Prop}
    {ends : α → γ → Prop} {p : Program Op Reply α} {place : γ}
    (h : p.Follows moves ends place) (stay : δ)
    (hmoves : ∀ place op reply place', moves place op reply place' → moves' stay op reply stay) :
    p.Follows moves' (fun _ _ => True) stay := by
  induction p generalizing place with
  | done a => trivial
  | call op next ih =>
    intro reply
    obtain ⟨place', hmove, hrest⟩ := h reply
    exact ⟨stay, hmoves _ _ _ _ hmove, ih reply hrest⟩

end Program

/-! ## Runs in any surroundings -/

/-- A call and the reply to it. -/
structure Exchange {Op : Type} (Reply : Op → Type) where
  op : Op
  reply : Reply op

/-- An element that is not in the first part of a list is in the second one. -/
theorem exists_of_append_eq {α : Type} {first second before after : List α} {a : α}
    (h : first ++ second = before ++ a :: after) (hfirst : a ∉ first) :
    ∃ middle, before = first ++ middle ∧ second = middle ++ a :: after := by
  rcases List.append_eq_append_iff.1 h with ⟨middle, hbefore, hsecond⟩ | ⟨rest, hsplit, hrest⟩
  · exact ⟨middle, hbefore, hsecond⟩
  · cases rest with
    | nil =>
      rw [List.append_nil] at hsplit
      exact ⟨[], by rw [hsplit, List.append_nil], hrest.symm⟩
    | cons other rest =>
      obtain rfl : a = other := (List.cons.inj hrest).1
      exact absurd (hsplit ▸ List.mem_append_right _ List.mem_cons_self) hfirst

namespace Program

variable {Op : Type} {Reply : Op → Type} {α β γ σ : Type}
variable {moves : γ → (op : Op) → Reply op → γ → Prop}

/-- The calls of one run with their replies, the first one first. -/
def exchanges (handle : (op : Op) → σ → Reply op × σ) :
    Program Op Reply α → σ → List (Exchange Reply)
  | .done _, _ => []
  | .call op next, s =>
    ⟨op, (handle op s).1⟩ :: (next (handle op s).1).exchanges handle (handle op s).2

theorem exchanges_bind (handle : (op : Op) → σ → Reply op × σ) (p : Program Op Reply α)
    (f : α → Program Op Reply β) (s : σ) :
    (p.bind f).exchanges handle s =
      p.exchanges handle s ++ (f (p.run handle s).1).exchanges handle (p.run handle s).2 := by
  induction p generalizing s with
  | done a => rfl
  | call op next ih => exact congrArg (_ :: ·) (ih _ _)

theorem map_op_exchanges (handle : (op : Op) → σ → Reply op × σ) (p : Program Op Reply α) (s : σ) :
    (p.exchanges handle s).map (·.op) = p.trace handle s := by
  induction p generalizing s with
  | done a => rfl
  | call op next ih => exact congrArg (op :: ·) (ih _ _)

/-- The calls of the exchanges are those that the program may use. -/
theorem Uses.mem_exchanges {allowed : Op → Prop} {p : Program Op Reply α} (hp : p.Uses allowed)
    {handle : (op : Op) → σ → Reply op × σ} {s : σ} {exchange : Exchange Reply}
    (h : exchange ∈ p.exchanges handle s) : allowed exchange.op := by
  induction p generalizing s with
  | done a => exact absurd h List.not_mem_nil
  | call op next ih =>
    rcases List.mem_cons.1 h with rfl | h
    · exact hp.1
    · exact ih _ (hp.2 _) h

/-- What a run returns fits the place at which it ends. -/
theorem Follows.run {ends : α → γ → Prop} {p : Program Op Reply α} {place : γ}
    (hp : p.Follows moves ends place) (handle : (op : Op) → σ → Reply op × σ) (s : σ) :
    ∃ place', ends (p.run handle s).1 place' := by
  induction p generalizing s place with
  | done a => exact ⟨place, hp⟩
  | call op next ih =>
    obtain ⟨place', -, hrest⟩ := hp (handle op s).1
    exact ih _ hrest (handle op s).2

/-- What is invariant under the moves of a protocol, as the surroundings answer them, holds at the
end of a run of a program that follows it. -/
theorem Follows.invariant {ends : α → γ → Prop} {p : Program Op Reply α} {place : γ}
    (hp : p.Follows moves ends place) {handle : (op : Op) → σ → Reply op × σ}
    {holds : List (Exchange Reply) → σ → γ → Prop}
    (hkeeps : ∀ history s place op reply s' place',
      holds history s place → handle op s = (reply, s') →
      moves place op reply place' → holds (history ++ [⟨op, reply⟩]) s' place')
    {s : σ} {history : List (Exchange Reply)} (hstart : holds history s place) :
    ∃ place', holds (history ++ p.exchanges handle s) (p.run handle s).2 place' ∧
      ends (p.run handle s).1 place' := by
  induction p generalizing s history place with
  | done a => exact ⟨place, by simpa [Program.exchanges] using hstart, hp⟩
  | call op next ih =>
    obtain ⟨place', hmove, hrest⟩ := hp (handle op s).1
    have hnow := hkeeps history s place op _ _ place' hstart rfl hmove
    obtain ⟨final, hholds, hends⟩ := ih _ hrest hnow
    exact ⟨final, by simpa [Program.exchanges] using hholds, hends⟩

/-- What is invariant under the moves of a protocol, however they are answered, holds at the end of
a run of a program that follows it. -/
theorem Follows.exchanges {ends : α → γ → Prop} {p : Program Op Reply α} {place : γ}
    (hp : p.Follows moves ends place) {holds : List (Exchange Reply) → γ → Prop}
    (hkeeps : ∀ history place op reply place', holds history place → moves place op reply place' →
      holds (history ++ [⟨op, reply⟩]) place')
    (handle : (op : Op) → σ → Reply op × σ) (s : σ) {history : List (Exchange Reply)}
    (hstart : holds history place) :
    ∃ place', holds (history ++ p.exchanges handle s) place' ∧ ends (p.run handle s).1 place' :=
  hp.invariant (fun history _ place op reply _ place' (hholds : holds history place) _ hmove =>
    hkeeps history place op reply place' hholds hmove) hstart

/-- The same of the surroundings and the place alone. -/
theorem Follows.keeps {ends : α → γ → Prop} {p : Program Op Reply α} {place : γ}
    (hp : p.Follows moves ends place) {handle : (op : Op) → σ → Reply op × σ}
    {holds : σ → γ → Prop}
    (hkeeps : ∀ s place op reply s' place', holds s place → handle op s = (reply, s') →
      moves place op reply place' → holds s' place')
    {s : σ} (hstart : holds s place) :
    ∃ place', holds (p.run handle s).2 place' ∧ ends (p.run handle s).1 place' := by
  induction p generalizing s place with
  | done a => exact ⟨place, hstart, hp⟩
  | call op next ih =>
    obtain ⟨place', hmove, hrest⟩ := hp (handle op s).1
    exact ih _ hrest (hkeeps s place op _ _ place' hstart rfl hmove)

end Program

namespace Action

variable {α β γ : Type} {moves : γ → (call : Call) → call.Reply → γ → Prop}

/-- An action follows a protocol from a place, and ends at places that fit its value or its
failure. -/
def Follows (moves : γ → (call : Call) → call.Reply → γ → Prop)
    (ends : Except PoolError α → γ → Prop) (action : Action α) (place : γ) : Prop :=
  action.run.Follows moves ends place

/-- How an action that goes on with `f` may end its first part. -/
def Onward (moves : γ → (call : Call) → call.Reply → γ → Prop) (f : α → Action β)
    (ends : Except PoolError β → γ → Prop) : Except PoolError α → γ → Prop
  | .ok a, place => (f a).Follows moves ends place
  | .error e, place => ends (.error e) place

@[simp] theorem onward_ok (f : α → Action β) (ends : Except PoolError β → γ → Prop) (a : α)
    (place : γ) :
    Onward moves f ends (.ok a) place ↔ (f a).Follows moves ends place := Iff.rfl

theorem follows_bind (action : Action α) (f : α → Action β) (ends : Except PoolError β → γ → Prop)
    (place : γ) :
    (action >>= f).Follows moves ends place ↔ action.Follows moves (Onward moves f ends) place := by
  have hends : (fun (result : Except PoolError α) place' =>
      (ExceptT.bindCont f result).Follows moves ends place') = Onward moves f ends := by
    funext result place'
    cases result <;> rfl
  rw [Follows, Follows, ← hends]
  exact Program.follows_bind action.run (ExceptT.bindCont f) ends place

@[simp] theorem follows_pure (ends : Except PoolError α → γ → Prop) (a : α) (place : γ) :
    (pure a : Action α).Follows moves ends place ↔ ends (.ok a) place := Iff.rfl

theorem follows_cloud (request : Cloud.Request) (ends : Except PoolError request.Answer → γ → Prop)
    (place : γ) :
    (cloud request).Follows moves ends place ↔
      ∀ reply, ∃ place', moves place (.cloud request) reply place' ∧
        ends (Except.mapError PoolError.service reply) place' := Iff.rfl

/-! ## The exchanges of an action -/

section Exchanges

variable {σ : Type} {handle : (call : Call) → σ → call.Reply × σ} {s : σ}

theorem exchanges_bind (action : Action α) (f : α → Action β) :
    (action >>= f).run.exchanges handle s = action.run.exchanges handle s ++
      match (action.run.run handle s).1 with
      | .ok a => (f a).run.exchanges handle (action.run.run handle s).2
      | .error _ => [] := by
  apply (Program.exchanges_bind handle action.run (ExceptT.bindCont f) s).trans
  cases (action.run.run handle s).1 <;> rfl

theorem exchanges_lift (program : Engine α) :
    (liftM program : Action α).run.exchanges handle s = program.exchanges handle s :=
  (Program.exchanges_bind handle program _ s).trans (List.append_nil _)

theorem exchanges_result (action : Action α) :
    action.result.run.exchanges handle s = action.run.exchanges handle s :=
  exchanges_lift action.run

/-- A sequence that succeeds is one whose parts do. -/
theorem exists_of_run_bind {action : Action α} {f : α → Action β} {b : β}
    (h : ((action >>= f).run.run handle s).1 = .ok b) :
    ∃ a, (action.run.run handle s).1 = .ok a ∧
      ((f a).run.run handle (action.run.run handle s).2).1 = .ok b ∧
      (action >>= f).run.exchanges handle s =
        action.run.exchanges handle s ++
          (f a).run.exchanges handle (action.run.run handle s).2 := by
  have hrun := Program.run_bind handle action.run (ExceptT.bindCont f) s
  have hresult : (((ExceptT.bindCont f (action.run.run handle s).1).run handle
      (action.run.run handle s).2)).1 = .ok b := (congrArg Prod.fst hrun).symm.trans h
  cases haction : (action.run.run handle s).1 with
  | error e =>
    rw [haction] at hresult
    exact absurd hresult (by simp [ExceptT.bindCont])
  | ok a =>
    rw [haction] at hresult
    refine ⟨a, rfl, hresult, ?_⟩
    rw [exchanges_bind, haction]

end Exchanges

/-! ## How an action can fail -/

/-- An action fails only in allowed ways, whatever the replies. -/
def FailsWith (allowed : PoolError → Prop) (action : Action α) : Prop :=
  action.Follows (fun _ _ _ _ => True) (fun result _ => ∀ e, result = .error e → allowed e) ()

namespace FailsWith

variable {allowed : PoolError → Prop}

theorem pure (a : α) : (pure a : Action α).FailsWith allowed := by
  intro e h
  simp at h

theorem throw {e : PoolError} (h : allowed e) : (throw e : Action α).FailsWith allowed := by
  rintro _ ⟨⟩
  exact h

/-- A program that returns a value cannot fail. -/
theorem lift (program : Engine α) : Action.FailsWith allowed (ExceptT.lift program) := by
  apply (Program.follows_bind program ..).2
  induction program with
  | done a => exact fun e h => by simp at h
  | call op next ih => exact fun reply => ⟨(), trivial, ih reply⟩

theorem cloud {request : Cloud.Request} (h : ∀ failure, allowed (.service failure)) :
    (cloud request).FailsWith allowed := by
  intro reply
  refine ⟨(), trivial, fun e he => ?_⟩
  cases reply with
  | error failure =>
    obtain rfl := Except.error.inj he
    exact h failure
  | ok answer => simp at he

theorem bind {action : Action α} {f : α → Action β} (haction : action.FailsWith allowed)
    (hf : ∀ a, (f a).FailsWith allowed) : (action >>= f).FailsWith allowed := by
  apply (Action.follows_bind ..).2
  apply Program.Follows.mono haction (fun _ _ _ _ h => h)
  intro result _ h
  cases result with
  | ok a => exact hf a
  | error e => exact fun e' he => h e' (congrArg _ (Except.error.inj he))

theorem mono {allowed' : PoolError → Prop} {action : Action α} (h : action.FailsWith allowed)
    (hallowed : ∀ e, allowed e → allowed' e) : action.FailsWith allowed' :=
  Program.Follows.mono h (fun _ _ _ _ => id) fun _ _ hends e he => hallowed e (hends e he)

/-- An action that is run for its failure too does not fail. -/
theorem result (action : Action α) : action.result.FailsWith allowed := .lift action.run

/-- No run of the action fails in another way. -/
theorem run {action : Action α} (h : action.FailsWith allowed) {σ : Type}
    (handle : (call : Call) → σ → call.Reply × σ) (s : σ) {e : PoolError}
    (he : (action.run.run handle s).1 = .error e) : allowed e := by
  obtain ⟨-, hends⟩ := Program.Follows.run h handle s
  exact hends e he

end FailsWith

end Action

end AccountLending
