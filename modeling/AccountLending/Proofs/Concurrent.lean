import Mathlib.Logic.Function.Basic
import AccountLending.Cloud.Services
import AccountLending.Proofs.Following

/-!
# Programs at work at the same time

Several parties share a state, and each has a program of its own.  One step is one call of one
party: the state answers it, and the party goes on with the reply.  Which party is next is left
open, so the runs of a system are all the interleavings of the calls of its parties.

* `Concurrent.Run` — the runs, each with the calls that were made and their replies;
* `Concurrent.Run.invariant` — an invariant of the state and of the parties' places in their
  protocols is proved move by move, without looking at the programs again;
* `Concurrent.Run.schedule` — a schedule of the parties is carried out by a run;
* `Cloud.Answers` — what a cloud that nobody else uses replies, while hosts reply whatever they
  like.
-/

namespace AccountLending

/-- A call that a party made, and the reply to it. -/
structure Event (ι : Type) {Op : Type} (Reply : Op → Type) where
  party : ι
  op : Op
  reply : Reply op

/-- Parties that share a state, with what is left of their programs. -/
structure Concurrent (σ ι : Type) {Op : Type} (Reply : Op → Type) (α : ι → Type) where
  state : σ
  programs : (i : ι) → Program Op Reply (α i)

namespace Concurrent

variable {σ ι γ Op : Type} [DecidableEq ι] {Reply : Op → Type} {α : ι → Type}
variable {answers : (op : Op) → σ → Reply op → σ → Prop}

/-- One call of one party. -/
inductive Step (answers : (op : Op) → σ → Reply op → σ → Prop) :
    Concurrent σ ι Reply α → Event ι Reply → Concurrent σ ι Reply α → Prop
  | call {system : Concurrent σ ι Reply α} {i : ι} {op : Op}
    {next : Reply op → Program Op Reply (α i)}
      {reply : Reply op} {state : σ} (hnext : system.programs i = .call op next)
      (hreply : answers op system.state reply state) :
      Step answers system ⟨i, op, reply⟩ ⟨state, Function.update system.programs i (next reply)⟩

/-- Any number of calls of any parties, the first one first. -/
inductive Run (answers : (op : Op) → σ → Reply op → σ → Prop) (start : Concurrent σ ι Reply α) :
    List (Event ι Reply) → Concurrent σ ι Reply α → Prop
  | start : Run answers start [] start
  | step {trace : List (Event ι Reply)} {event : Event ι Reply}
    {system after : Concurrent σ ι Reply α}
      (hrun : Run answers start trace system) (hstep : Step answers system event after) :
      Run answers start (trace ++ [event]) after

/-- An invariant of the calls so far, the state and the parties' places holds along every run, when
each move of a party that the state answers keeps it.  Places are only changed by moves, so nothing
has to be known of a program but the protocol that it follows. -/
theorem Run.invariant {moves : ι → γ → (op : Op) → Reply op → γ → Prop}
    {ends : (i : ι) → α i → γ → Prop}
    {holds : List (Event ι Reply) → σ → (ι → γ) → Prop}
    (hkeeps : ∀ trace state places i op reply state' place', holds trace state places →
      answers op state reply state' → moves i (places i) op reply place' →
      holds (trace ++ [⟨i, op, reply⟩]) state' (Function.update places i place'))
    {start final : Concurrent σ ι Reply α} {trace : List (Event ι Reply)} {places : ι → γ}
    (hrun : Run answers start trace final)
    (hfollows : ∀ i, (start.programs i).Follows (moves i) (ends i) (places i))
    (hstart : holds [] start.state places) :
    ∃ places', (∀ i, (final.programs i).Follows (moves i) (ends i) (places' i)) ∧
      holds trace final.state places' := by
  induction hrun with
  | start => exact ⟨places, hfollows, hstart⟩
  | step hrun hstep ih =>
    obtain ⟨before, hprograms, hholds⟩ := ih
    cases hstep with
    | @call i op next reply state hnext hreply =>
      have hi := hprograms i
      rw [hnext] at hi
      obtain ⟨place', hmove, hrest⟩ := hi reply
      -- only the party that made the call has another place
      refine ⟨Function.update before i place', fun j => ?_,
        hkeeps _ _ _ _ _ _ _ _ hholds hreply hmove⟩
      rcases eq_or_ne j i with rfl | hj
      · simpa only [Function.update_self] using hrest
      · simpa only [Function.update_of_ne hj] using hprograms j

/-- What a party ends with fits the place that it has reached. -/
theorem Run.ends_of_done {moves : γ → (op : Op) → Reply op → γ → Prop} {ends : β → γ → Prop}
    {p : Program Op Reply β} {a : β} {place : γ} (h : p.Follows moves ends place)
    (hdone : p = .done a) : ends a place := by
  rw [hdone] at h
  exact h

/-! ## Schedules -/

/-- Let a party make its next call, if it is not done. -/
def advance (serve : ι → (op : Op) → σ → Reply op × σ)
    (system : Concurrent σ ι Reply α) (i : ι) : Concurrent σ ι Reply α :=
  match system.programs i with
  | .done _ => system
  | .call op next =>
    ⟨(serve i op system.state).2,
      Function.update system.programs i (next (serve i op system.state).1)⟩

/-- What a schedule leads to is reached by a run. -/
theorem Run.schedule (answers : (op : Op) → σ → Reply op → σ → Prop)
    (serve : ι → (op : Op) → σ → Reply op × σ)
    (hserve : ∀ i op state, answers op state (serve i op state).1 (serve i op state).2)
    (start : Concurrent σ ι Reply α) (parties : List ι) :
    ∃ trace, Run answers start trace (parties.foldl (advance serve) start) := by
  suffices ∀ (trace : List (Event ι Reply)) (system : Concurrent σ ι Reply α),
      Run answers start trace system →
        ∃ trace', Run answers start trace' (parties.foldl (advance serve) system) from
    this [] start .start
  induction parties with
  | nil => exact fun trace system hrun => ⟨trace, hrun⟩
  | cons i rest ih =>
    intro trace system hrun
    rw [List.foldl_cons, advance]
    split
    · exact ih trace system hrun
    · rename_i op next hnext
      exact ih _ _ (.step hrun (.call hnext (hserve i op system.state)))

/-- What a party is done with. -/
def result? (system : Concurrent σ ι Reply α) (i : ι) : Option (α i) :=
  match system.programs i with
  | .done a => some a
  | .call _ _ => none

omit [DecidableEq ι] in
theorem eq_done_of_result? {system : Concurrent σ ι Reply α} {i : ι} {a : α i}
    (h : system.result? i = some a) : system.programs i = .done a := by
  unfold result? at h
  split at h
  · rename_i hdone
    rw [hdone, Option.some.inj h]
  · simp at h

end Concurrent

/-- What a cloud that nobody else uses replies to a call.  A host may reply anything. -/
def Cloud.Answers : (call : Call) → Cloud → call.Reply → Cloud → Prop
  | .cloud request, cloud, reply, after => Cloud.serve request cloud = (reply, after)
  | .host _, cloud, _, after => after = cloud

end AccountLending
