import AccountLending.CommandLine.Commands
import AccountLending.Proofs.Silence

/-!
# The program in its surroundings

The program runs in surroundings of which only this is fixed: what each file holds, whether the
standard input is a terminal, and which payers have credentials.  How the services reply, what is
typed, which tokens are given out and what the clock says may depend on everything that was asked
before.  From outside it is seen which requests are sent and what is written to the standard output.

* `Surroundings` — what the program runs in;
* `Outside` — what is seen from outside;
* `Surroundings.run` — run a program, request by request;
* `run_job_bind`, `run_job_bind_eq_ok_iff` — commands one after the other, where a failure ends the
  sequence;
* `output_run_of_silent`, `sent_run_of_local` — what is seen does not change while nothing is
  written, and while only the host is asked.
-/

namespace AccountLending.CommandLine

/-- What the program runs in: the files, the terminal, the credentials, and answers to everything
else. -/
structure Surroundings (σ : Type) where
  /-- The text of the file at a path, or why it cannot be read. -/
  file : String → Except Host.FileError String
  isTerminal : Bool
  hasCredentials : Payer → Bool
  /-- How any other call is answered, and what each call changes. -/
  answer : (call : Client.Call) → σ → call.Reply × σ

/-- What is seen of a run from outside, and the state of its surroundings. -/
structure Outside (σ : Type) where
  state : σ
  /-- The requests that were sent. -/
  sent : List Wire.Request := []
  /-- What was written to the standard output. -/
  output : String := ""

/-- A call to the host. -/
def IsLocal : Call → Prop
  | .host _ => True
  | .cloud _ => False

namespace Surroundings

variable {σ α β ε : Type} (surroundings : Surroundings σ) (limit : Nat)

/-- Leave a call to the surroundings. -/
def leave (call : Client.Call) (outside : Outside σ) : call.Reply × Outside σ :=
  let (reply, state) := surroundings.answer call outside.state
  (reply, { outside with state })

/-- Answer a call.  Every call may change the state of the surroundings, also one whose answer is
fixed. -/
def serve : (call : Client.Call) → Outside σ → call.Reply × Outside σ
  | .host (.readFile path), outside =>
    (surroundings.file path, (surroundings.leave (.host (.readFile path)) outside).2)
  | .host .isInteractive, outside =>
    (surroundings.isTerminal, (surroundings.leave (.host .isInteractive) outside).2)
  | .host (.connect payer), outside =>
    (surroundings.hasCredentials payer, (surroundings.leave (.host (.connect payer)) outside).2)
  | .host (.print text), outside =>
    surroundings.leave (.host (.print text)) { outside with output := outside.output ++ text }
  | .send request, outside =>
    surroundings.leave (.send request) { outside with sent := outside.sent ++ [request] }
  | .host request, outside => surroundings.leave (.host request) outside

/-- Run a program over the cloud by sending its requests, following listings for at most so many
pages. -/
def run (program : Engine α) (outside : Outside σ) : α × Outside σ :=
  (Client.connected limit program).run surroundings.serve outside

/-! ## One part after the other -/

theorem run_bind (program : Engine α) (f : α → Engine β) (outside : Outside σ) :
    surroundings.run limit (program.bind f) outside =
      surroundings.run limit (f (surroundings.run limit program outside).1)
        (surroundings.run limit program outside).2 := by
  rw [run, Client.connected, Program.substitute_bind, Program.run_bind]
  rfl

theorem run_job_bind (job : ExceptT ε Engine α) (f : α → ExceptT ε Engine β) (outside : Outside σ) :
    surroundings.run limit (job >>= f).run outside =
      match (surroundings.run limit job.run outside).1 with
      | .ok a => surroundings.run limit (f a).run (surroundings.run limit job.run outside).2
      | .error e => (.error e, (surroundings.run limit job.run outside).2) := by
  apply (surroundings.run_bind limit job.run (ExceptT.bindCont f) outside).trans
  cases (surroundings.run limit job.run outside).1 <;> rfl

variable {limit}

theorem run_job_bind_eq_ok_iff {job : ExceptT ε Engine α} {f : α → ExceptT ε Engine β}
    {outside : Outside σ} {b : β} :
    (surroundings.run limit (job >>= f).run outside).1 = .ok b ↔
      ∃ a, (surroundings.run limit job.run outside).1 = .ok a ∧
        (surroundings.run limit (f a).run (surroundings.run limit job.run outside).2).1 =
          .ok b := by
  rw [run_job_bind]
  cases (surroundings.run limit job.run outside).1 <;> simp

theorem run_job_then_eq_ok_iff {job : ExceptT ε Engine Unit} {next : ExceptT ε Engine β}
    {outside : Outside σ} {b : β} :
    (surroundings.run limit (job >>= fun _ => next).run outside).1 = .ok b ↔
      (surroundings.run limit job.run outside).1 = .ok () ∧
        (surroundings.run limit next.run (surroundings.run limit job.run outside).2).1 = .ok b := by
  rw [run_job_bind]
  cases (surroundings.run limit job.run outside).1 <;> simp

variable (limit) in
theorem run_map (f : α → β) (job : ExceptT ε Engine α) (outside : Outside σ) :
    surroundings.run limit (f <$> job).run outside =
      ((surroundings.run limit job.run outside).1.map f,
        (surroundings.run limit job.run outside).2) := by
  rw [map_eq_pure_bind, run_job_bind]
  cases (surroundings.run limit job.run outside).1 <;> rfl

theorem run_map_eq_ok_iff (f : α → β) (job : ExceptT ε Engine α) (outside : Outside σ) (b : β) :
    (surroundings.run limit (f <$> job).run outside).1 = .ok b ↔
      ∃ a, (surroundings.run limit job.run outside).1 = .ok a ∧ f a = b := by
  rw [run_map]
  cases (surroundings.run limit job.run outside).1 <;> simp [Except.map]

theorem run_map_eq_error_iff (f : α → β) (job : ExceptT ε Engine α) (outside : Outside σ) (e : ε) :
    (surroundings.run limit (f <$> job).run outside).1 = .error e ↔
      (surroundings.run limit job.run outside).1 = .error e := by
  rw [run_map]
  cases (surroundings.run limit job.run outside).1 <;> simp [Except.map]

/-! ## What is seen -/

/-- A program keeps what each of its calls keeps. -/
theorem run_keeps {allowed : Call → Prop} {program : Engine α} (h : program.Uses allowed)
    {holds : Outside σ → Prop}
    (hkeeps : ∀ call outside, allowed call → holds outside →
      holds ((Client.carryOut limit call).run surroundings.serve outside).2) {outside : Outside σ}
    (houtside : holds outside) : holds (surroundings.run limit program outside).2 := by
  rw [run, Client.connected, Program.run_substitute]
  exact h.run_keeps hkeeps houtside

/-- A program that writes nothing leaves the output as it is. -/
theorem output_run_of_silent {program : Engine α} (h : program.Uses Call.IsSilent)
    (outside : Outside σ) : (surroundings.run limit program outside).2.output = outside.output := by
  refine surroundings.run_keeps h
    (fun call now hcall (hnow : now.output = outside.output) => ?_) rfl
  rw [← hnow]
  match call, hcall with
  | .cloud request, _ =>
    have hsending := Client.uses_answer limit request
    refine hsending.run_keeps (fun call (later : Outside σ) hcall
      (hlater : later.output = now.output) => ?_) rfl
    match call, hcall with
    | .send _, _ => exact hlater
    | .host (.log _), _ => exact hlater
  | .host (.log _), _ | .host .freshToken, _ | .host .now, _ | .host (.pause _), _
  | .host (.confirm _), _
  | .host (.say _), _ | .host .isInteractive, _ | .host .readLine, _ | .host (.readFile _), _
  | .host (.connect _), _ => rfl

/-- A program that asks only the host sends nothing. -/
theorem sent_run_of_local {program : Engine α} (h : program.Uses IsLocal) (outside : Outside σ) :
    (surroundings.run limit program outside).2.sent = outside.sent := by
  refine surroundings.run_keeps h (fun call now hcall (hnow : now.sent = outside.sent) => ?_) rfl
  rw [← hnow]
  match call, hcall with
  | .host (.log _), _ | .host .freshToken, _ | .host .now, _ | .host (.pause _), _
  | .host (.confirm _), _
  | .host (.print _), _ | .host (.say _), _ | .host .isInteractive, _ | .host .readLine, _
  | .host (.readFile _), _ | .host (.connect _), _ => rfl

end Surroundings

end AccountLending.CommandLine
