/-!
# Programs that call their surroundings

A `Program` is a finite tree of calls: it either is done with a value or makes one call and goes on
with the reply.  Nothing is said here about what a call does.  The same program can be run against a
state (`Program.run`), against another monad (`Program.interpret`), one call at a time, or be turned
into a program over other calls by giving a program for each call (`Program.substitute`).

* `run_bind`, `substitute_bind` — running and substituting follow the sequence of a program's parts;
* `run_substitute` — a program runs after substitution as it does when each call is answered by
  running the program that was given for it.
* `instLawfulMonad` — sequencing obeys the monad laws, so programs can be rearranged by `simp`.
-/

namespace AccountLending

/-- A program over calls `Op`, where call `op` is answered by a `Reply op`. -/
inductive Program (Op : Type) (Reply : Op → Type) (α : Type) : Type
  /-- Finished with a value. -/
  | done (value : α)
  /-- Make a call and continue with its reply. -/
  | call (op : Op) (next : Reply op → Program Op Reply α)

namespace Program

variable {Op Op' : Type} {Reply : Op → Type} {Reply' : Op' → Type} {α β γ σ : Type}

/-- Continue a program with a second one that depends on its value. -/
def bind : Program Op Reply α → (α → Program Op Reply β) → Program Op Reply β
  | .done a, f => f a
  | .call op next, f => .call op fun reply => (next reply).bind f

instance : Monad (Program Op Reply) where
  pure := .done
  bind := .bind

@[simp] theorem pure_eq_done (a : α) : (pure a : Program Op Reply α) = .done a := rfl

@[simp] theorem bind_eq (p : Program Op Reply α) (f : α → Program Op Reply β) :
    p >>= f = p.bind f := rfl

@[simp] theorem done_bind (a : α) (f : α → Program Op Reply β) : (done a).bind f = f a := rfl

@[simp] theorem call_bind (op : Op) (next : Reply op → Program Op Reply α)
    (f : α → Program Op Reply β) :
    (call op next).bind f = call op fun reply => (next reply).bind f := rfl

theorem bind_done (p : Program Op Reply α) : p.bind .done = p := by
  induction p with
  | done a => rfl
  | call op next ih => simp [ih]

theorem bind_assoc (p : Program Op Reply α) (f : α → Program Op Reply β)
    (g : β → Program Op Reply γ) : (p.bind f).bind g = p.bind fun a => (f a).bind g := by
  induction p with
  | done a => rfl
  | call op next ih => simp [ih]

instance instLawfulMonad : LawfulMonad (Program Op Reply) :=
  LawfulMonad.mk' _ bind_done (fun _ _ => rfl) bind_assoc

/-! ## Running against a state -/

/-- Run a program against a state, where `handle` answers each call and moves the state on. -/
def run (handle : (op : Op) → σ → Reply op × σ) : Program Op Reply α → σ → α × σ
  | .done a, s => (a, s)
  | .call op next, s => (next (handle op s).1).run handle (handle op s).2

@[simp] theorem run_done (handle : (op : Op) → σ → Reply op × σ) (a : α) (s : σ) :
    (done a : Program Op Reply α).run handle s = (a, s) := rfl

@[simp] theorem run_call (handle : (op : Op) → σ → Reply op × σ) (op : Op)
    (next : Reply op → Program Op Reply α) (s : σ) :
    (call op next).run handle s = (next (handle op s).1).run handle (handle op s).2 := rfl

theorem run_bind (handle : (op : Op) → σ → Reply op × σ) (p : Program Op Reply α)
    (f : α → Program Op Reply β) (s : σ) :
    (p.bind f).run handle s = (f (p.run handle s).1).run handle (p.run handle s).2 := by
  induction p generalizing s with
  | done a => rfl
  | call op next ih => simp [ih]

/-- Run a program in another monad, where `handle` answers each call. -/
def interpret {m : Type → Type} [Monad m] (handle : (op : Op) → m (Reply op)) :
    Program Op Reply α → m α
  | .done a => pure a
  | .call op next => do (next (← handle op)).interpret handle

/-! ## Other calls -/

/-- Replace each call by a program over other calls that computes its reply. -/
def substitute (f : (op : Op) → Program Op' Reply' (Reply op)) :
    Program Op Reply α → Program Op' Reply' α
  | .done a => .done a
  | .call op next => (f op).bind fun reply => (next reply).substitute f

theorem substitute_bind (f : (op : Op) → Program Op' Reply' (Reply op)) (p : Program Op Reply α)
    (g : α → Program Op Reply β) :
    (p.bind g).substitute f = (p.substitute f).bind fun a => (g a).substitute f := by
  induction p with
  | done a => rfl
  | call op next ih => simp [substitute, ih, bind_assoc]

theorem run_substitute (f : (op : Op) → Program Op' Reply' (Reply op))
    (handle : (op : Op') → σ → Reply' op × σ) (p : Program Op Reply α) (s : σ) :
    (p.substitute f).run handle s = p.run (fun op s => (f op).run handle s) s := by
  induction p generalizing s with
  | done a => rfl
  | call op next ih => simp [substitute, run_bind, ih]

end Program

end AccountLending
