import AccountLending.Proofs.CommandLine.Surroundings
import AccountLending.Proofs.Settings

/-!
# The checks of a command

Before a command asks anything of the cloud, its settings are read, its payer is looked up in them,
its arguments are checked, and credentials are found for the payer.  All this is done on the host:
nothing is sent and nothing is written until it has succeeded.

* `Command.IsAllowed` — what the arguments of a command must be;
* `Surroundings.Passes` — what is checked before anything is sent;
* `prepare` — what a command does before its operation runs;
* `run_prepare_eq_ok_iff` — a command gets that far exactly when it passes and its payer has
  credentials;
* `seen_prepare` — nothing of it is seen from outside.
-/

namespace AccountLending.CommandLine

open Job (doing checkAccount checkAccount? connect)

namespace Command

/-- The name of the payer that a command is for. -/
def payer : Command → String
  | .assign payer _ _ | .list payer _ _ _ | .unassign payer _ _ => payer

/-- What the arguments of a command must be: an account is named by twelve digits, an account is
lent to a user who is not blank, and one is taken back after yes was said or where it can be asked
for. -/
def IsAllowed (isTerminal : Bool) : Command → Prop
  | .assign _ user account => Text.isAllBlank user = false ∧ ∀ id, account = some id →
    AccountId.isValid id = true
  | .list _ _ account _ => ∀ id, account = some id → AccountId.isValid id = true
  | .unassign _ target yes =>
    (∀ id, target = .account id → AccountId.isValid id = true) ∧ (yes = true ∨ isTerminal = true)

/-- Check the arguments of a command. -/
def check : Command → Job Unit
  | .assign _ user account =>
    if Text.isAllBlank user then throw ⟨"--username must not be empty", []⟩
    else checkAccount? account
  | .list _ _ account _ => checkAccount? account
  | .unassign _ target yes => do
    checkTarget target
    if yes || (← Job.host .isInteractive) then return
    else
      throw
        ⟨"Refusing to reclaim without confirmation in a non-interactive environment; pass --yes",
          []⟩

end Command

/-- Find the settings and the payer of a command, check its arguments, and connect to the cloud. -/
def prepare (invocation : Invocation) : Job (PoolSettings × Payer) := do
  let (settings, payer) ← resolvePayer invocation.config invocation.command.payer
  invocation.command.check
  connect payer
  return (settings, payer)

/-! ## The calls of the checks -/

/-- A call that is made before a command is connected. -/
def IsChecking : Call → Prop
  | .host (.log _) | .host (.readFile _) | .host .isInteractive | .host (.connect _) => True
  | _ => False

theorem isLocal_of_isChecking (call : Call) (h : IsChecking call) : IsLocal call := by
  match call, h with
  | .host _, _ => trivial

theorem isSilent_of_isChecking (call : Call) (h : IsChecking call) : call.IsSilent := by
  match call, h with
  | .host (.log _), _ | .host (.readFile _), _ | .host .isInteractive, _
  | .host (.connect _), _ => trivial

theorem uses_load (config : Option String) : (PoolSettings.load config).Uses IsChecking := by
  cases config with
  | none => trivial
  | some path =>
    refine ⟨trivial, fun _ => ⟨trivial, fun reply => ?_⟩⟩
    cases reply <;> trivial

theorem uses_resolvePayer (config : Option String) (name : String) :
    (resolvePayer config name).run.Uses IsChecking := by
  have hload (words : String) : (doing words (PoolSettings.load config)).run.Uses IsChecking :=
    Program.Uses.bind (uses_load config) fun _ => trivial
  refine (hload _).bind_except fun settings => Program.Uses.bind_except ?_ fun payer =>
    ⟨trivial, fun _ => trivial⟩
  exact Program.Uses.bind trivial fun _ => trivial

theorem uses_checkAccount (id : String) : (checkAccount id).run.Uses IsChecking := by
  rw [checkAccount]
  split <;> trivial

theorem uses_check (command : Command) : command.check.run.Uses IsChecking := by
  have haccount (account : Option String) : (checkAccount? account).run.Uses IsChecking := by
    cases account with
    | none => trivial
    | some id => exact uses_checkAccount id
  cases command with
  | assign name user account =>
    rw [Command.check]
    split
    · trivial
    · exact haccount account
  | list name user account pretty => exact haccount account
  | unassign name target yes =>
    have htarget : (checkTarget target).run.Uses IsChecking := by
      cases target with
      | account id => exact uses_checkAccount id
      | user user => trivial
    refine htarget.bind_except fun _ => ⟨trivial, fun isTerminal => ?_⟩
    cases yes <;> cases isTerminal <;> trivial

theorem uses_prepare (invocation : Invocation) : (prepare invocation).run.Uses IsChecking := by
  refine (uses_resolvePayer _ _).bind_except fun (settings, payer) => ?_
  refine (uses_check _).bind_except fun _ => Program.Uses.bind_except ?_ fun _ => trivial
  refine ⟨trivial, fun connected => ?_⟩
  cases connected <;> trivial

section

variable {σ α : Type} {limit : Nat} {outside : Outside σ}

namespace Surroundings

variable (surroundings : Surroundings σ)

/-! ## What is checked -/

/-- The settings that are used: those that are built in, or those of a file.  Either are usable
(`Loads.isUsable`). -/
def Loads (config : Option String) (settings : PoolSettings) : Prop :=
  match config with
  | none => settings = .builtIn
  | some path => ∃ text, surroundings.file path = .ok text ∧ PoolSettings.ofText text = .ok settings

theorem Loads.isUsable {surroundings : Surroundings σ} {config : Option String}
    {settings : PoolSettings} (h : surroundings.Loads config settings) : settings.IsUsable := by
  cases config with
  | none =>
    obtain rfl : settings = .builtIn := h
    exact PoolSettings.isUsable_builtIn
  | some path =>
    obtain ⟨text, -, htext⟩ := h
    exact PoolSettings.isUsable_of_ofText htext

/-- What is checked before anything is sent: the settings, the payer and the arguments. -/
structure Passes (invocation : Invocation) (settings : PoolSettings) (payer : Payer) : Prop where
  loads : surroundings.Loads invocation.config settings
  usable : settings.IsUsable
  payer : settings.payers.get? invocation.command.payer = some payer
  allowed : invocation.command.IsAllowed surroundings.isTerminal

/-! ## Running the checks -/

theorem run_doing (words : String) (action : Action α) :
    surroundings.run limit (doing words action).run outside =
      ((surroundings.run limit action.run outside).1.mapError (CommandError.within words),
        (surroundings.run limit action.run outside).2) :=
  surroundings.run_bind limit action.run _ outside

theorem run_doing_eq_ok_iff (words : String) (action : Action α) (a : α) :
    (surroundings.run limit (doing words action).run outside).1 = .ok a ↔
      (surroundings.run limit action.run outside).1 = .ok a := by
  rw [run_doing]
  cases (surroundings.run limit action.run outside).1 <;> simp [Except.mapError]

theorem run_load_eq_ok_iff (config : Option String) (settings : PoolSettings) :
    (surroundings.run limit (PoolSettings.load config).run outside).1 = .ok settings ↔
      surroundings.Loads config settings := by
  cases config with
  | none =>
    show Except.ok PoolSettings.builtIn = Except.ok settings ↔ settings = .builtIn
    rw [Except.ok.injEq, eq_comm]
  | some path =>
    have hlogged (mid : Outside σ) (level : Log.Level) (message : String) :
        (surroundings.run limit (Action.log level message).run mid).1 = .ok () := rfl
    have hread (mid : Outside σ) :
        (surroundings.run limit (Action.host (.readFile path)).run mid).1 =
        .ok (surroundings.file path) := rfl
    rw [PoolSettings.load, run_job_bind, hlogged, Loads]
    dsimp only
    rw [run_job_bind, hread]
    dsimp only
    cases surroundings.file path with
    | error cause =>
      refine iff_of_false ?_ (by simp)
      rintro ⟨⟩
    | ok text =>
      show PoolSettings.ofText text = .ok settings ↔ _
      simp

theorem run_resolvePayer_eq_ok_iff (config : Option String) (name : String)
    (settings : PoolSettings) (payer : Payer) :
    (surroundings.run limit (resolvePayer config name).run outside).1 = .ok (settings, payer) ↔
      surroundings.Loads config settings ∧ settings.payers.get? name = some payer := by
  have hpayer (settings : PoolSettings) (mid : Outside σ) :
      (surroundings.run limit (ExceptT.mk (return settings.payer name) : Action Payer).run mid).1 =
        settings.payer name := rfl
  simp only [resolvePayer, run_job_bind_eq_ok_iff, run_doing_eq_ok_iff, run_load_eq_ok_iff, hpayer,
    PoolSettings.payer_eq_ok_iff]
  constructor
  · rintro ⟨found, hloads, other, hpayer, -, -, hpair⟩
    obtain ⟨rfl, rfl⟩ := Prod.mk.inj (Except.ok.inj hpair)
    exact ⟨hloads, hpayer⟩
  · rintro ⟨hloads, hpayer⟩
    exact ⟨settings, hloads, payer, hpayer, (), rfl, rfl⟩

theorem run_checkAccount_eq_ok_iff (id : String) :
    (surroundings.run limit (checkAccount id).run outside).1 = .ok () ↔
    AccountId.isValid id = true := by
  rw [checkAccount]
  split
  · rename_i hvalid
    exact iff_of_true rfl hvalid
  · rename_i hvalid
    refine iff_of_false ?_ hvalid
    exact nofun

theorem run_checkAccount?_eq_ok_iff (account : Option String) :
    (surroundings.run limit (checkAccount? account).run outside).1 = .ok () ↔
      ∀ id, account = some id → AccountId.isValid id = true := by
  cases account with
  | none => exact iff_of_true rfl nofun
  | some id =>
    rw [checkAccount?, run_checkAccount_eq_ok_iff]
    simp

theorem run_checkTarget_eq_ok_iff (target : Lending.ReclaimTarget) :
    (surroundings.run limit (checkTarget target).run outside).1 = .ok () ↔
      ∀ id, target = .account id → AccountId.isValid id = true := by
  cases target with
  | account id =>
    rw [checkTarget, run_checkAccount_eq_ok_iff]
    simp
  | user name => exact iff_of_true rfl nofun

theorem run_check_eq_ok_iff (command : Command) :
    (surroundings.run limit command.check.run outside).1 = .ok () ↔
      command.IsAllowed surroundings.isTerminal := by
  cases command with
  | assign name user account =>
    rw [Command.check, Command.IsAllowed]
    split
    · rename_i hblank
      exact iff_of_false nofun fun h => by simp [hblank] at h
    · rename_i hblank
      rw [run_checkAccount?_eq_ok_iff, Bool.not_eq_true] at *
      exact (and_iff_right hblank).symm
  | list name user account pretty => exact surroundings.run_checkAccount?_eq_ok_iff account
  | unassign name target yes =>
    have hasked (mid : Outside σ) : (surroundings.run limit (Job.host .isInteractive).run mid).1 =
        .ok surroundings.isTerminal := rfl
    rw [Command.check, run_job_then_eq_ok_iff, run_checkTarget_eq_ok_iff, run_job_bind, hasked]
    refine and_congr_right fun _ => ?_
    dsimp only
    split
    · rename_i hagreed
      exact iff_of_true rfl (by simpa using hagreed)
    · rename_i hrefused
      exact iff_of_false nofun (by simpa using hrefused)

theorem run_connect_eq_ok_iff (payer : Payer) :
    (surroundings.run limit (connect payer).run outside).1 = .ok () ↔
      surroundings.hasCredentials payer = true := by
  have hasked : (surroundings.run limit (Job.host (.connect payer)).run outside).1 =
      .ok (surroundings.hasCredentials payer) := rfl
  rw [connect, run_job_bind, hasked]
  dsimp only
  split
  · rename_i hcredentials
    exact iff_of_true rfl hcredentials
  · rename_i hcredentials
    exact iff_of_false nofun hcredentials

/-- A command gets past its checks and is connected exactly when they hold and the payer has
credentials. -/
theorem run_prepare_eq_ok_iff (invocation : Invocation) (settings : PoolSettings) (payer : Payer) :
    (surroundings.run limit (prepare invocation).run outside).1 = .ok (settings, payer) ↔
      surroundings.Passes invocation settings payer ∧ surroundings.hasCredentials payer = true := by
  rw [prepare, run_job_bind_eq_ok_iff]
  constructor
  · rintro ⟨⟨found, other⟩, hfound, hrest⟩
    obtain ⟨hloads, hpayer⟩ := (surroundings.run_resolvePayer_eq_ok_iff ..).1 hfound
    simp only [run_job_then_eq_ok_iff, run_check_eq_ok_iff, run_connect_eq_ok_iff] at hrest
    obtain ⟨hallowed, hcredentials, hpair⟩ := hrest
    obtain ⟨rfl, rfl⟩ := Prod.mk.inj (Except.ok.inj hpair)
    exact ⟨⟨hloads, hloads.isUsable, hpayer, hallowed⟩, hcredentials⟩
  · rintro ⟨⟨hloads, -, hpayer, hallowed⟩, hcredentials⟩
    refine ⟨(settings, payer), (surroundings.run_resolvePayer_eq_ok_iff ..).2 ⟨hloads, hpayer⟩, ?_⟩
    simp only [run_job_then_eq_ok_iff, run_check_eq_ok_iff, run_connect_eq_ok_iff]
    exact ⟨hallowed, hcredentials, rfl⟩

/-! ## What is seen of the checks -/

/-- Nothing is sent and nothing is written before a command is connected. -/
theorem seen_prepare (limit : Nat) (invocation : Invocation) (outside : Outside σ) :
    (surroundings.run limit (prepare invocation).run outside).2.sent = outside.sent ∧
      (surroundings.run limit (prepare invocation).run outside).2.output = outside.output :=
  ⟨surroundings.sent_run_of_local ((uses_prepare invocation).mono isLocal_of_isChecking) outside,
    surroundings.output_run_of_silent
      ((uses_prepare invocation).mono isSilent_of_isChecking) outside⟩

end Surroundings

end

end AccountLending.CommandLine
