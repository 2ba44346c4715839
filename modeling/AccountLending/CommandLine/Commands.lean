import AccountLending.CommandLine.Arguments
import AccountLending.CommandLine.Messages
import AccountLending.Lending.Assignment
import AccountLending.Settings.Reading
import AccountLending.Text.Blank

/-!
# Carrying out commands

Each command checks its arguments before it connects to the cloud, so a wrong argument never reaches
a service.  The result goes to the standard output, and everything else to the standard error.  A
reclamation that the operator declines is no failure.

* `assign`, `list`, `unassign` — the three commands;
* `execute` — a command with its settings file;
* `program` — the whole program, whose value is the exit code.
-/

namespace AccountLending.CommandLine

/-- Why a command failed: in words, and the failures behind it, the nearest first. -/
structure CommandError where
  message : String
  causes : List String := []
  deriving DecidableEq, Repr

namespace CommandError

/-- A failure of the pool as the failure of a command. -/
def ofPool (error : PoolError) : CommandError := ⟨error.message, error.causes⟩

/-- A failure of the pool behind what the command was doing. -/
def within (doing : String) (error : PoolError) : CommandError :=
  ⟨doing, error.message :: error.causes⟩

end CommandError

/-- A command that may fail. -/
abbrev Job := ExceptT CommandError Engine

namespace Job

/-- Make a request to the host. -/
def host (request : Host.Request) : Job request.Answer := ExceptT.lift (Engine.host request)

/-- Write a line to the log. -/
def log (level : Log.Level) (message : String) : Job Unit := ExceptT.lift (Engine.log level message)

/-- Write to the standard output. -/
def print (text : String) : Job Unit := host (.print text)

/-- Write to the standard error. -/
def say (text : String) : Job Unit := host (.say text)

/-- Carry out an action, and say what was being done when it fails. -/
def doing {α : Type} (words : String) (action : Action α) : Job α :=
  ExceptT.mk do return (← action.run).mapError (CommandError.within words)

/-- Check an account number. -/
def checkAccount (account : String) : Job Unit :=
  if AccountId.isValid account then return
  else throw (.ofPool (.invalidAccountId account))

/-- Check an account number, if there is one. -/
def checkAccount? : Option String → Job Unit
  | none => return
  | some account => checkAccount account

/-- The failure of a payer that has no credentials. -/
def noProvider (payer : Payer) : CommandError :=
  ⟨"Failed to set up AWS clients for the payer account",
    [ServiceError.message ⟨.configuration, .noProvider payer.profile⟩]⟩

/-- Connect to the cloud as a payer. -/
def connect (payer : Payer) : Job Unit := do
  if ← host (.connect payer) then return else throw (noProvider payer)

end Job

open Job (print say doing checkAccount checkAccount? connect)

/-! ## Settings -/

/-- The settings to use, and the payer of a name in them. -/
def resolvePayer (config : Option String) (name : String) : Job (PoolSettings × Payer) := do
  let settings ← doing "Failed to load pool configuration" (PoolSettings.load config)
  let payer ← doing ("Cannot use payer '" ++ name ++ "'") (ExceptT.mk (return settings.payer name))
  Job.log .debug ("Payer " ++ name ++ ": root " ++ payer.root ++ ", claimed OU " ++ payer.claimed)
  return (settings, payer)

/-! ## Lending -/

/-- Lend an account: the first free one, or one that is asked for. -/
def assign (settings : PoolSettings) (payer : Payer) (user : String) (account : Option String) :
    Job Unit := do
  if Text.isAllBlank user then throw ⟨"--username must not be empty", []⟩
  else
    checkAccount? account
    connect payer
    let assigned ← match account with
      | some id =>
        doing ("Failed to assign account " ++ id ++ " to " ++ user)
          (Lending.assignAccount payer settings.allocation id user)
      | none =>
        doing ("Failed to assign an account to " ++ user)
          (Lending.assign payer settings.allocation user)
    print (assigned ++ "\n")
    say (noteText ("assigned account " ++ assigned ++ " to " ++ user ++ " (moved to "
      ++ payer.claimed ++ ")"))

/-! ## Looking up -/

/-- Write a document to the standard output. -/
def printDocument (document : Json) (pretty : Bool) : Job Unit := do
  Job.log .debug ("Formatting output as JSON (pretty: " ++ toString pretty ++ ")")
  print (documentText document pretty)

/-- Look up the owner of an account, the accounts of a user, or all owners under the claimed
unit. -/
def list (payer : Payer) (user account : Option String) (pretty : Bool) : Job Unit := do
  checkAccount? account
  connect payer
  match account, user with
  | some id, _ =>
    let owner ← doing ("Failed to look up the owner of account " ++ id) (Lending.ownerOf id)
    printDocument (.record [("AccountId", .str id), ("Owner", .str owner)]) pretty
  | none, some name =>
    let accounts ← doing ("Failed to list the accounts of " ++ name) (Lending.accountsOf name)
    printDocument (.record [("User", .str name), ("Accounts", .texts accounts)]) pretty
  | none, none =>
    let owners ← doing ("Failed to list the accounts under " ++ payer.claimed)
      (Lending.ownersUnder payer.claimed)
    printDocument
      (.record (owners.entries.map fun (owner, accounts) => (owner, .texts accounts))) pretty

/-! ## Taking back -/

/-- Whether an answer on the terminal means yes. -/
def isYes (answer : String) : Bool :=
  let lower := (Text.trim answer).toLower
  lower = "y" || lower = "yes"

/-- Ask on the terminal; only a clear yes is one. -/
def askOnTerminal (question : String) : Engine Bool := do
  Engine.host (.say (questionText question))
  match ← Engine.host .readLine with
  | none => return false
  | some answer => return isYes answer

/-- Say yes without asking. -/
def assumeYes (question : String) : Engine Bool := do
  Engine.log .info ("Confirmed by --yes: " ++ question)
  return true

/-- Write the reports of the accounts that were taken back before a failure. -/
def sayFinished (reports : List Report) : Job Unit :=
  if reports.isEmpty then return
  else do
    say (reportsText reports)
    say (warningText "the accounts above were reclaimed before the run stopped")

/-- Tell how a reclamation ended. -/
def conclude (target : Lending.ReclaimTarget) :
    Except PoolError Lending.ReclaimOutcome → Job Unit
  | .ok .declined => say (noteText "aborted; nothing was changed")
  | .ok (.completed reports) => do
    say (reportsText reports)
    say (noteText ("reclaimed " ++ toString reports.length ++ " account(s)"))
  | .error (.teardownIncomplete reports) => do
    say (reportsText reports)
    say (warningText
      "accounts were returned to the pool root; remove the failed artifacts by hand or re-run")
    throw ⟨PoolError.message (.teardownIncomplete reports), []⟩
  | .error (.reclaimAborted account source reports) => do
    sayFinished reports
    throw (.within ("Failed to reclaim " ++ target.words) (.reclaimAborted account source reports))
  | .error error => throw (.within ("Failed to reclaim " ++ target.words) error)

/-- Check the target of a reclamation. -/
def checkTarget : Lending.ReclaimTarget → Job Unit
  | .account id => checkAccount id
  | .user _ => return

/-- Take accounts back, after asking on the terminal unless yes is assumed. -/
def unassign (settings : PoolSettings) (payer : Payer) (target : Lending.ReclaimTarget)
    (yes : Bool) : Job Unit := do
  checkTarget target
  if yes || (← Job.host .isInteractive) then
    connect payer
    let reclaimer : Lending.Reclaimer := ⟨payer, settings.reclaim⟩
    let confirm := if yes then assumeYes else askOnTerminal
    conclude target (← ExceptT.lift (reclaimer.reclaim confirm target).run)
  else
    throw
      ⟨"Refusing to reclaim without confirmation in a non-interactive environment; pass --yes", []⟩

/-! ## The whole program -/

/-- Carry out a command. -/
def execute (invocation : Invocation) : Job Unit := do
  match invocation.command with
  | .assign name user account =>
    let (settings, payer) ← resolvePayer invocation.config name
    assign settings payer user account
  | .list name user account pretty =>
    let (_, payer) ← resolvePayer invocation.config name
    list payer user account pretty
  | .unassign name target yes =>
    let (settings, payer) ← resolvePayer invocation.config name
    unassign settings payer target yes

/-- The name and the version of the program. -/
def versionText : String := "account-pool 0.1.0\n"

/-- How the program is used. -/
def usageText : String :=
  "Usage: account-pool [--config FILE] [--debug] COMMAND\n\n"
    ++ "Commands:\n"
    ++ "  assign    --payer-account NAME --username USER [--account-id ID]\n"
    ++ "  list      --payer-account NAME [--user USER | --account-id ID] [--pretty]\n"
    ++ "  unassign  --payer-account NAME (--username USER | --account-id ID) [--yes]\n"

/-- Write what an argument that asks for no command asks for, and return the exit code. -/
def explain : Stop → Engine UInt32
  | .help => do
    Engine.host (.print usageText)
    return 0
  | .version => do
    Engine.host (.print versionText)
    return 0
  | .misuse => do
    Engine.host (.say usageText)
    return 2

/-- Carry out a command, write its failure if it fails, and return the exit code. -/
def finish (invocation : Invocation) : Engine UInt32 := do
  match ← (execute invocation).run with
  | .ok () => return 0
  | .error error =>
    Engine.host (.say (failureText error.message error.causes))
    return 1

/-- The program: read the words, carry out the command, and return the exit code. -/
def program (environment : Option String) (words : List String) : Engine UInt32 :=
  match Invocation.ofWords environment words with
  | .error stop => explain stop
  | .ok invocation => finish invocation

end AccountLending.CommandLine
