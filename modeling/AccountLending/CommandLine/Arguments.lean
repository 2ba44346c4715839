import AccountLending.CommandLine.Words
import AccountLending.Lending.Reclamation

/-!
# Arguments

The arguments of the program: options that hold for every command, a command, and the command's own
options.  The settings file may be named before or after the command, or in the environment; what
stands after the command counts first, and the environment last.

* `Invocation.ofWords` — the command that words ask for, or how reading them ends.
-/

namespace AccountLending.CommandLine

/-- What the program is asked to do. -/
inductive Command
  | assign (payer user : String) (account : Option String)
  | list (payer : String) (user account : Option String) (pretty : Bool)
  | unassign (payer : String) (target : Lending.ReclaimTarget) (yes : Bool)
  deriving DecidableEq, Repr

/-- A command, the settings file it is to use, and whether the log is shown. -/
structure Invocation where
  config : Option String
  debug : Bool
  command : Command
  deriving DecidableEq, Repr

/-! ## Options -/

/-- The options that hold for every command. -/
def commonOptions : List Opt :=
  [{ setting := .config, long := "config" },
   { setting := .debug, long := "debug", letter := 'd', hasValue := false },
   { setting := .help, long := "help", letter := 'h', hasValue := false }]

/-- The options before the command. -/
def rootOptions : List Opt :=
  commonOptions ++ [{ setting := .version, long := "version", letter := 'V', hasValue := false }]

/-- The option that names a payer. -/
def payerOption : Opt := { setting := .payer, long := "payer-account", letter := 'p' }

/-- The option that names a user, under a name of the command's own. -/
def userOption (long : String) : Opt := { setting := .user, long, letter := 'u' }

/-- The option that names an account. -/
def accountOption : Opt := { setting := .account, long := "account-id", letter := 'a' }

/-- The options of lending an account. -/
def assignOptions : List Opt :=
  commonOptions ++ [payerOption, userOption "username", accountOption]

/-- The options of looking up owners. -/
def listOptions : List Opt :=
  commonOptions ++ [payerOption, userOption "user", accountOption,
    { setting := .pretty, long := "pretty", hasValue := false }]

/-- The options of taking accounts back. -/
def unassignOptions : List Opt :=
  commonOptions ++ [payerOption, userOption "username", accountOption,
    { setting := .yes, long := "yes", letter := 'y', hasValue := false }]

/-! ## Commands -/

/-- The value of an option that must be given. -/
def requiredValue (reading : Reading) (setting : Setting) : Except Stop String :=
  match reading.value? setting with
  | some value => .ok value
  | none => .error .misuse

/-- The request to lend an account. -/
def assignCommand (reading : Reading) : Except Stop Command := do
  return .assign (← requiredValue reading .payer) (← requiredValue reading .user)
    (reading.value? .account)

/-- The request to look up owners: of an account or by a user, but not both. -/
def listCommand (reading : Reading) : Except Stop Command := do
  let payer ← requiredValue reading .payer
  if reading.has .user ∧ reading.has .account then .error .misuse
  else return .list payer (reading.value? .user) (reading.value? .account) (reading.has .pretty)

/-- The request to take accounts back: one account or those of a user, but not both. -/
def unassignCommand (reading : Reading) : Except Stop Command := do
  let payer ← requiredValue reading .payer
  match reading.value? .user, reading.value? .account with
  | some user, none => return .unassign payer (.user user) (reading.has .yes)
  | none, some account => return .unassign payer (.account account) (reading.has .yes)
  | _, _ => .error .misuse

/-- The options of a command, and how they make a request. -/
def commandOf? (name : String) : Option (List Opt × (Reading → Except Stop Command)) :=
  if name = "assign" then some (assignOptions, assignCommand)
  else if name = "list" then some (listOptions, listCommand)
  else if name = "unassign" then some (unassignOptions, unassignCommand)
  else none

/-- How reading ends when help is asked for by a command: at most one command may be named. -/
def helpOn : List String → Stop
  | [] => .help
  | [name] => if name = "help" ∨ (commandOf? name).isSome then .help else .misuse
  | _ => .misuse

/-- The settings file that the options at one place name, where the environment may name it if they
do not. -/
def configAt (reading : Reading) (environment : Option String) : Except Stop (Option String) :=
  match reading.value? .config, environment with
  | some path, _ => .ok (some path)
  | none, some "" => .error .misuse
  | none, path => .ok path

namespace Invocation

/-- The command that words ask for, where the environment may name the settings file. -/
def ofWords (environment : Option String) (words : List String) : Except Stop Invocation := do
  let (before, name, rest) ← readUntilPlain rootOptions {} words
  if name = "help" then .error (helpOn rest)
  else match commandOf? name with
    | none => .error .misuse
    | some (opts, commandOf) => do
      let after ← readAll opts {} rest
      let command ← commandOf after
      -- the environment is looked at in both places, since an empty name is an error in either
      let _ ← configAt after environment
      -- an option still open before the command is settled only now, after the command's own words
      let before ← before.settle
      let outer ← configAt before environment
      return {
        config := (after.value? .config).or outer
        debug := after.has .debug || before.has .debug
        command }

end Invocation

end AccountLending.CommandLine
