import AccountLending.Host.Directory
import AccountLending.Host.Request
import AccountLending.Host.Token

/-!
# A host in memory

A host whose clock stands still, whose log and outputs are kept, and whose tokens are numbered.
Whether its standard input is a terminal, what has been typed there, what the operator answers and
which files there are is set in advance.
-/

namespace AccountLending

/-- A host in memory. -/
structure Host where
  log : List Log.Line := []
  /-- How many tokens have been given out. -/
  tokens : Nat := 0
  clock : Nat := 0
  /-- What the operator answers to a question. -/
  answer : String → Bool := fun _ => true
  questions : List String := []
  output : String := ""
  errors : String := ""
  /-- What has been typed on the terminal, if the standard input is one. -/
  terminal : Option Host.Terminal := none
  files : Host.Directory := {}
  /-- Whether a payer has credentials. -/
  hasCredentials : Payer → Bool := fun _ => true
  /-- The payer whose credentials the caller has made its own. -/
  payer : Option Payer := none

namespace Host

/-- Answer a request. -/
def serve : (request : Request) → Host → request.Answer × Host
  | .log line, host => ((), { host with log := host.log ++ [line] })
  | .freshToken, host => (Token.ofBits host.tokens, { host with tokens := host.tokens + 1 })
  | .now, host => (host.clock, host)
  | .pause _, host => ((), host)
  | .confirm question, host =>
    (host.answer question, { host with questions := host.questions ++ [question] })
  | .print text, host => ((), { host with output := host.output ++ text })
  | .say text, host => ((), { host with errors := host.errors ++ text })
  | .isInteractive, host => (host.terminal.isSome, host)
  | .readLine, host =>
    match host.terminal with
    | none => (some "", host)
    | some terminal =>
      let (line, rest) := terminal.readLine
      (line, { host with terminal := some rest })
  | .readFile path, host => (host.files.read path, host)
  | .connect payer, host =>
    if host.hasCredentials payer then (true, { host with payer }) else (false, host)

end Host

end AccountLending
