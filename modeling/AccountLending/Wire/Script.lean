import AccountLending.Client
import AccountLending.Host.Desk
import AccountLending.Wire.Format

/-!
# Services whose replies are written down

A script is a list of replies, each the document of an output or of a fault, that are given one
after the other whatever is asked.  It records what was asked, and when it has run out every request
is answered by the same fault.  A request that cannot be sent takes no reply and is not recorded.

* `Script.run` — run a program that sends its requests.
-/

namespace AccountLending

/-- The replies that are left and the requests that have been made, the first one first. -/
structure Script where
  replies : List Json
  requests : List Wire.Request := []
  /-- The answer when no reply is left. -/
  exhausted : Fault

namespace Script

/-- Answer a request by the next reply. -/
def next (request : Wire.Request) (script : Script) :
    Except Fault (Wire.Output request.request) × Script :=
  if request.isSignable then
    let asked := { script with requests := script.requests ++ [request] }
    match script.replies with
    | [] => (.error script.exhausted, asked)
    | reply :: rest => (Wire.replyOf reply request.request, { asked with replies := rest })
  else (.error Wire.unsent, script)

/-- Answer a call. -/
def serve (call : Client.Call) (state : Script × Host) : call.Reply × (Script × Host) :=
  match call with
  | .send request =>
    let (reply, script) := state.1.next request
    (reply, (script, state.2))
  | .host request =>
    let (reply, host) := Host.serve request state.2
    (reply, (state.1, host))

/-- Run a program. -/
def run {α : Type} (program : Client α) (script : Script) (host : Host) : α × (Script × Host) :=
  program.run serve (script, host)

end Script

end AccountLending
