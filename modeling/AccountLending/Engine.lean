import AccountLending.Cloud.Request
import AccountLending.Host.Request
import AccountLending.PoolError
import AccountLending.Program

/-!
# Programs over the cloud and the host

The operations of this library are programs that call the cloud and the host.  A call to the cloud
is answered or fails with a `ServiceError`; a call to the host is always answered.  An `Engine`
program runs to a value, an `Action` runs to a value or a `PoolError`.
-/

namespace AccountLending

/-- A call of a program. -/
inductive Call
  | cloud (request : Cloud.Request)
  | host (request : Host.Request)
  deriving DecidableEq

/-- How a call is answered. -/
@[reducible] def Call.Reply : Call → Type
  | .cloud request => Except ServiceError request.Answer
  | .host request => request.Answer

/-- A program over the cloud and the host. -/
abbrev Engine := Program Call Call.Reply

/-- A program that may fail. -/
abbrev Action := ExceptT PoolError Engine

namespace Engine

/-- Make one call. -/
def perform (call : Call) : Engine call.Reply := .call call .done

/-- Make a request to the host. -/
def host (request : Host.Request) : Engine request.Answer := perform (.host request)

/-- Write a line to the log. -/
def log (level : Log.Level) (message : String) : Engine Unit := host (.log ⟨level, message⟩)

/-- Make a request to the IAM of the account that a session belongs to. -/
def iam (session : Session) (request : Iam.Request) : Engine (Except ServiceError request.Answer) :=
  perform (.cloud (.iam (some session) request))

end Engine

namespace Action

/-- Make a request to the host. -/
def host (request : Host.Request) : Action request.Answer := ExceptT.lift (Engine.host request)

/-- Write a line to the log. -/
def log (level : Log.Level) (message : String) : Action Unit :=
  ExceptT.lift (Engine.log level message)

/-- Run an action for its value or its failure, and do not fail. -/
def result {α : Type} (action : Action α) : Action (Except PoolError α) := ExceptT.lift action.run

/-- Make a request to the cloud; when it fails, so does the action. -/
def cloud (request : Cloud.Request) : Action request.Answer :=
  ExceptT.mk do return (← Engine.perform (.cloud request)).mapError .service

/-- Make a request to the organization. -/
def organization (request : Organization.Request) : Action request.Answer :=
  cloud (.organization request)

/-- Make a request about the caller's identity. -/
def identity (request : Identity.Request) : Action request.Answer :=
  cloud (.identity request)

end Action

end AccountLending
