import AccountLending.Cloud.Services
import AccountLending.Engine
import AccountLending.Host.Desk

/-!
# The cloud and a host, together

A world in which programs can be run without any network: a cloud in memory and a host in memory.

* `World.run` — run a program in a world;
* `World.perform` — run an action in a world.
-/

namespace AccountLending

/-- A cloud and a host. -/
structure World where
  cloud : Cloud
  host : Host := {}

namespace World

/-- Answer a call. -/
def serve (call : Call) (world : World) : call.Reply × World :=
  match call with
  | .cloud request =>
    let (reply, cloud) := Cloud.serve request world.cloud
    (reply, { world with cloud })
  | .host request =>
    let (reply, host) := Host.serve request world.host
    (reply, { world with host })

/-- Run a program. -/
def run {α : Type} (program : Engine α) (world : World) : α × World := program.run serve world

/-- Run an action. -/
def perform {α : Type} (action : Action α) (world : World) : Except PoolError α × World :=
  run action.run world

end World

end AccountLending
