import AccountLending.Cloud.Gateway
import AccountLending.Wire.Sending
import AccountLending.World

/-!
# A world behind its services' interface

A program that sends its requests can be run in a world as well: what it sends is answered by the
cloud in memory, as far as it can be sent with the credentials of the payer that the host has.

* `World.serveSent` — how each call of such a program is answered.
-/

namespace AccountLending.World

/-- Answer a call of a program that sends its requests. -/
def serveSent (call : Client.Call) (world : World) : call.Reply × World :=
  match call with
  | .send sent =>
    if sent.isSendable world.host.payer then
      let (reply, cloud) := world.cloud.send sent
      (reply, { world with cloud })
    else (.error Wire.unsent, world)
  | .host request =>
    let (reply, host) := Host.serve request world.host
    (reply, { world with host })

end AccountLending.World
