import AccountLending.World

/-!
# Interference

Other parties work on the same organization.  What they do between two calls of a program is an
interference: a change of the cloud that happens just before a call which is named by its entry and
by how many calls of that entry the program has made.

* `Contested.run` — run a program in a world with interferences.
-/

namespace AccountLending

/-- A change of the cloud just before the `nth` call of an entry, counted from one. -/
structure Interference where
  entry : String
  nth : Nat
  act : Cloud → Cloud

/-- A world with interferences, and the calls to the organization made so far by their entries. -/
structure Contested where
  world : World
  interferences : List Interference := []
  made : Dict Nat := Dict.empty

namespace Contested

/-- How many calls of an entry have been made. -/
def count (contested : Contested) (entry : String) : Nat := (contested.made.get? entry).getD 0

/-- Count a call to the organization, and let happen what happens just before it. -/
def approach (contested : Contested) (entry : String) : Contested :=
  let nth := contested.count entry + 1
  let due := contested.interferences.filter fun i => i.entry = entry && i.nth = nth
  { contested with
    world := { contested.world with
      cloud := due.foldl (fun cloud interference => interference.act cloud) contested.world.cloud }
    made := contested.made.insert entry nth }

/-- Answer a call. -/
def serve (call : Call) (contested : Contested) : call.Reply × Contested :=
  let approached := match call with
    | .cloud (.organization request) => contested.approach request.entry
    | _ => contested
  let (reply, world) := World.serve call approached.world
  (reply, { approached with world })

/-- Run a program. -/
def run {α : Type} (program : Engine α) (contested : Contested) : α × Contested :=
  program.run serve contested

end Contested

end AccountLending
