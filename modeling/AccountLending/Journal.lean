import AccountLending.Dict

/-!
# Services that keep a journal

A service in memory is a state, the list of the calls made to it, and the set of calls that are
registered to fail.  A call is recorded whether it fails or not; one that fails leaves the state
alone.
-/

namespace AccountLending

/-- A state with the calls made to it, the first one first, and the entries of the calls that
fail. -/
structure Journaled (σ κ : Type) where
  state : σ
  calls : List κ := []
  failing : NameSet := Dict.empty

namespace Journaled

variable {σ κ : Type}

/-- Make all calls with an entry fail. -/
def failOn (service : Journaled σ κ) (entry : String) : Journaled σ κ :=
  { service with failing := service.failing.add entry }

/-- Whether calls with an entry fail. -/
def fails (service : Journaled σ κ) (entry : String) : Bool := service.failing.contains entry

/-- Record a call. -/
def record (service : Journaled σ κ) (call : κ) : Journaled σ κ :=
  { service with calls := service.calls ++ [call] }

/-- Change the state without a call. -/
def modify (service : Journaled σ κ) (f : σ → σ) : Journaled σ κ :=
  { service with state := f service.state }

@[simp] theorem calls_record (service : Journaled σ κ) (call : κ) :
    (service.record call).calls = service.calls ++ [call] := rfl

@[simp] theorem state_record (service : Journaled σ κ) (call : κ) :
    (service.record call).state = service.state := rfl

@[simp] theorem state_modify (service : Journaled σ κ) (f : σ → σ) :
    (service.modify f).state = f service.state := rfl

end Journaled

end AccountLending
