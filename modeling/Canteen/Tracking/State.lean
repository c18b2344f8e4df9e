import Canteen.Order
import Canteen.Request

set_option autoImplicit false

namespace Canteen.Tracking

-- A failed fetch only lays an error over the last good values.
structure State where
  orderId : String
  status : Option Order.Status
  etaMinutes : Option UInt32
  loading : Bool
  error : Option String
  reauthRequired : Bool
deriving DecidableEq, Repr

namespace State

def initial (orderId : String) : State :=
  { orderId, status := none, etaMinutes := none, loading := true, error := none,
    reauthRequired := false }

def isTerminal (state : State) : Bool := state.status.any Order.Status.isTerminal

-- A terminal state is never touched again.
def applyRecord (state : State) (record : Order.Record) : State :=
  if state.isTerminal then state
  else
    { state with
      status := some record.status
      etaMinutes := some record.etaMinutes
      loading := false
      error := none
      reauthRequired := false }

def applyError (state : State) (error : RequestError) : State :=
  if state.isTerminal then state
  else { state with error := some error.message, reauthRequired := error.requiresReauth }

theorem applyRecord_of_terminal (state : State) (record : Order.Record)
    (terminal : state.isTerminal = true) : state.applyRecord record = state := by
  simp [applyRecord, terminal]

theorem applyRecord_of_open (state : State) (record : Order.Record)
    (running : state.isTerminal = false) :
    state.applyRecord record =
      { state with
        status := some record.status
        etaMinutes := some record.etaMinutes
        loading := false
        error := none
        reauthRequired := false } := by
  simp [applyRecord, running]

theorem applyError_of_terminal (state : State) (error : RequestError)
    (terminal : state.isTerminal = true) : state.applyError error = state := by
  simp [applyError, terminal]

theorem applyError_of_open (state : State) (error : RequestError)
    (running : state.isTerminal = false) :
    state.applyError error =
      { state with error := some error.message, reauthRequired := error.requiresReauth } := by
  simp [applyError, running]

end State

inductive Update where
  | record (record : Order.Record)
  | error (error : RequestError)
deriving DecidableEq, Repr

namespace State

def apply (state : State) : Update → State
  | .record record => state.applyRecord record
  | .error error => state.applyError error

def update (state : State) (update : Update) : Bool × State :=
  if state.isTerminal then (false, state)
  else
    let next := state.apply update
    (next ≠ state, next)

theorem apply_of_terminal (state : State) (update : Update)
    (terminal : state.isTerminal = true) : state.apply update = state := by
  cases update with
  | record record => exact applyRecord_of_terminal state record terminal
  | error error => exact applyError_of_terminal state error terminal

theorem update_eq (state : State) (update : Update) :
    state.update update = (decide (state.apply update ≠ state), state.apply update) := by
  cases terminal : state.isTerminal with
  | true => simp [State.update, terminal, apply_of_terminal]
  | false => simp [State.update, terminal]

end State

end Canteen.Tracking
