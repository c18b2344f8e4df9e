import Canteen.Tracking.State

set_option autoImplicit false

namespace Canteen.Tracking

inductive Phase where
  | idle
  | running
  | finished
  | disposed
deriving DecidableEq, Repr

inductive Outcome where
  | record (record : Order.Record)
  | failed (error : RequestError)
  | crashed
deriving DecidableEq, Repr

/-- Keeps asking for one order until the order is terminal. Fetches are numbered from 1 as they
start and may end in any order. -/
structure Poller where
  state : State
  period : Nat
  issued : Nat := 0
  applied : Nat := 0
  nextTick : Nat := 0
  retryAsked : Bool := false
  phase : Phase := .idle
deriving DecidableEq, Repr

namespace Poller

def shortestPeriod : Nat := 1

def start (orderId : String) (interval : Nat) : Poller :=
  { state := .initial orderId, period := max interval shortestPeriod }

def isActive (poller : Poller) : Bool := poller.phase = .idle ∨ poller.phase = .running

def issue (poller : Poller) : Poller := { poller with issued := poller.issued + 1 }

def begin (poller : Poller) (now : Nat) : Poller :=
  if poller.phase = .idle then
    issue { poller with phase := .running, nextTick := now + poller.period }
  else poller

def tick (poller : Poller) : Poller :=
  if poller.phase = .running then issue { poller with nextTick := poller.nextTick + poller.period }
  else poller

-- Further requests count only after that fetch has started.
def askRetry (poller : Poller) : Bool × Poller :=
  if poller.isActive then (true, { poller with retryAsked := true }) else (false, poller)

def takeRetry (poller : Poller) : Poller :=
  if poller.phase = .running ∧ poller.retryAsked then issue { poller with retryAsked := false }
  else poller

-- Only a success makes older results stale.
def arrive (poller : Poller) (seq : Nat) (outcome : Outcome) : Poller :=
  if poller.phase ≠ .running ∨ seq < poller.applied then poller
  else
    match outcome with
    | .record record =>
        { poller with
          state := poller.state.applyRecord record
          applied := seq
          phase := if record.status.isTerminal then .finished else .running }
    | .failed error => { poller with state := poller.state.applyError error }
    | .crashed => poller

def dispose (poller : Poller) : Poller :=
  if poller.isActive then { poller with phase := .disposed } else poller

def ending? (poller : Poller) : Option (Option State) :=
  if poller.state.isTerminal then some (some poller.state)
  else if poller.isActive then none
  else some none

theorem arrive_issued (poller : Poller) (seq : Nat) (outcome : Outcome) :
    (poller.arrive seq outcome).issued = poller.issued := by
  simp only [arrive]
  split
  · rfl
  · cases outcome <;> rfl

end Poller

end Canteen.Tracking
