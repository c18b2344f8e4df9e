import Canteen.Cart.Keeper
import Canteen.Cart.Snapshot

set_option autoImplicit false

namespace Canteen.Cart

/-- Stores the cart behind the customer's back, one snapshot at a time. Snapshots are numbered
from 1; those submitted during a write give way to the newest of them. -/
structure Writer where
  submitted : Nat := 0
  latest : List Line := []
  taken : Nat := 0
  written : Nat := 0
deriving DecidableEq, Repr

namespace Writer

def isWriting (writer : Writer) : Bool := writer.written < writer.taken

def submit (writer : Writer) (lines : List Line) : Writer :=
  { writer with submitted := writer.submitted + 1, latest := lines }

def take? (writer : Writer) : Option (String × Writer) :=
  if writer.isWriting ∨ writer.submitted ≤ writer.taken then none
  else some (Snapshot.encode writer.latest, { writer with taken := writer.submitted })

-- A write that failed is done too: nothing is tried twice.
def finish (writer : Writer) : Writer := { writer with written := writer.taken }

def isSettled (writer : Writer) : Bool := writer.submitted ≤ writer.written

end Writer

/-- The keeper with its writer. While a flush waits for the writer no other request is handled. -/
structure Desk where
  keeper : Keeper := {}
  writer : Writer := {}
  flushing : Bool := false
deriving DecidableEq, Repr

namespace Desk

def receive (desk : Desk) (stored : Lookup) (request : Request) : Desk × Option request.Reply :=
  let (keeper, reply) := desk.keeper.handle stored request
  match request with
  | .change _ => ({ desk with keeper, writer := desk.writer.submit keeper.lines }, some reply)
  | .view => ({ desk with keeper }, some reply)
  | .hydrate => ({ desk with keeper }, some reply)
  | .flush =>
      if desk.writer.isSettled then (desk, some reply) else ({ desk with flushing := true }, none)

def release? (desk : Desk) : Option Desk :=
  if desk.flushing ∧ desk.writer.isSettled then some { desk with flushing := false } else none

def take? (desk : Desk) : Option (String × Desk) :=
  desk.writer.take?.map fun (raw, writer) => (raw, { desk with writer })

def finish (desk : Desk) : Desk := { desk with writer := desk.writer.finish }

end Desk

end Canteen.Cart
