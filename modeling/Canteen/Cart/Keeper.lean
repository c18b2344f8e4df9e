import Canteen.Cart.Line
import Canteen.Cart.Snapshot
import Canteen.Store

set_option autoImplicit false

namespace Canteen.Cart

structure View where
  lines : List Line
  hydrated : Bool
deriving DecidableEq, Repr

structure Keeper where
  lines : List Line := []
  hydrated : Bool := false
  changed : Bool := false
deriving DecidableEq, Repr

inductive Request where
  | change (change : Change)
  | view
  | hydrate
  | flush
deriving DecidableEq, Repr

abbrev Request.Reply : Request → Type
  | .change _ => List Line
  | .view => View
  | .hydrate => List Line
  | .flush => Unit

abbrev Lookup := Except StoreError (Option String)

def restored : Lookup → List Line
  | .ok (some raw) => Snapshot.decode raw
  | .ok none => []
  | .error _ => []

namespace Keeper

def view (keeper : Keeper) : View := { lines := keeper.lines, hydrated := keeper.hydrated }

def change (keeper : Keeper) (change : Change) : Keeper :=
  { keeper with lines := change.apply keeper.lines, changed := true }

-- Only an untouched cart is hydrated from the store, and only once.
def asksStore (keeper : Keeper) : Bool := !keeper.hydrated && !keeper.changed

def hydrate (keeper : Keeper) (stored : Lookup) : Keeper :=
  if keeper.asksStore then { keeper with hydrated := true, lines := restored stored }
  else { keeper with hydrated := true }

-- `stored` is what the store holds under the cart's key.
def handle (keeper : Keeper) (stored : Lookup) : (request : Request) → Keeper × request.Reply
  | .change change => (keeper.change change, (keeper.change change).lines)
  | .view => (keeper, keeper.view)
  | .hydrate => (keeper.hydrate stored, (keeper.hydrate stored).lines)
  | .flush => (keeper, ())

theorem hydrate_hydrated (keeper : Keeper) (stored : Lookup) :
    (keeper.hydrate stored).hydrated = true := by
  simp only [hydrate]
  split <;> rfl

end Keeper

end Canteen.Cart
