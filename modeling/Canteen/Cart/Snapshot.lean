import Canteen.Json.Printer
import Canteen.Payload.Menu

set_option autoImplicit false

namespace Canteen.Cart.Snapshot

open Json

def key : String := "sc_cart"

def encode (lines : List Line) : String :=
  (Value.array (lines.map fun line => .object (Payload.lineFields line))).text

def price (value : Option Value) : UInt64 :=
  match value.bind Value.number? with
  | some n => if n.toDouble.isBelowZero then 0 else capped64 n.toDouble.round
  | none => 0

-- Only the id and the quantity have no default.
def line? (entry : Value) : Option Line := do
  let id ← (← entry.field? "id").string?
  let qty ← (← entry.field? "qty").number?
  if qty.toDouble.isBelowZero then none
  else
    return {
      id
      name := ((entry.field? "name").bind Value.string?).getD ""
      price := price (entry.field? "price")
      qty := capped32 qty.toDouble.floor
      available := ((entry.field? "available").bind Value.bool?).getD true }

def merge (lines : List Line) (line : Line) : List Line :=
  if line.qty = 0 then lines
  else if lines.any (·.id = line.id) then
    lines.map fun old =>
      if old.id = line.id then { old with qty := capped32 (old.qty.toNat + line.qty.toNat) } else old
  else lines ++ [line]

def ofEntries? (entries : List Value) : Option (List Line) :=
  (entries.mapM line?).map fun lines => lines.foldl merge []

-- One bad entry spoils the whole snapshot: half a cart would be worse than none.
def decode (raw : String) : List Line :=
  match Value.ofText? raw with
  | some (.array entries) => (ofEntries? entries).getD []
  | _ => []

end Canteen.Cart.Snapshot
