import Canteen.Order

set_option autoImplicit false

namespace Canteen.Cart

structure Line extends Product where
  qty : UInt32
deriving DecidableEq, Repr

def Line.subtotal (line : Line) : UInt64 :=
  capped64 (line.price.toNat * line.qty.toNat)

def Line.withdraw (line : Line) (units : Nat) : Line :=
  { line with qty := UInt32.ofNat (line.qty.toNat - units) }

def Line.raise (line : Line) : Line :=
  { line with qty := capped32 (line.qty.toNat + 1) }

theorem Line.qty_withdraw (line : Line) (units : Nat) :
    (line.withdraw units).qty.toNat = line.qty.toNat - units := by
  have bound := line.qty.toNat_lt
  simp only [withdraw, UInt32.toNat_ofNat']
  exact Nat.mod_eq_of_lt (by omega)

theorem Line.withdraw_zero (line : Line) : line.withdraw 0 = line := by
  simp [withdraw]

def total (lines : List Line) : UInt64 :=
  lines.foldl (fun sum line => capped64 (sum.toNat + line.subtotal.toNat)) 0

def itemCount (lines : List Line) : Nat :=
  lines.foldr (fun line rest => line.qty.toNat + rest) 0

def orderRequest (lines : List Line) : Order.Request :=
  { items := lines.map fun line => { id := line.id, qty := line.qty } }

inductive Change where
  | add (product : Product)
  | increase (id : String)
  | decrease (id : String)
  | clear
  | removeOrdered (order : Order.Request)
deriving DecidableEq, Repr

def increase (lines : List Line) (id : String) : List Line :=
  lines.map fun line => if line.id = id then line.raise else line

-- A product already in the cart keeps its place, name and price.
def add (lines : List Line) (product : Product) : List Line :=
  if lines.any (·.id = product.id) then increase lines product.id
  else lines ++ [{ product with qty := 1 }]

def dropEmpty (lines : List Line) : List Line := lines.filter (0 < ·.qty)

def decrease (lines : List Line) (id : String) : List Line :=
  dropEmpty (lines.map fun line => if line.id = id then line.withdraw 1 else line)

def removeOrdered (lines : List Line) (order : Order.Request) : List Line :=
  dropEmpty (lines.map fun line => line.withdraw (order.units line.id))

def Change.apply (lines : List Line) : Change → List Line
  | .add product => Cart.add lines product
  | .increase id => Cart.increase lines id
  | .decrease id => Cart.decrease lines id
  | .clear => []
  | .removeOrdered order => Cart.removeOrdered lines order

theorem mem_dropEmpty {lines : List Line} {line : Line} :
    line ∈ dropEmpty lines ↔ line ∈ lines ∧ 0 < line.qty := by
  simp [dropEmpty]

end Canteen.Cart
