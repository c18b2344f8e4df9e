set_option autoImplicit false

namespace Canteen

-- Money and quantities stop at the largest word; a total never wraps around to a small one.
def capped32 (n : Nat) : UInt32 := UInt32.ofNat (min n (UInt32.size - 1))

def capped64 (n : Nat) : UInt64 := UInt64.ofNat (min n (UInt64.size - 1))

theorem toNat_capped32 (n : Nat) : (capped32 n).toNat = min n (UInt32.size - 1) := by
  have small : min n (UInt32.size - 1) < UInt32.size := by
    simp only [UInt32.size]
    omega
  simp only [capped32, UInt32.toNat_ofNat']
  exact Nat.mod_eq_of_lt small

theorem toNat_capped64 (n : Nat) : (capped64 n).toNat = min n (UInt64.size - 1) := by
  have small : min n (UInt64.size - 1) < UInt64.size := by
    simp only [UInt64.size]
    omega
  simp only [capped64, UInt64.toNat_ofNat']
  exact Nat.mod_eq_of_lt small

theorem capped32_toNat (q : UInt32) : capped32 q.toNat = q := by
  apply UInt32.toNat_inj.mp
  have bound := q.toNat_lt_size
  rw [toNat_capped32]
  omega

structure Product where
  id : String
  name : String
  price : UInt64
  available : Bool
deriving DecidableEq, Repr

namespace Order

inductive Status where
  | queued
  | inProgress
  | ready
  | completed
  | cancelled
deriving DecidableEq, Repr

def Status.text : Status → String
  | .queued => "QUEUED"
  | .inProgress => "IN_PROGRESS"
  | .ready => "READY"
  | .completed => "COMPLETED"
  | .cancelled => "CANCELLED"

def Status.all : List Status := [.queued, .inProgress, .ready, .completed, .cancelled]

def Status.ofText? (text : String) : Option Status := all.find? (·.text = text)

theorem Status.ofText?_text (status : Status) : ofText? status.text = some status := by
  cases status <;> decide

def Status.timeline : List Status := [.queued, .inProgress, .ready, .completed]

def Status.timelineIndex? (status : Status) : Option Nat := timeline.idxOf? status

def Status.isTerminal : Status → Bool
  | .queued | .inProgress => false
  | .ready | .completed | .cancelled => true

structure Entry where
  id : String
  qty : UInt32
deriving DecidableEq, Repr

structure Request where
  items : List Entry
deriving DecidableEq, Repr

def Request.isEmpty (request : Request) : Bool := request.items.isEmpty

def Request.units (request : Request) (id : String) : Nat :=
  (request.items.filter (·.id = id)).foldr (fun entry rest => entry.qty.toNat + rest) 0

theorem Request.units_of_absent (request : Request) (id : String)
    (absent : ∀ entry ∈ request.items, entry.id ≠ id) : request.units id = 0 := by
  have empty : request.items.filter (·.id = id) = [] := by
    simpa [List.filter_eq_nil_iff] using absent
  simp [units, empty]

structure Record where
  orderId : String
  status : Status
  etaMinutes : UInt32
  createdAt : Option UInt64
deriving DecidableEq, Repr

end Order

end Canteen
