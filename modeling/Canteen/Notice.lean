set_option autoImplicit false

namespace Canteen

inductive Notice.Level where
  | info
  | error
deriving DecidableEq, Repr

structure Notice where
  level : Notice.Level
  message : String
  ttl : Nat
deriving DecidableEq, Repr

namespace Notice

def defaultTtl : Nat := 1400

def info (message : String) : Notice := ⟨.info, message, defaultTtl⟩
def error (message : String) : Notice := ⟨.error, message, defaultTtl⟩

-- Oldest first; `sent` counts all that were ever put up.
structure Board where
  capacity : Nat
  sent : Nat
  kept : List Notice

structure Reading where
  position : Nat
deriving DecidableEq, Repr

inductive Received where
  | notice (n : Notice)
  | lagged (missed : Nat)
  | empty
deriving DecidableEq, Repr

namespace Board

-- Room is made in powers of two.
def create (capacity : Nat) : Board :=
  { capacity := (max capacity 1).nextPowerOfTwo, sent := 0, kept := [] }

def standard : Board := create 16

def publish (board : Board) (notice : Notice) : Board :=
  let kept := board.kept ++ [notice]
  { board with sent := board.sent + 1, kept := kept.drop (kept.length - board.capacity) }

def subscribe (board : Board) : Reading := ⟨board.sent⟩

/-- A reader who fell too far behind is told once how much is gone, and goes on with the oldest
notice still up. -/
def receive (board : Board) (reading : Reading) : Received × Reading :=
  let oldest := board.sent - board.kept.length
  if reading.position < oldest then (.lagged (oldest - reading.position), ⟨oldest⟩)
  else
    match board.kept[reading.position - oldest]? with
    | some notice => (.notice notice, ⟨reading.position + 1⟩)
    | none => (.empty, reading)

-- Everything there is to read, at most one report of a gap and then the notices still up.
def drain (board : Board) (reading : Reading) : List Received × Reading :=
  let oldest := board.sent - board.kept.length
  let gap := if reading.position < oldest then [.lagged (oldest - reading.position)] else []
  (gap ++ (board.kept.drop (reading.position - oldest)).map .notice, ⟨board.sent⟩)

end Board

end Notice

end Canteen
