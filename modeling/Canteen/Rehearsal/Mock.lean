import Canteen.Config
import Canteen.Flow
import Canteen.Store

set_option autoImplicit false

namespace Canteen.Rehearsal

structure Answer where
  reply : Option (Except LinkError Response)
  delay : Nat := 0

-- A reply that comes exactly at the limit is in time.
def Answer.within (answer : Answer) (limit : Nat) : Exchanged × Nat :=
  match answer.reply with
  | none => (none, limit)
  | some reply => if answer.delay ≤ limit then (some reply, answer.delay) else (none, limit)

inductive WallClock where
  | manual (clock : Clock)
  | running (start : Nat)

def WallClock.now (wall : WallClock) (time : Nat) : UInt64 :=
  match wall with
  | .manual clock => clock.now
  | .running start => UInt64.ofNat (start + time)

def WallClock.turn (wall : WallClock) (turn : Clock → Clock) : WallClock :=
  match wall with
  | .manual clock => .manual (turn clock)
  | .running start => .running start

inductive Server where
  | scripted (answers : List Answer)
  | simulated (kitchen : Kitchen) (wall : WallClock)
  | offline

structure Arrival where
  time : Nat
  request : Outgoing

inductive Reception where
  | settled (answer : Answer)
  | cooking (latency : Nat)

def unreachable (reason : String) : Answer := { reply := some (.error (.unreachable reason)) }

namespace Server

-- One answer for each request, in the order of their arrival.
def receive (server : Server) : Reception × Server :=
  match server with
  | .scripted [] => (.settled (unreachable "script exhausted"), .scripted [])
  | .scripted (answer :: rest) => (.settled answer, .scripted rest)
  | .simulated kitchen wall => (.cooking kitchen.latency, .simulated kitchen wall)
  | .offline => (.settled (unreachable "no network"), .offline)

def serve? (server : Server) (time : Nat) (request : Outgoing) : Option Response :=
  match server with
  | .scripted _ => none
  | .offline => none
  | .simulated kitchen wall => kitchen.respond? (wall.now time) request

-- There is no server behind a real address here.
def ofConfig (config : Config) (wall : WallClock) : Server :=
  match config.server.mode with
  | .simulated => .simulated config.kitchen wall
  | .real => .offline

def turnClock (server : Server) (turn : Clock → Clock) : Server :=
  match server with
  | .scripted answers => .scripted answers
  | .offline => .offline
  | .simulated kitchen wall => .simulated kitchen (wall.turn turn)

end Server

structure Mock where
  expected : List Answer := []
  requests : List Outgoing := []

namespace Mock

def expect (mock : Mock) (answer : Answer) : Mock :=
  { mock with expected := mock.expected ++ [answer] }

def send (mock : Mock) (request : Outgoing) : Except String Answer × Mock :=
  let mock := { mock with requests := mock.requests ++ [request] }
  match mock.expected with
  | [] => (.error ("Unexpected request: " ++ request.method.text ++ " " ++ request.url), mock)
  | answer :: rest => (.ok answer, { mock with expected := rest })

def verify (mock : Mock) : Except String Unit :=
  if mock.expected.isEmpty then .ok ()
  else
    .error ("Not all expectations were met. " ++ toString mock.expected.length ++ " remaining")

end Mock

structure Faults where
  get : List String := []
  set : List String := []
  delete : List String := []

inductive Written where
  | set (key value : String)
  | delete (key : String)
deriving DecidableEq, Repr

structure LogEntry where
  time : Nat
  written : Written
deriving DecidableEq, Repr

-- The delays are those of the writes to come.
structure Shelf where
  store : Store
  faults : Faults := {}
  delays : List Nat := []
  log : List LogEntry := []

namespace Shelf

def get (shelf : Shelf) (key : String) : Except StoreError (Option String) :=
  if key ∈ shelf.faults.get then .error (.refused "scripted get failure") else shelf.store.get key

def beginSet (shelf : Shelf) : Nat × Shelf :=
  (shelf.delays.head?.getD 0, { shelf with delays := shelf.delays.tail })

def record (shelf : Shelf) (now : Nat) (written : Written) : Shelf :=
  { shelf with log := shelf.log ++ [⟨now, written⟩] }

def finishSet (shelf : Shelf) (now : Nat) (key value : String) : Except StoreError Unit × Shelf :=
  let shelf := shelf.record now (.set key value)
  if key ∈ shelf.faults.set then (.error (.refused "scripted set failure"), shelf)
  else
    let (result, store) := shelf.store.set key value
    (result, { shelf with store })

def delete (shelf : Shelf) (now : Nat) (key : String) : Except StoreError Unit × Shelf :=
  let shelf := shelf.record now (.delete key)
  if key ∈ shelf.faults.delete then (.error (.refused "scripted delete failure"), shelf)
  else
    let (result, store) := shelf.store.delete key
    (result, { shelf with store })

def takeLog (shelf : Shelf) : List LogEntry × Shelf := (shelf.log, { shelf with log := [] })

end Shelf

end Canteen.Rehearsal
