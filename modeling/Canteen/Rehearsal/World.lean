import Canteen.Cart.Desk
import Canteen.Client.Shop
import Canteen.Flow
import Canteen.Rehearsal.Mock
import Canteen.Tracking.Poller

set_option autoImplicit false

namespace Canteen.Rehearsal

inductive TrackerStep where
  | state
  | retry
  | dispose
  | drop
  | await (limit : Nat)
  | journal

inductive Step (R : Type) where
  | act (flow : Flow R)
  | place (flow : Flow (R × Option String))
  | followUp (flow : String → Flow R)
  | writes
  | arrivals
  | notices
  | turnClock (turn : Clock → Clock)
  | track (name : String) (orderId : Option String)
  | tracker (name : String) (step : TrackerStep)
  | both (delay : Nat) (first : Step R) (rest : List (Step R))
  | shutdown
  | restart (opening : Option (Flow Unit))

inductive Outcome (R : Type) where
  | nothing
  | report (r : R)
  | noOrder
  | writes (log : List LogEntry)
  | arrivals (log : List Arrival)
  | notices (received : List Notice.Received)
  | state (state : Tracking.State) (active : Bool)
  | retried (accepted : Bool)
  | ending (state : Option Tracking.State)
  | stillWaiting
  | dropped
  | journal (entries : List (Nat × Tracking.State))
  | both (time : Nat) (first : Outcome R) (rest : List (Nat × Outcome R))

/-- Who goes first among those that are due at the same time: an actor that goes on with its next
step, then what runs behind the scenes, then the journals, then whoever was waiting. -/
inductive Rank where
  | onward
  | behind
  | journal
  | waiting
deriving DecidableEq, Repr

def Rank.level : Rank → Nat
  | .onward => 0
  | .behind => 1
  | .journal => 2
  | .waiting => 3

structure Due (α : Type) where
  time : Nat
  rank : Rank
  what : α

abbrev Agenda (α : Type) := List (Due α)

namespace Agenda

variable {α : Type}

def comesBefore (first second : Due α) : Bool :=
  first.time < second.time ∨
    (first.time = second.time ∧ first.rank.level < second.rank.level)

-- Entries that are equal in time and rank keep the order in which they were added.
def add (new : Due α) : Agenda α → Agenda α
  | [] => [new]
  | entry :: rest =>
      if comesBefore new entry then new :: entry :: rest else entry :: add new rest

theorem mem_add (agenda : Agenda α) (new entry : Due α) :
    entry ∈ add new agenda ↔ entry = new ∨ entry ∈ agenda := by
  induction agenda with
  | nil => simp [add]
  | cons first rest ih =>
    simp only [add]
    split
    · simp
    · simp only [List.mem_cons, ih]
      constructor
      · rintro (h | h | h) <;> simp [h]
      · rintro (h | h | h) <;> simp [h]

end Agenda

inductive Finish (R : Type) where
  | step (strand : Nat) (outcome : Outcome R)
  | placed (strand : Nat) (outcome : Outcome R) (orderId : Option String)
  | fetch (watch seq : Nat) (outcome : Tracking.Outcome)
  | shut (strand : Nat)
  | reopen (strand : Nat) (opening : Option (Flow Unit))

inductive Owner where
  | actor
  | watch (index : Nat)
deriving DecidableEq, Repr

def Owner.rank : Owner → Rank
  | .actor => .waiting
  | .watch _ => .behind

inductive Action (R : Type) where
  | advance (strand : Nat)
  | resume (owner : Owner) (flow : Flow (Finish R))
  | store (owner : Owner) (key value : String)
      (next : Except StoreError Unit → Flow (Finish R))
  | serve (owner : Owner) (request : Outgoing) (deadline : Nat)
      (next : Exchanged → Flow (Finish R))
  | attend
  | pickUp
  | written (raw : String)
  | poll (watch : Nat)
  | tick (watch : Nat)
  | arrive (watch seq : Nat) (outcome : Tracking.Outcome)
  | journal (watch : Nat)
  | giveUp (watch strand : Nat) (ticket : Nat)

structure Letter (R : Type) where
  owner : Owner
  request : Cart.Request
  next : Except CartError request.Reply → Flow (Finish R)

structure Meeting where
  parent : Nat
  first : Nat
  rest : Nat

structure Strand (R : Type) where
  todo : List (Step R)
  results : List (Nat × Outcome R) := []
  meeting : Option Meeting := none
  ended : Bool := false

structure Fetch where
  outcome : Option Tracking.Outcome
  delay : Nat := 0

inductive Source where
  | orders
  | scripted (fetches : List Fetch)

-- The last entry of a script is repeated.
def Source.takeFetch : List Fetch → Fetch × List Fetch
  | [] => (⟨none, 0⟩, [])
  | [last] => (last, [last])
  | first :: rest => (first, rest)

structure Waiter where
  strand : Nat
  ticket : Nat
deriving DecidableEq

structure Watch where
  name : String
  poller : Tracking.Poller
  source : Source
  calls : List Nat := []
  journal : List (Nat × Tracking.State) := []
  unread : Bool := false
  waiters : List Waiter := []
  dropped : Bool := false

structure World (R : Type) where
  now : Nat := 0
  config : Config
  shelf : Shelf
  server : Server
  arrivals : List Arrival := []
  desk : Cart.Desk := {}
  mailbox : List (Letter R) := []
  closed : Bool := false
  board : Notice.Board := .standard
  reading : Notice.Reading := Notice.Board.standard.subscribe
  agenda : Agenda (Action R) := []
  strands : Array (Strand R) := #[]
  watches : Array Watch := #[]
  tickets : Nat := 0
  lastOrder : Option String := none

namespace World

variable {R : Type}

def post (world : World R) (time : Nat) (rank : Rank) (action : Action R) : World R :=
  { world with agenda := Agenda.add { time, rank, what := action } world.agenda }

def soon (world : World R) (rank : Rank) (action : Action R) : World R :=
  world.post world.now rank action

def modifyStrand (world : World R) (i : Nat) (f : Strand R → Strand R) : World R :=
  { world with strands := world.strands.modify i f }

def modifyWatch (world : World R) (i : Nat) (f : Watch → Watch) : World R :=
  { world with watches := world.watches.modify i f }

def addStrand (world : World R) (strand : Strand R) : Nat × World R :=
  (world.strands.size, { world with strands := world.strands.push strand })

def report (world : World R) (strand : Nat) (outcome : Outcome R) : World R :=
  (world.modifyStrand strand fun s => { s with results := s.results ++ [(world.now, outcome)] }).soon
    .onward (.advance strand)

-- The fetches of a tracker that has stopped are given up.
def isAlive (world : World R) : Owner → Bool
  | .actor => true
  | .watch i => (world.watches[i]?).any (·.poller.phase = .running)

def reopened (world : World R) : World R :=
  { world with
    desk := {}
    mailbox := []
    closed := false
    board := .standard
    reading := Notice.Board.standard.subscribe }

end World

end Canteen.Rehearsal
