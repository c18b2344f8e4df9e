import Canteen.Rehearsal.Backroom

set_option autoImplicit false

namespace Canteen.Rehearsal

namespace World

variable {R : Type}

def findWatch? (world : World R) (name : String) : Option Nat :=
  world.watches.findIdx? fun watch => watch.name = name ∧ !watch.dropped

def disposeWatch (world : World R) (i : Nat) : World R :=
  (world.modifyWatch i fun w => { w with poller := w.poller.dispose }).tellWaiters i

def startWatch (world : World R) (name orderId : String) (interval : Nat) (source : Source) :
    World R :=
  let world :=
    match world.findWatch? name with
    | some i => (world.disposeWatch i).modifyWatch i fun w => { w with dropped := true }
    | none => world
  let i := world.watches.size
  let watch : Watch := { name, poller := .start orderId interval, source }
  { world with watches := world.watches.push watch }.soon .behind (.poll i)

def trackerStep (world : World R) (strand : Nat) (i : Nat) (watch : Watch) :
    TrackerStep → World R
  | .state => world.report strand (.state watch.poller.state watch.poller.isActive)
  | .retry =>
      let (accepted, poller) := watch.poller.askRetry
      let world := world.modifyWatch i fun w => { w with poller }
      (if accepted then world.soon .behind (.poll i) else world).report strand (.retried accepted)
  | .dispose => (world.disposeWatch i).report strand .nothing
  | .drop =>
      ((world.disposeWatch i).modifyWatch i fun w => { w with dropped := true }).report strand
        .nothing
  | .await limit =>
      if watch.poller.state.isTerminal then
        world.report strand (.ending (some watch.poller.state))
      else
        let waiter : Waiter := ⟨strand, world.tickets⟩
        let world := { world with tickets := world.tickets + 1 }
        let world := world.modifyWatch i fun w => { w with waiters := w.waiters ++ [waiter] }
        (world.post (world.now + limit) .waiting (.giveUp i strand waiter.ticket)).tellWaiters i
  | .journal =>
      (world.modifyWatch i fun w => { w with journal := [] }).report strand (.journal watch.journal)

def trackerStepByName (world : World R) (strand : Nat) (name : String) (step : TrackerStep) :
    World R :=
  let named := (world.watches.toList.zipIdx.filter fun (watch, _) => watch.name = name).getLast?
  match named with
  | none => world.report strand .dropped
  | some (watch, i) =>
      match watch.dropped, step with
      | true, .journal => world.trackerStep strand i watch .journal
      | true, _ => world.report strand .dropped
      | false, step => world.trackerStep strand i watch step

def closing : Flow Unit := do
  let _ ← Flow.ask .flush
  let _ ← Flow.ask .flush
  return ()

def perform (world : World R) (strand : Nat) : Step R → World R
  | .act flow => proceed .actor (flow.bind fun r => .done (.step strand (.report r))) world
  | .place flow =>
      proceed .actor (flow.bind fun (r, id) => .done (.placed strand (.report r) id)) world
  | .followUp flow =>
      match world.lastOrder with
      | some id => proceed .actor ((flow id).bind fun r => .done (.step strand (.report r))) world
      | none => world.report strand .noOrder
  | .writes =>
      let (log, shelf) := world.shelf.takeLog
      { world with shelf }.report strand (.writes log)
  | .arrivals => { world with arrivals := [] }.report strand (.arrivals world.arrivals)
  | .notices =>
      let (received, reading) := world.board.drain world.reading
      { world with reading }.report strand (.notices received)
  | .turnClock turn => { world with server := world.server.turnClock turn }.report strand .nothing
  | .track name orderId =>
      match orderId <|> world.lastOrder with
      | some id =>
          (world.startWatch name id world.config.pollInterval.toNat .orders).report strand .nothing
      | none => world.report strand .noOrder
  | .tracker name step => world.trackerStepByName strand name step
  | .both delay first rest =>
      let a := world.strands.size
      let meeting := some ⟨strand, a, a + 1⟩
      let (_, world) := world.addStrand { todo := [first], meeting }
      let (_, world) := world.addStrand { todo := rest, meeting }
      (world.soon .onward (.advance a)).post (world.now + delay) .waiting (.advance (a + 1))
  | .shutdown => proceed .actor (closing.bind fun () => .done (.shut strand)) world
  | .restart opening =>
      proceed .actor (closing.bind fun () => .done (.reopen strand opening)) world

def meet? (world : World R) (meeting : Meeting) : Option (Outcome R) := do
  let first ← world.strands[meeting.first]?
  let rest ← world.strands[meeting.rest]?
  if first.ended ∧ rest.ended then
    let (time, outcome) ← first.results.head?
    return .both time outcome rest.results
  else none

def advance (world : World R) (i : Nat) : World R :=
  match world.strands[i]? with
  | none => world
  | some strand =>
      match strand.todo with
      | step :: todo => (world.modifyStrand i fun s => { s with todo }).perform i step
      | [] =>
          let world := world.modifyStrand i fun s => { s with ended := true }
          match strand.meeting with
          | none => world
          | some meeting =>
              match world.meet? meeting with
              | some outcome => world.report meeting.parent outcome
              | none => world

def react (world : World R) : Action R → World R
  | .advance strand => world.advance strand
  | .resume owner flow => world.resume owner flow
  | .store owner key value next => world.endStore owner key value next
  | .serve owner request deadline next => world.endServe owner request deadline next
  | .attend => world.attend
  | .pickUp => world.pickUp
  | .written raw => world.endWrite raw
  | .poll i => world.updatePoller i fun poller => (poller.begin world.now).takeRetry
  | .tick i => world.updatePoller i Tracking.Poller.tick
  | .arrive i seq outcome => world.arrive i seq outcome
  | .journal i => world.writeJournal i
  | .giveUp i strand ticket => world.giveUp i strand ticket

def hasEnded (world : World R) : Bool := (world.strands[0]?).all (·.ended)

def next? (world : World R) : Option (World R) :=
  match world.agenda with
  | [] => none
  | due :: agenda => some ({ world with agenda, now := max world.now due.time }.react due.what)

def run : Nat → World R → World R
  | 0, world => world
  | fuel + 1, world =>
      if world.hasEnded then world
      else
        match world.next? with
        | none => world
        | some world => run fuel world

end World

def patience : Nat := 1000000000000000

def rehearse {R : Type} (world : World R) (steps : List (Step R)) : World R :=
  let (strand, world) := world.addStrand { todo := steps }
  (world.soon .onward (.advance strand)).run patience

def World.results {R : Type} (world : World R) : List (Nat × Outcome R) :=
  ((world.strands[0]?).map (·.results)).getD []

end Canteen.Rehearsal
