import Canteen.Rehearsal.Fiber

set_option autoImplicit false

namespace Canteen.Rehearsal.World

variable {R : Type}

def attendAll : List (Letter R) → World R → World R
  | [], world => { world with mailbox := [] }
  | letter :: rest, world =>
      if world.desk.flushing then { world with mailbox := letter :: rest }
      else
        let (desk, reply) := world.desk.receive (world.shelf.get Cart.Snapshot.key) letter.request
        let world := ({ world with desk }.soon .behind .pickUp)
        match reply with
        | some reply =>
            attendAll rest
              (world.soon letter.owner.rank (.resume letter.owner (letter.next (.ok reply))))
        | none => { world with mailbox := letter :: rest }

def attend (world : World R) : World R :=
  let world := { world with desk := (world.desk.release?).getD world.desk }
  attendAll world.mailbox world

def endWrite (world : World R) (raw : String) : World R :=
  let (_, shelf) := world.shelf.finishSet world.now Cart.Snapshot.key raw
  ({ world with shelf, desk := world.desk.finish }.soon .behind .pickUp).soon .behind .attend

def pickUp (world : World R) : World R :=
  match world.desk.take? with
  | none => world
  | some (raw, desk) =>
      let (delay, shelf) := world.shelf.beginSet
      let world := { world with desk, shelf }
      if delay = 0 then world.endWrite raw else world.post (world.now + delay) .behind (.written raw)

def startFetch (world : World R) (i seq : Nat) : World R :=
  match world.watches[i]? with
  | none => world
  | some watch =>
      let world := world.modifyWatch i fun w => { w with calls := w.calls ++ [world.now] }
      match watch.source with
      | .orders =>
          let flow := (Client.order world.config.server watch.poller.state.orderId).bind fun result =>
            .done (.fetch i seq
              (match result with
                | .ok record => .record record
                | .error error => .failed error))
          world.soon .behind (.resume (.watch i) flow)
      | .scripted fetches =>
          let (fetch, rest) := Source.takeFetch fetches
          let world := world.modifyWatch i fun w => { w with source := .scripted rest }
          match fetch.outcome with
          | some outcome => world.post (world.now + fetch.delay) .behind (.arrive i seq outcome)
          | none => world

def updatePoller (world : World R) (i : Nat) (update : Tracking.Poller → Tracking.Poller) :
    World R :=
  match world.watches[i]? with
  | none => world
  | some watch =>
      let poller := update watch.poller
      let world := world.modifyWatch i fun w => { w with poller }
      let issued := List.range' (watch.poller.issued + 1) (poller.issued - watch.poller.issued)
      let world := issued.foldl (fun world seq => world.startFetch i seq) world
      if poller.nextTick ≠ watch.poller.nextTick then
        world.post poller.nextTick .behind (.tick i)
      else world

def tellWaiters (world : World R) (i : Nat) : World R :=
  match world.watches[i]? with
  | none => world
  | some watch =>
      match watch.poller.ending? with
      | none => world
      | some ending =>
          let world := world.modifyWatch i fun w => { w with waiters := [] }
          watch.waiters.foldl
            (fun world waiter =>
              world.soon .waiting
                (.resume .actor (.done (.step waiter.strand (.ending ending)))))
            world

def arrive (world : World R) (i seq : Nat) (outcome : Tracking.Outcome) : World R :=
  match world.watches[i]? with
  | none => world
  | some watch =>
      let poller := watch.poller.arrive seq outcome
      let changed : Bool := poller.state ≠ watch.poller.state
      let world := world.modifyWatch i fun w =>
        { w with poller, unread := w.unread || changed }
      (if changed then world.soon .journal (.journal i) else world).tellWaiters i

-- Several changes within one moment make one entry.
def writeJournal (world : World R) (i : Nat) : World R :=
  world.modifyWatch i fun w =>
    if w.unread then
      { w with unread := false, journal := w.journal ++ [(world.now, w.poller.state)] }
    else w

def giveUp (world : World R) (i strand ticket : Nat) : World R :=
  match world.watches[i]? with
  | none => world
  | some watch =>
      let waiter : Waiter := ⟨strand, ticket⟩
      if waiter ∈ watch.waiters then
        (world.modifyWatch i fun w => { w with waiters := w.waiters.erase waiter }).report strand
          .stillWaiting
      else world

end Canteen.Rehearsal.World
