import Canteen.Rehearsal.World

set_option autoImplicit false

namespace Canteen.Rehearsal.World

variable {R : Type}

def exchange (world : World R) (owner : Owner) (request : Outgoing) (limit : Nat)
    (next : Exchanged → Flow (Finish R)) : World R ⊕ (Exchanged × World R) :=
  let (reception, server) := world.server.receive
  let world := { world with server, arrivals := world.arrivals ++ [⟨world.now, request⟩] }
  let later (world : World R) (exchanged : Exchanged) (delay : Nat) :=
    world.post (world.now + delay) owner.rank (.resume owner (next exchanged))
  match reception with
  | .settled answer =>
      let (exchanged, wait) := answer.within limit
      if exchanged.isSome ∧ wait = 0 then .inr (exchanged, world)
      else .inl (later world exchanged wait)
  | .cooking latency =>
      if latency ≤ limit then
        .inl (world.post (world.now + latency) owner.rank
          (.serve owner request (world.now + limit) next))
      else .inl (later world none limit)

def finish (world : World R) : Finish R → World R
  | .step strand outcome => world.report strand outcome
  | .placed strand outcome orderId =>
      { world with lastOrder := orderId <|> world.lastOrder }.report strand outcome
  | .fetch watch seq outcome => world.soon .behind (.arrive watch seq outcome)
  | .shut strand => { world with closed := true }.report strand .nothing
  | .reopen strand opening =>
      match opening with
      | none => world.reopened.report strand .nothing
      | some flow =>
          world.reopened.soon .onward
            (.resume .actor (flow.bind fun _ => .done (.step strand .nothing)))

def proceed (owner : Owner) : Flow (Finish R) → World R → World R
  | .done finish, world => world.finish finish
  | .perform (.read key) next, world => proceed owner (next (world.shelf.get key)) world
  | .perform (.write key value) next, world =>
      let (delay, shelf) := world.shelf.beginSet
      if delay = 0 then
        let (result, shelf) := shelf.finishSet world.now key value
        proceed owner (next result) { world with shelf }
      else
        { world with shelf }.post (world.now + delay) owner.rank (.store owner key value next)
  | .perform (.erase key) next, world =>
      let (result, shelf) := world.shelf.delete world.now key
      proceed owner (next result) { world with shelf }
  | .perform (.exchange request limit) next, world =>
      match world.exchange owner request limit next with
      | .inl world => world
      | .inr (exchanged, world) => proceed owner (next exchanged) world
  | .perform (.pause millis) next, world =>
      world.post (world.now + millis) owner.rank (.resume owner (next ()))
  | .perform (.ask request) next, world =>
      if world.closed then proceed owner (next (.error .closed)) world
      else
        let letter : Letter R := { owner, request, next }
        { world with mailbox := world.mailbox ++ [letter] }.soon .behind .attend
  | .perform (.announce notice) next, world =>
      proceed owner (next ()) { world with board := world.board.publish notice }

def resume (world : World R) (owner : Owner) (flow : Flow (Finish R)) : World R :=
  if world.isAlive owner then proceed owner flow world else world

def endStore (world : World R) (owner : Owner) (key value : String)
    (next : Except StoreError Unit → Flow (Finish R)) : World R :=
  if world.isAlive owner then
    let (result, shelf) := world.shelf.finishSet world.now key value
    proceed owner (next result) { world with shelf }
  else world

def endServe (world : World R) (owner : Owner) (request : Outgoing) (deadline : Nat)
    (next : Exchanged → Flow (Finish R)) : World R :=
  match world.server.serve? world.now request with
  | some response => world.resume owner (next (some (.ok response)))
  | none => world.post deadline owner.rank (.resume owner (next none))

end Canteen.Rehearsal.World
