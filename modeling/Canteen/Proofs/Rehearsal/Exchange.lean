import Canteen.Rehearsal.Fiber

set_option autoImplicit false

namespace Canteen.Rehearsal

-- The server is given for every moment, as its clock may be turned meanwhile.
def Server.exchange (server : Nat → Server) (now : Nat) (request : Outgoing) (limit : Nat) :
    Exchanged × Nat :=
  match (server now).receive.1 with
  | .settled answer => ((answer.within limit).1, now + (answer.within limit).2)
  | .cooking latency =>
      if latency ≤ limit then
        match (server (now + latency)).serve? (now + latency) request with
        | some response => (some (.ok response), now + latency)
        | none => (none, now + limit)
      else (none, now + limit)

namespace World

variable {R : Type} {server : Nat → Server} {owner : Owner} {next : Exchanged → Flow (Finish R)}
  {world : World R} {request : Outgoing} {limit : Nat}

inductive Awaits (server : Nat → Server) (owner : Owner) (next : Exchanged → Flow (Finish R))
    (world : World R) : Exchanged × Nat → World R ⊕ (Exchanged × World R) → Prop where
  | answered {exchanged : Exchanged} :
      Awaits server owner next world (exchanged, world.now) (.inr (exchanged, world))
  | settled {exchanged : Exchanged} {time : Nat} :
      Awaits server owner next world (exchanged, time)
        (.inl (world.post time owner.rank (.resume owner (next exchanged))))
  | served {response : Response} {request : Outgoing} {ready deadline : Nat}
      (serves : ∀ later : World R, later.now = ready → later.server = server ready →
        later.endServe owner request deadline next =
          later.resume owner (next (some (.ok response)))) :
      Awaits server owner next world (some (.ok response), ready)
        (.inl (world.post ready owner.rank (.serve owner request deadline next)))
  | unserved {request : Outgoing} {ready deadline : Nat}
      (silent : ∀ later : World R, later.now = ready → later.server = server ready →
        later.endServe owner request deadline next =
          later.post deadline owner.rank (.resume owner (next none))) :
      Awaits server owner next world (none, deadline)
        (.inl (world.post ready owner.rank (.serve owner request deadline next)))

theorem exchange_awaits (here : world.server = server world.now) :
    Awaits server owner next
      { world with
        server := world.server.receive.2
        arrivals := world.arrivals ++ [⟨world.now, request⟩] }
      (Server.exchange server world.now request limit)
      (world.exchange owner request limit next) := by
  unfold Server.exchange World.exchange
  rw [← here]
  cases reception : world.server.receive with
  | mk received rest =>
    cases received with
    | settled answer =>
      dsimp only
      by_cases atOnce : (answer.within limit).1.isSome ∧ (answer.within limit).2 = 0
      · rw [if_pos atOnce, atOnce.2]
        exact .answered
      · rw [if_neg atOnce]
        exact .settled
    | cooking latency =>
      dsimp only
      by_cases punctual : latency ≤ limit
      · rw [if_pos punctual, if_pos punctual]
        cases served : (server (world.now + latency)).serve? (world.now + latency) request with
        | some response =>
          apply Awaits.served
          intro later time same
          simp [endServe, time, same, served]
        | none =>
          apply Awaits.unserved
          intro later time same
          simp [endServe, time, same, served]
      · rw [if_neg punctual, if_neg punctual]
        exact .settled

end World

end Canteen.Rehearsal
