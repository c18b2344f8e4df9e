import Canteen.Cart.Desk
import Canteen.Proofs.Cart.Proper

set_option autoImplicit false

namespace Canteen.Cart

namespace Desk

theorem receive_keeper (desk : Desk) (stored : Lookup) (request : Request) :
    (desk.receive stored request).1.keeper = (desk.keeper.handle stored request).1 := by
  cases request with
  | change change => rfl
  | view => rfl
  | hydrate => rfl
  | flush =>
    unfold receive
    dsimp only
    split <;> rfl

theorem receive_writer (desk : Desk) (stored : Lookup) (request : Request) :
    (desk.receive stored request).1.writer =
      match request with
      | .change change => desk.writer.submit (desk.keeper.change change).lines
      | _ => desk.writer := by
  cases request with
  | change change => rfl
  | view => rfl
  | hydrate => rfl
  | flush =>
    unfold receive
    dsimp only
    split <;> rfl

theorem settled_of_receive_flush {desk : Desk} {stored : Lookup}
    (answered : (desk.receive stored .flush).2 = some ()) : desk.writer.isSettled = true := by
  unfold receive at answered
  dsimp only at answered
  split at answered
  · assumption
  · cases answered

theorem settled_of_release? {desk next : Desk} (released : desk.release? = some next) :
    desk.writer.isSettled = true ∧ next.keeper = desk.keeper ∧ next.writer = desk.writer := by
  unfold release? at released
  split at released
  · rename_i waiting
    obtain rfl := Option.some.inj released
    exact ⟨waiting.2, rfl, rfl⟩
  · cases released

theorem take?_eq_some {desk next : Desk} {raw : String} (taken : desk.take? = some (raw, next)) :
    desk.writer.taken ≤ desk.writer.written ∧ desk.writer.taken < desk.writer.submitted ∧
      raw = Snapshot.encode desk.writer.latest ∧
      next = { desk with writer := { desk.writer with taken := desk.writer.submitted } } := by
  unfold take? Writer.take? at taken
  split at taken
  · cases taken
  · rename_i free
    obtain ⟨rfl, rfl⟩ := Prod.mk.inj (Option.some.inj taken)
    simp only [Writer.isWriting, decide_eq_true_eq, not_or, Nat.not_lt, Nat.not_le] at free
    exact ⟨free.1, free.2, rfl, rfl⟩

end Desk

inductive Phase where
  | serving
  | closing
  | closed
deriving DecidableEq, Repr

/-- The desk at work, with what the store holds of the cart and the books of all that happened:
the requests handled, the lines after each change, every text handed to the store, those of them
that the store is still busy with, and how the others ended. -/
structure Service where
  desk : Desk := {}
  phase : Phase := .serving
  stored : Lookup
  handled : List (Lookup × Request) := []
  submitted : List (List Line) := []
  handed : List String := []
  underway : List String := []
  ended : List (String × Except StoreError Unit) := []

namespace Service

inductive Event where
  | receive (found : Lookup) (request : Request)
  | answer
  | take
  | finish (raw : String) (result : Except StoreError Unit) (stored : Lookup)
  | hangUp
  | leave

def receive (service : Service) (found : Lookup) (request : Request) : Service :=
  { service with
    desk := (service.desk.receive found request).1
    handled := service.handled ++ [(found, request)]
    submitted := service.submitted ++
      match request with
      | .change change => [change.apply service.desk.keeper.lines]
      | _ => [] }

def handOver (service : Service) (raw : String) (desk : Desk) : Service :=
  { service with
    desk, handed := service.handed ++ [raw], underway := service.underway ++ [raw] }

def finish (service : Service) (raw : String) (result : Except StoreError Unit)
    (stored : Lookup) : Service :=
  { service with
    desk := service.desk.finish
    stored
    underway := service.underway.erase raw
    ended := service.ended ++ [(raw, result)] }

/-- Keeper, writer and store take turns in any order. A read may answer anything, and so may a
write that fails; the desk closes when nobody is left to ask, and the writer then leaves as soon as
it has nothing in hand and has seen the newest snapshot. -/
inductive Step : Service → Event → Service → Prop where
  | receive (service : Service) (found : Lookup) (request : Request)
      (serving : service.phase = .serving) (free : service.desk.flushing = false) :
      Step service (.receive found request) (service.receive found request)
  | answer (service : Service) {desk : Desk} (released : service.desk.release? = some desk) :
      Step service .answer { service with desk }
  | take (service : Service) {raw : String} {desk : Desk}
      (taken : service.desk.take? = some (raw, desk)) :
      Step service .take (service.handOver raw desk)
  | finish (service : Service) {raw : String} {result : Except StoreError Unit} {stored : Lookup}
      (begun : raw ∈ service.underway) (kept : result = .ok () → stored = .ok (some raw)) :
      Step service (.finish raw result stored) (service.finish raw result stored)
  | hangUp (service : Service) (serving : service.phase = .serving)
      (free : service.desk.flushing = false) :
      Step service .hangUp { service with phase := .closing }
  | leave (service : Service) (closing : service.phase = .closing)
      (idle : service.underway = [])
      (seen : service.desk.writer.submitted ≤ service.desk.writer.taken) :
      Step service .leave { service with phase := .closed }

inductive Run (initial : Lookup) : List Event → Service → Prop where
  | start : Run initial [] { stored := initial }
  | next {events : List Event} {event : Event} {service later : Service}
      (before : Run initial events service) (step : Step service event later) :
      Run initial (events ++ [event]) later

end Service

end Canteen.Cart
