import Canteen.Client.Shop
import Canteen.Proofs.Client.Attempts
import Canteen.Proofs.Client.Placement
import Canteen.Proofs.Kitchen.Answers
import Canteen.Proofs.Rehearsal.Exchange

set_option autoImplicit false

namespace Canteen.Client

open Json (Value Reader)
open Rehearsal (Server WallClock)

-- The store may say something else whenever it is asked. The state is the time.
def practice (config : Config) (wall : Nat → WallClock) (stored : Nat → String → Cart.Lookup) :
    Flow.Surroundings Nat where
  reply
    | .read key, now => (stored now key, now)
    | .write _ _, now => (.ok (), now)
    | .erase _, now => (.ok (), now)
    | .exchange request limit, now =>
        Server.exchange (fun time => .ofConfig config (wall time)) now request limit
    | .pause millis, now => ((), now + millis)
    | .ask _, now => (.error .closed, now)
    | .announce _, now => ((), now)

structure Practising (config : Config) : Prop where
  simulated : config.server.mode = .simulated
  sound : config.simulation.failure = none
  punctual : config.simulation.latencyMs ≤ config.server.timeoutMs

def servedAt (config : Config) (start : Nat) : Nat := start + config.simulation.latencyMs.toNat

def reading (config : Config) (wall : Nat → WallClock) (start : Nat) : UInt64 :=
  (wall (servedAt config start)).now (servedAt config start)

variable {config : Config} {wall : Nat → WallClock} {stored : Nat → String → Cart.Lookup}
  {call : Call} {start : Nat}

theorem Practising.exchange_reply (practising : Practising config) (request : Outgoing)
    (wall : Nat → WallClock) (stored : Nat → String → Cart.Lookup) (start : Nat) :
    (practice config wall stored).reply (.exchange request config.server.timeoutMs.toNat) start =
      (some (.ok (Kitchen.serve (reading config wall start) request)), servedAt config start) := by
  have quick : config.simulation.latencyMs.toNat ≤ config.server.timeoutMs.toNat :=
    practising.punctual
  simp [practice, Server.exchange, Server.ofConfig, Server.receive, Server.serve?, Config.kitchen,
    Kitchen.respond?, practising.simulated, practising.sound, quick, reading, servedAt]

theorem Practising.attempt_run (practising : Practising config) (call : Call)
    (wall : Nat → WallClock) (stored : Nat → String → Cart.Lookup) (start : Nat) :
    ∃ token, (attempt config.server call).run (practice config wall stored) start =
      ((Kitchen.serve (reading config wall start) (outgoing config.server call token)).interpret,
        servedAt config start) := by
  have idle (key : String) (now : Nat) :
      ((practice config wall stored).reply (.read key) now).2 = now := rfl
  obtain ⟨token, ran⟩ := attempt_exchange config.server call idle start
  rw [practising.exchange_reply] at ran
  exact ⟨token, ran⟩

theorem Practising.send_run (practising : Practising config) {result : Except RequestError Value}
    (answered : ∀ token, (Kitchen.serve (reading config wall start)
      (outgoing config.server call token)).interpret = result)
    (final : ∀ error, result = .error error → error.isRetryable = false) :
    (send config.server call).run (practice config wall stored) start =
      (result, servedAt config start) := by
  obtain ⟨token, ran⟩ := practising.attempt_run call wall stored start
  rw [answered] at ran
  exact attempts_conclusive ran final

theorem Practising.fetch_run (practising : Practising config) {α : Type} (what : String)
    (read : Reader α) {result : Except RequestError Value}
    (answered : ∀ token, (Kitchen.serve (reading config wall start)
      (outgoing config.server call token)).interpret = result)
    (final : ∀ error, result = .error error → error.isRetryable = false) :
    (fetch config.server what read call).run (practice config wall stored) start =
      (result.bind (decode what read), servedAt config start) := by
  rw [fetch_eq, Flow.run_bind, practising.send_run answered final]
  rfl

theorem orderFault?_eq_none {order : Order.Request} (filled : order.items ≠ [])
    (positive : ∀ entry ∈ order.items, 0 < entry.qty) : orderFault? order = none := by
  have counted : order.items.find? (·.qty = 0) = none := by
    rw [List.find?_eq_none]
    intro entry member
    simpa using (UInt32.pos_iff_ne_zero.mp (positive entry member))
  simp [orderFault?, Order.Request.isEmpty, filled, counted]

theorem decode_of_read {α : Type} (what : String) {read : Reader α} {payload : Value} {a : α}
    (reads : read payload = .ok a) : decode what read payload = .ok a := by
  rw [decode, reads]

theorem Practising.createOrder_run (practising : Practising config) {order : Order.Request}
    (filled : order.items ≠ []) (positive : ∀ entry ∈ order.items, 0 < entry.qty) :
    (createOrder config.server order).run (practice config wall stored) start =
      (.ok (Kitchen.accepted (reading config wall start)), servedAt config start) := by
  have answered (token : Option String) : (Kitchen.serve (reading config wall start)
      (outgoing config.server (createCall order) token)).interpret =
        .ok (.ofFields (Payload.recordFields (Kitchen.accepted (reading config wall start)))) := by
    rw [Kitchen.serve_placing rfl rfl rfl filled]
    exact Kitchen.interpret_answer (by decide) _
  have read := decode_of_read "order"
    (Payload.tells_recordFields (Kitchen.accepted (reading config wall start))).readCreatedOrder_eq
  unfold createOrder
  rw [orderFault?_eq_none filled positive]
  dsimp only
  rw [practising.fetch_run "order" Payload.readCreatedOrder answered (by simp)]
  exact congrArg (·, _) read

-- What the customer hears of an order, known or not.
def report (id : String) (now : UInt64) : Except RequestError Order.Record :=
  match Kitchen.progress? id now with
  | some record => .ok record
  | none => .error (.rejected 404 (some "Not found"))

theorem Practising.order_run (practising : Practising config) {id : String}
    (single : '/' ∉ id.toList) :
    (order config.server id).run (practice config wall stored) start =
      (report id (reading config wall start), servedAt config start) := by
  have answered (token : Option String) : (Kitchen.serve (reading config wall start)
      (outgoing config.server (orderCall config.server id) token)).interpret =
        (Kitchen.reportOrder (reading config wall start) id).interpret := by
    rw [Kitchen.serve_inquiry rfl rfl single]
  have said := Kitchen.interpret_reportOrder (reading config wall start) id
  unfold order report
  cases known : Kitchen.progress? id (reading config wall start) with
  | some record =>
    rw [known] at said
    have read := (Payload.tells_recordFields record).readOrderRecord_eq
    rw [practising.fetch_run "order status" Payload.readOrderRecord answered (by simp [said]), said]
    exact congrArg (·, _) (decode_of_read "order status" read)
  | none =>
    rw [known] at said
    have final : RequestError.isRetryable (.rejected 404 (some "Not found")) = false := by decide
    rw [practising.fetch_run "order status" Payload.readOrderRecord answered (by simp [said, final]),
      said]
    rfl

/-- Whatever the clock reads, an order placed is an order found, and the kitchen's own record comes
through to the customer. -/
theorem orders_match_progress (practising : Practising config) (wall : Nat → WallClock)
    (stored : Nat → String → Cart.Lookup) :
    (∀ (request : Order.Request) (start : Nat), request.items ≠ [] →
      (∀ entry ∈ request.items, 0 < entry.qty) → ∃ record,
        (createOrder config.server request).run (practice config wall stored) start =
          (.ok record, servedAt config start) ∧
        Kitchen.progress? (toString (reading config wall start).toNat)
          (reading config wall start) = some record ∧
        ∀ later, ∃ known,
          (order config.server record.orderId).run (practice config wall stored) later =
            (.ok known, servedAt config later) ∧
          Kitchen.progress? record.orderId (reading config wall later) = some known) ∧
    ∀ (id : String) (start : Nat), '/' ∉ id.toList → Kitchen.numeral? id = none →
      (order config.server id).run (practice config wall stored) start =
        (.error (.rejected 404 (some "Not found")), servedAt config start) := by
  constructor
  · intro request start filled positive
    refine ⟨_, practising.createOrder_run filled positive, Kitchen.progress?_toString _, ?_⟩
    intro later
    have single := Kitchen.slash_not_mem_toString (reading config wall start).toNat
    have named := Kitchen.numeral?_toString (reading config wall start)
    obtain ⟨known, found⟩ := Option.isSome_iff_exists.mp
      (Kitchen.progress?_isSome named (reading config wall later))
    refine ⟨known, ?_, found⟩
    have same : report (toString (reading config wall start).toNat) (reading config wall later) =
        .ok known := by
      rw [report, found]
    rw [← same]
    exact practising.order_run single
  · intro id start single nameless
    have unknown : report id (reading config wall start) =
        .error (.rejected 404 (some "Not found")) := by
      rw [report, Kitchen.progress?_eq_none nameless]
    rw [← unknown]
    exact practising.order_run single

-- As slow as its clients allow. Nobody asks for its address.
def lunch : Config :=
  { server := { baseUrl := "", pathInset := some "api//v1", timeoutMs := 350 } }

theorem practising_lunch : Practising lunch := ⟨rfl, rfl, by decide⟩

def noon : Nat → WallClock := fun _ => .running 1700000000000

theorem orders_match_progress_lunch :
    (createOrder lunch.server { items := [{ id := "1", qty := 2 }] }).run
        (practice lunch noon fun _ _ => .ok none) 0 =
      (.ok ⟨"1700000000350", .queued, 12, some 1700000000350⟩, 350) ∧
    (order lunch.server "1700000000350").run (practice lunch noon fun _ _ => .ok none) 8000 =
      (.ok ⟨"1700000000350", .inProgress, 8, some 1700000000350⟩, 8350) ∧
    (order lunch.server "burger").run (practice lunch noon fun _ _ => .ok none) 0 =
      (.error (.rejected 404 (some "Not found")), 350) := by
  obtain ⟨placed, unknown⟩ := orders_match_progress practising_lunch noon fun _ _ => .ok none
  obtain ⟨record, created, same, polled⟩ :=
    placed { items := [{ id := "1", qty := 2 }] } 0 (by decide) (by decide)
  have first : Kitchen.progress? (toString (reading lunch noon 0).toNat) (reading lunch noon 0) =
      some ⟨"1700000000350", .queued, 12, some 1700000000350⟩ := by
    decide +kernel
  cases first.symm.trans same
  obtain ⟨known, fetched, same⟩ := polled 8000
  have second : Kitchen.progress? "1700000000350" (reading lunch noon 8000) =
      some ⟨"1700000000350", .inProgress, 8, some 1700000000350⟩ := by
    decide +kernel
  cases second.symm.trans same
  exact ⟨created, fetched, unknown "burger" 0 (by decide) (by decide)⟩

end Canteen.Client
