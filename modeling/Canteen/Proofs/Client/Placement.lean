import Canteen.Client.Shop
import Canteen.Proofs.Cart.Holding
import Canteen.Proofs.Flow.Interleaved

set_option autoImplicit false

namespace Canteen.Client

open Cart (Keeper Line Proper held deduct)
open Canteen.Flow (Event Runs requests asked sent others)
open Json (Value Reader)

variable {config : ServerConfig} {keeper final : Keeper} {events : List Event}

theorem currentToken_runs {call : Call} {later : Flow (Option String)}
    (run : Runs (currentToken call) keeper events later final) :
    asked events = [] ∧ sent events = [] := by
  unfold currentToken at run
  split at run
  · change Runs (.perform (.read tokenKey) fun stored => .done (token? stored)) _ _ _ _ at run
    obtain ⟨-, served⟩ | ⟨before, reply, next, after, split, -⟩ := Flow.runs_once run
    · rw [served]
      simp
    · rw [split]
      simp [Event.asked?, Event.sent?]
  · obtain ⟨-, -, served⟩ := Flow.runs_done run
    rw [served]
    simp

theorem attempt_runs {call : Call} {later : Flow (Except RequestError Value)}
    (run : Runs (attempt config call) keeper events later final) :
    asked events = [] ∧
      ((sent events = [] ∧ ∀ result, later ≠ .done result) ∨
        ∃ token, sent events = [outgoing config call token]) := by
  change Runs ((currentToken call).bind fun token =>
    .perform (.exchange (outgoing config call token) config.timeoutMs.toNat) fun exchanged =>
      .done (classify exchanged)) _ _ _ _ at run
  obtain ⟨middle, moved, same⟩ | ⟨token, between, first, second, split, moved, remaining⟩ :=
    Flow.runs_bind run
  · obtain ⟨silent, unsent⟩ := currentToken_runs moved
    refine ⟨silent, .inl ⟨unsent, ?_⟩⟩
    intro result ended
    rw [ended] at same
    cases middle <;> simp [Flow.bind] at same
  · obtain ⟨silent, unsent⟩ := currentToken_runs moved
    obtain ⟨waiting, served⟩ | ⟨before, reply, next, after, served, -, ended, -⟩ :=
      Flow.runs_once remaining
    · rw [split, served]
      refine ⟨by simp [silent], .inl ⟨by simp [unsent], ?_⟩⟩
      intro result ended
      rw [ended] at waiting
      cases waiting
    · rw [split, served]
      refine ⟨by simp [silent, Event.asked?], .inr ⟨token, ?_⟩⟩
      simp [unsent, Event.sent?]

theorem fetch_eq {α : Type} (config : ServerConfig) (what : String) (read : Reader α)
    (call : Call) :
    fetch config what read call =
      (send config call).bind fun result => .done (result.bind (decode what read)) := by
  unfold fetch
  change (send config call).bind _ = _
  congr
  funext result
  cases result <;> rfl

theorem createOrder_runs {order : Order.Request} {later : Flow (Except RequestError Order.Record)}
    (run : Runs (createOrder config order) keeper events later final) :
    asked events = [] ∧
      ((sent events = [] ∧ ∀ record, later ≠ .done (.ok record)) ∨
        orderFault? order = none ∧
          ∃ token, sent events = [outgoing config (createCall order) token]) := by
  unfold createOrder at run
  split at run
  · obtain ⟨same, -, served⟩ := Flow.runs_done run
    rw [served]
    refine ⟨by simp, .inl ⟨by simp, ?_⟩⟩
    intro record ended
    rw [same] at ended
    cases ended
  · rename_i sound
    rw [fetch_eq] at run
    obtain ⟨middle, moved, same⟩ := Flow.runs_map run
    obtain ⟨silent, unsent | sends⟩ := attempt_runs moved
    · refine ⟨silent, .inl ⟨unsent.1, ?_⟩⟩
      intro record ended
      cases middle with
      | done result => exact unsent.2 result rfl
      | perform effect next => rw [ended] at same; cases same
    · exact ⟨silent, .inr ⟨sound, sends⟩⟩

theorem createOrder_eq {order : Order.Request} (sound : orderFault? order = none) :
    createOrder config order = .perform (.read tokenKey) fun stored =>
      .perform (.exchange (outgoing config (createCall order) (token? stored))
          config.timeoutMs.toNat) fun exchanged =>
        .done ((classify exchanged).bind (decode "order" Payload.readCreatedOrder)) := by
  unfold createOrder
  rw [sound]
  exact fetch_eq config "order" Payload.readCreatedOrder (createCall order)

def conclude (order : Order.Request) :
    Except RequestError Order.Record → Flow (Except Failure Order.Record)
  | .ok record => settle order record
  | .error error =>
      .perform (.announce (.error error.message)) fun _ => .done (.error (.request error))

theorem placeOrder_eq (config : ServerConfig) :
    placeOrder config = .perform (.ask .view) fun
      | .error error => .done (.error (.cart error))
      | .ok view =>
          (createOrder config (Cart.orderRequest view.lines)).bind
            (conclude (Cart.orderRequest view.lines)) := by
  unfold placeOrder
  change Flow.perform (.ask .view) _ = _
  congr
  funext reply
  cases reply <;> rfl

theorem settle_eq (order : Order.Request) (record : Order.Record) :
    settle order record = .perform (.ask (.change (.removeOrdered order))) fun
      | .ok _ => .perform (.announce (.info "Order placed")) fun _ => .done (.ok record)
      | .error error => .done (.error (.cart error)) := by
  unfold settle
  change Flow.perform (.ask (.change (.removeOrdered order))) _ = _
  congr
  funext reply
  cases reply <;> rfl

theorem settle_runs {order : Order.Request} {record : Order.Record}
    {later : Flow (Except Failure Order.Record)}
    (run : Runs (settle order record) keeper events later final) :
    sent events = [] ∧
      (∀ placed, later = .done (.ok placed) → ∃ before lines after,
        events = others before ++ .own (.ask (.change (.removeOrdered order))) (.ok lines) :: after ∧
          asked after = [] ∧
          final = ((keeper.handleAll before).change (.removeOrdered order)).handleAll
            (requests after)) ∧
      (∀ failure, later = .done (.error failure) → final = keeper.handleAll (requests events)) := by
  rw [settle_eq] at run
  obtain ⟨waiting, served⟩ | ⟨before, reply, next, rest, split, replies, remaining⟩ :=
    Flow.runs_perform run
  · rw [served, waiting]
    exact ⟨by simp, by simp, by simp⟩
  · cases reply with
    | error error =>
      obtain rfl : next = keeper.handleAll before := replies
      obtain ⟨same, reached, served⟩ := Flow.runs_done remaining
      rw [split, served, same, reached]
      refine ⟨by simp [Event.sent?], by simp, ?_⟩
      intro failure _
      simp [Keeper.handleAll_append]
    | ok lines =>
      obtain ⟨stored, handled⟩ := replies
      have taken : next = (keeper.handleAll before).change (.removeOrdered order) :=
        (congrArg Prod.fst handled).symm
      obtain ⟨waiting, served⟩ | ⟨between, reply, last, after, served, replies, ended, reached⟩ :=
        Flow.runs_once remaining
      · rw [split, served, waiting]
        exact ⟨by simp [Event.sent?], by simp, by simp⟩
      · obtain rfl : last = next.handleAll between := replies
        rw [split, ended]
        refine ⟨by simp [served, Event.sent?], ?_, by simp⟩
        intro placed _
        refine ⟨before, lines, rest, rfl, by simp [served, Event.asked?], ?_⟩
        rw [reached, served, taken]
        simp [Keeper.handleAll_append]

theorem conclude_runs {order : Order.Request} {answer : Except RequestError Order.Record}
    {later : Flow (Except Failure Order.Record)}
    (run : Runs (conclude order answer) keeper events later final) :
    sent events = [] ∧
      (∀ placed, later = .done (.ok placed) → (∃ record, answer = .ok record) ∧
        ∃ before lines after,
          events = others before ++
            .own (.ask (.change (.removeOrdered order))) (.ok lines) :: after ∧
          asked after = [] ∧
          final = ((keeper.handleAll before).change (.removeOrdered order)).handleAll
            (requests after)) ∧
      (∀ failure, later = .done (.error failure) → final = keeper.handleAll (requests events)) := by
  cases answer with
  | ok record =>
    obtain ⟨unsent, accepted, failed⟩ := settle_runs run
    exact ⟨unsent, fun placed ended => ⟨⟨record, rfl⟩, accepted placed ended⟩, failed⟩
  | error error =>
    obtain ⟨waiting, served⟩ | ⟨before, reply, next, after, split, replies, ended, reached⟩ :=
      Flow.runs_once run
    · rw [served, waiting]
      exact ⟨by simp, by simp, by simp⟩
    · obtain rfl : next = keeper.handleAll before := replies
      rw [split, ended, reached]
      exact ⟨by simp [Event.sent?], by simp, by simp [Keeper.handleAll_append]⟩

theorem bind_conclude_ne_done (flow : Flow (Except RequestError Order.Record))
    (order : Order.Request) (result : Except Failure Order.Record) :
    flow.bind (conclude order) ≠ .done result := by
  intro ended
  cases flow with
  | done answer =>
    change conclude order answer = _ at ended
    cases answer with
    | ok record => rw [conclude, settle_eq] at ended; cases ended
    | error error => cases ended
  | perform effect next => cases ended

theorem submission_runs {order : Order.Request} {later : Flow (Except Failure Order.Record)}
    (run : Runs ((createOrder config order).bind (conclude order)) keeper events later final) :
    ((sent events = [] ∧ ∀ placed, later ≠ .done (.ok placed)) ∨
      orderFault? order = none ∧
        ∃ token, sent events = [outgoing config (createCall order) token]) ∧
      (∀ placed, later = .done (.ok placed) → ∃ between lines after,
        events = between ++ .own (.ask (.change (.removeOrdered order))) (.ok lines) :: after ∧
          asked between = [] ∧ asked after = [] ∧
          final = ((keeper.handleAll (requests between)).change (.removeOrdered order)).handleAll
            (requests after)) ∧
      (∀ failure, later = .done (.error failure) → final = keeper.handleAll (requests events)) := by
  obtain ⟨middle, moved, same⟩ | ⟨answer, between, first, second, split, moved, remaining⟩ :=
    Flow.runs_bind run
  -- While the order is being created nothing is decided yet.
  · have underway (result) : later ≠ .done result := by
      rw [same]
      exact bind_conclude_ne_done middle order result
    obtain ⟨-, unsent | sends⟩ := createOrder_runs moved
    · exact ⟨.inl ⟨unsent.1, fun placed => underway _⟩, fun placed ended => (underway _ ended).elim,
        fun failure ended => (underway _ ended).elim⟩
    · exact ⟨.inr sends, fun placed ended => (underway _ ended).elim,
        fun failure ended => (underway _ ended).elim⟩
  · obtain ⟨silent, transmission⟩ := createOrder_runs moved
    obtain ⟨unsent, accepted, failed⟩ := conclude_runs remaining
    have reached := moved.unasked silent
    rw [split]
    refine ⟨?_, ?_, ?_⟩
    · rw [Flow.sent_append, unsent, List.append_nil]
      obtain idle | sends := transmission
      · refine .inl ⟨idle.1, ?_⟩
        intro placed ended
        obtain ⟨⟨record, granted⟩, -⟩ := accepted placed ended
        rw [granted] at idle
        exact idle.2 record rfl
      · exact .inr sends
    · intro placed ended
      obtain ⟨-, before, lines, after, parts, quiet, removed⟩ := accepted placed ended
      refine ⟨first ++ others before, lines, after, ?_, ?_, quiet, ?_⟩
      · rw [parts, List.append_assoc]
      · simp [silent]
      · rw [removed, reached]
        simp [Keeper.handleAll_append]
    · intro failure ended
      rw [failed failure ended, reached]
      simp [Keeper.handleAll_append]

theorem conclude_granted (keeper : Keeper) (order : Order.Request) (record : Order.Record)
    (between after : List (Cart.Lookup × Cart.Request)) :
    ∃ events, requests events = between ++ after ∧
      Runs (conclude order (.ok record)) keeper events (.done (.ok record))
        (((keeper.handleAll between).change (.removeOrdered order)).handleAll after) := by
  let removal : Cart.Request := .change (.removeOrdered order)
  refine ⟨others between ++
    .own (.ask removal) (.ok ((keeper.handleAll between).handle (.ok none) removal).2) ::
      .own (.announce (.info "Order placed")) () :: others after, by simp, ?_⟩
  rw [conclude, settle_eq]
  refine (Flow.runs_others _ keeper between).append (.ask (.ok none) ?_)
  refine .own _ ?_ (Flow.runs_others _ _ after)
  exact rfl

theorem placeOrder_granted (config : ServerConfig) (keeper : Keeper)
    (before between after : List (Cart.Lookup × Cart.Request)) {order : Order.Request}
    {exchanged : Exchanged} {record : Order.Record}
    (shown : Cart.orderRequest (keeper.handleAll before).lines = order)
    (sound : orderFault? order = none)
    (granted : (classify exchanged).bind (decode "order" Payload.readCreatedOrder) = .ok record) :
    ∃ events, requests events = before ++ between ++ after ∧
      Runs (placeOrder config) keeper events (.done (.ok record))
        (((keeper.handleAll (before ++ between)).change (.removeOrdered order)).handleAll after) := by
  obtain ⟨events, served, run⟩ :=
    conclude_granted (keeper.handleAll before) order record between after
  refine ⟨others before ++ .own (.ask .view) (.ok (keeper.handleAll before).view) ::
    .own (.read tokenKey) (.ok none) ::
    .own (.exchange (outgoing config (createCall order) none) config.timeoutMs.toNat) exchanged ::
    events, by simp [served], ?_⟩
  rw [placeOrder_eq, Keeper.handleAll_append]
  refine (Flow.runs_others _ keeper before).append (.ask (.ok none) ?_)
  change Runs ((createOrder config (Cart.orderRequest (keeper.handleAll before).lines)).bind
    (conclude (Cart.orderRequest (keeper.handleAll before).lines))) (keeper.handleAll before) _ _ _
  rw [shown, createOrder_eq sound]
  apply Runs.own
  · exact rfl
  apply Runs.own
  · exact rfl
  change Runs (conclude order ((classify exchanged).bind _)) _ _ _ _
  rw [granted]
  exact run

def Submits (lines : List Line) (request : Outgoing) : Prop :=
  request.method = .post ∧ request.path = "/orders" ∧
    request.body = some (.object [("items", .array (lines.map fun line =>
      .object [("id", .string line.id), ("qty", .nat line.qty.toNat)]))])

theorem submits_outgoing (lines : List Line) (token : Option String) :
    Submits lines (outgoing config (createCall (Cart.orderRequest lines)) token) := by
  refine ⟨rfl, rfl, ?_⟩
  change some (Value.object [("items", .array ((lines.map _).map _))]) = _
  rw [List.map_map]
  rfl

def Looks (keeper : Keeper) (events : List Event) (before : List (Cart.Lookup × Cart.Request))
    (view : Cart.View) (after : List Event) : Prop :=
  events = others before ++ .own (.ask .view) (.ok view) :: after ∧
    view = (keeper.handleAll before).view

structure Takes (ordered : List Line) (current taken : Keeper) : Prop where
  change : taken = current.change (.removeOrdered (Cart.orderRequest ordered))
  lines : taken.lines = deduct (held ordered) current.lines
  counts : ∀ id, held taken.lines id = held current.lines id - held ordered id
  units : ∀ id, (Cart.orderRequest ordered).units id = held ordered id
  bound : ∀ id, (Cart.orderRequest ordered).units id < UInt32.size

theorem takes_ordered {ordered : List Line} {current : Keeper}
    (distinct : (ordered.map (·.id)).Nodup) (proper : Proper current.lines) :
    Takes ordered current (current.change (.removeOrdered (Cart.orderRequest ordered))) := by
  have units := Cart.units_orderRequest distinct
  have lines : (current.change (.removeOrdered (Cart.orderRequest ordered))).lines =
      deduct (held ordered) current.lines := by
    change Cart.removeOrdered current.lines (Cart.orderRequest ordered) = _
    rw [Cart.removeOrdered_eq_deduct, funext units]
  refine ⟨rfl, lines, ?_, units, ?_⟩
  · intro id
    rw [lines, Cart.held_deduct proper.distinct]
  · intro id
    rw [units]
    exact Cart.held_lt_size ordered id

/-- A submission among other requests to the keeper, as far as it has come: it goes out once at
most, it takes out of the cart what it submitted if it is accepted, and else leaves no trace. -/
theorem placeOrder_among_others (config : ServerConfig)
    (past : List (Cart.Lookup × Cart.Request)) {events : List Event} {final : Keeper}
    {later : Flow (Except Failure Order.Record)}
    (run : Runs (placeOrder config) (({} : Keeper).handleAll past) events later final) :
    (sent events).length ≤ 1 ∧
      (∀ request ∈ sent events, ∃ before view after,
        Looks (({} : Keeper).handleAll past) events before view after ∧
          view.lines ≠ [] ∧ Submits view.lines request) ∧
      (∀ record, later = .done (.ok record) → ∃ before view between lines after taken,
        Looks (({} : Keeper).handleAll past) events before view
          (between ++
            .own (.ask (.change (.removeOrdered (Cart.orderRequest view.lines)))) (.ok lines) ::
              after) ∧
          asked between = [] ∧ asked after = [] ∧ (sent events).length = 1 ∧
          Takes view.lines (({} : Keeper).handleAll (past ++ before ++ requests between)) taken ∧
          final = taken.handleAll (requests after)) ∧
      (∀ failure, later = .done (.error failure) →
        final = ({} : Keeper).handleAll (past ++ requests events)) := by
  rw [placeOrder_eq] at run
  obtain ⟨waiting, served⟩ | ⟨before, reply, next, rest, split, replies, remaining⟩ :=
    Flow.runs_perform run
  · rw [served, waiting]
    exact ⟨by simp, by simp, by simp, by simp⟩
  · cases reply with
    | error error =>
      obtain rfl := replies
      obtain ⟨same, reached, served⟩ := Flow.runs_done remaining
      rw [split, served, same, reached]
      exact ⟨by simp [Event.sent?], by simp [Event.sent?], by simp,
        by simp [Keeper.handleAll_append]⟩
    | ok view =>
      obtain ⟨stored, handled⟩ := replies
      obtain ⟨rfl, rfl⟩ := Prod.mk.inj handled
      obtain ⟨transmission, accepted, failed⟩ := submission_runs remaining
      have messages : sent events = sent rest := by
        rw [split]
        simp [Event.sent?]
      rw [messages]
      refine ⟨?_, ?_, ?_, ?_⟩
      · obtain ⟨unsent, -⟩ | ⟨-, token, sends⟩ := transmission
        · simp [unsent]
        · simp [sends]
      · intro request member
        obtain ⟨unsent, -⟩ | ⟨sound, token, sends⟩ := transmission
        · simp [unsent] at member
        · obtain rfl : request = _ := by simpa [sends] using member
          refine ⟨before, _, rest, ⟨split, rfl⟩, ?_, submits_outgoing _ token⟩
          intro empty
          rw [empty] at sound
          cases sound
      · intro record ended
        obtain ⟨between, lines, after, parts, silent, quiet, removed⟩ := accepted record ended
        obtain ⟨-, unplaced⟩ | ⟨-, token, sends⟩ := transmission
        · exact (unplaced record ended).elim
        · refine ⟨before, _, between, lines, after, _, ⟨parts ▸ split, rfl⟩, silent, quiet,
            by simp [sends], ?_, removed⟩
          have started : Proper (({} : Keeper).handleAll past).lines :=
            Keeper.handleAll_proper Cart.proper_nil past
          have looked := Keeper.handleAll_proper started before
          rw [Keeper.handleAll_append, Keeper.handleAll_append]
          exact takes_ordered looked.distinct (Keeper.handleAll_proper looked _)
      · intro failure ended
        rw [failed failure ended, split]
        simp [Keeper.handleAll_append]

def burger : Product := { id := "1", name := "Chicken Burger", price := 120, available := true }
def water : Product := { id := "4", name := "Water", price := 20, available := true }

-- A server that only names the order it has accepted.
def receipt : Response := { status := 201, body := "\x7b\"order_id\":\"7\"\x7d".toUTF8 }

theorem receipt_granted :
    (classify (some (.ok receipt))).bind (decode "order" Payload.readCreatedOrder) =
      .ok { orderId := "7", status := .queued, etaMinutes := 0, createdAt := none } := by
  have payload : Value.ofText? "\x7b\"order_id\":\"7\"\x7d" =
      some (.object [("order_id", .string "7")]) := by cbv
  simp only [classify, Response.interpret, receipt, Value.ofBytes?_toUTF8, payload]
  rfl

theorem placeOrder_among_others_kept :
    ∃ events final record,
      Runs (placeOrder {}) (({} : Keeper).handleAll [(.ok none, .change (.add burger))]) events
        (.done (.ok record)) final ∧
      requests events = [(.ok none, .change (.add burger)), (.ok none, .change (.add water))] ∧
      (sent events).length = 1 ∧
      final.lines = [{ burger with qty := 1 }, { water with qty := 1 }] := by
  obtain ⟨events, served, run⟩ := placeOrder_granted {}
    (({} : Keeper).handleAll [(.ok none, .change (.add burger))]) []
    [(.ok none, .change (.add burger)), (.ok none, .change (.add water))] [] rfl rfl receipt_granted
  obtain ⟨-, -, accepted, -⟩ := placeOrder_among_others {} _ run
  obtain ⟨_, _, _, _, _, _, -, -, -, once, -⟩ := accepted _ rfl
  exact ⟨events, _, _, run, served, once, rfl⟩

end Canteen.Client
