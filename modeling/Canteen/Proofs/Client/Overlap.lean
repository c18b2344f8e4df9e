import Mathlib.Algebra.BigOperators.Group.Finset.Basic
import Canteen.Proofs.Cart.Tally
import Canteen.Proofs.Client.Placement
import Canteen.Proofs.Flow.Together
import Canteen.Proofs.Payload.Order

set_option autoImplicit false

namespace Canteen.Cart

def Request.supplies : Request → Bool
  | .change (.add _) | .change (.increase _) | .hydrate => true
  | .change (.decrease _) | .change .clear | .change (.removeOrdered _) | .view | .flush => false

namespace Keeper

-- How many units of a product come into the cart with a request.
def gain (keeper : Keeper) (stored : Lookup) (request : Request) (id : String) : Nat :=
  if request.supplies then held (keeper.handle stored request).1.lines id - held keeper.lines id
  else 0

def gained (id : String) : Keeper → List (Lookup × Request) → Nat
  | _, [] => 0
  | keeper, (stored, request) :: rest =>
      keeper.gain stored request id + gained id (keeper.handle stored request).1 rest

theorem held_handle_le {keeper : Keeper} (proper : Proper keeper.lines) (stored : Lookup)
    (request : Request) (id : String) :
    held (keeper.handle stored request).1.lines id ≤
      held keeper.lines id + keeper.gain stored request id := by
  by_cases supplies : request.supplies
  · rw [gain, if_pos supplies]
    omega
  · rw [gain, if_neg supplies, Nat.add_zero]
    cases request with
    | view | flush => exact Nat.le_refl _
    | hydrate => exact absurd rfl supplies
    | change change =>
      change held (change.apply keeper.lines) id ≤ _
      rw [held_apply proper]
      cases change with
      | add product => exact absurd rfl supplies
      | increase other => exact absurd rfl supplies
      | decrease other =>
        simp only [Change.count]
        split <;> omega
      | clear => exact Nat.zero_le _
      | removeOrdered order => exact Nat.sub_le _ _

end Keeper

end Canteen.Cart

namespace Canteen.Client

open Cart (Keeper Lookup Proper held)
open Canteen.Flow (Event Runs Turn Together Unheard asked sent seen served)

variable {ι : Type} {config : ServerConfig} {order : Order.Request} {id : String}

-- How many units of a product a message orders, as its receiver reads it.
def unitsOf (id : String) (request : Outgoing) : Nat :=
  match request.body.map Payload.readOrderRequest with
  | some (.ok order) => order.units id
  | _ => 0

theorem unitsOf_outgoing (config : ServerConfig) (order : Order.Request) (token : Option String) :
    unitsOf id (outgoing config (createCall order) token) = order.units id := by
  have read : (outgoing config (createCall order) token).body.map Payload.readOrderRequest =
      some (.ok order) :=
    congrArg some (Payload.readOrderRequest_requestFields order)
  simp only [unitsOf, read]

def unitsIn (id : String) (messages : List Outgoing) : Nat :=
  messages.foldr (fun request rest => unitsOf id request + rest) 0

-- A call to place an order, once the order has been drawn up.
def submission (config : ServerConfig) (order : Order.Request) :
    Flow (Except Failure Order.Record) :=
  (createOrder config order).bind (conclude order)

inductive Mark where
  | draws
  | takes
deriving DecidableEq, Repr

def mark? : Turn ι → Option (ι × Mark)
  | .asked (some i) _ .view _ => some (i, .draws)
  | .asked (some i) _ (.change (.removeOrdered _)) _ => some (i, .takes)
  | _ => none

def marks (turns : List (Turn ι)) : List (ι × Mark) := turns.filterMap mark?

theorem marks_sublist (turn : Turn ι) (rest : List (Turn ι)) :
    (marks rest).Sublist (marks (turn :: rest)) :=
  (List.sublist_cons_self turn rest).filterMap mark?

/-- The second order is drawn up before what the first one orders has left the cart. -/
def Overlap (turns : List (Turn ι)) (i j : ι) : Prop :=
  [(i, Mark.draws), (j, .draws), (i, .takes)].Sublist (marks turns)

instance [DecidableEq ι] (turns : List (Turn ι)) (i j : ι) : Decidable (Overlap turns i j) :=
  inferInstanceAs (Decidable (List.Sublist _ _))

-- The flow asks for one more thing, that the order leave the cart, and it is done.
def Accepts (order : Order.Request) (events : List Event) : Prop :=
  ∃ between lines after,
    events = between ++ .own (.ask (.change (.removeOrdered order))) (.ok lines) :: after ∧
      asked between = [] ∧ asked after = []

theorem accepts_cons {event : Event} {events : List Event}
    (accepts : Accepts order (event :: events)) :
    (event.asked? = none ∧ Accepts order events) ∨
      ∃ lines, event = .own (.ask (.change (.removeOrdered order))) (.ok lines) := by
  obtain ⟨between, lines, after, split, silent, quiet⟩ := accepts
  cases between with
  | nil => exact .inr ⟨lines, (List.cons.inj split).1⟩
  | cons first rest =>
    obtain ⟨rfl, remaining⟩ := List.cons.inj split
    rw [Flow.asked_cons, List.append_eq_nil_iff] at silent
    exact .inl ⟨by simpa using silent.1, rest, lines, after, remaining, silent.2, quiet⟩

variable {turn : Turn ι} {turns : List (Turn ι)} {calls : Finset ι} {due : Nat}
  {flows next later : ι → Flow (Except Failure Order.Record)} {keeper final : Keeper}

-- Calls that have not begun, and will be accepted one after another.
structure Fresh (config : ServerConfig) (turns : List (Turn ι))
    (flows later : ι → Flow (Except Failure Order.Record)) (calls : Finset ι) : Prop where
  start : ∀ i ∈ calls, flows i = placeOrder config
  accepted : ∀ i ∈ calls, ∃ record, later i = .done (.ok record)
  apart : ∀ i ∈ calls, ∀ j ∈ calls, i ≠ j → ¬Overlap turns i j

theorem Fresh.rest (fresh : Fresh config (turn :: turns) flows later calls)
    {others : Finset ι} (subset : others ⊆ calls) (same : ∀ i ∈ others, next i = flows i) :
    Fresh config turns next later others := by
  refine ⟨fun i member => ?_, fun i member => fresh.accepted i (subset member), ?_⟩
  · rw [same i member]
    exact fresh.start i (subset member)
  · intro i first j second different overlap
    exact fresh.apart i (subset first) j (subset second) different
      (overlap.trans (marks_sublist turn turns))

variable [DecidableEq ι]

theorem accepts_of_asked {u : ι} {who : Option ι} (different : who ≠ some u) {stored : Lookup}
    {request : Cart.Request} {reply : request.Reply}
    (accepts : Accepts order (seen u (.asked who stored request reply :: turns))) :
    Accepts order (seen u turns) := by
  rw [Flow.seen_cons, Flow.event?_asked_of_ne different] at accepts
  rcases accepts_cons accepts with ⟨-, still⟩ | ⟨lines, own⟩
  · exact still
  · cases own

theorem accepts_of_aside {u i : ι} {effect : Effect} {reply : effect.Reply}
    {unheard : Unheard effect reply}
    (accepts : Accepts order (seen u (.aside i effect reply unheard :: turns))) :
    Accepts order (seen u turns) := by
  by_cases same : i = u
  · subst same
    rw [Flow.seen_cons, Flow.event?_aside] at accepts
    rcases accepts_cons accepts with ⟨-, still⟩ | ⟨lines, own⟩
    · exact still
    · cases own
      cases unheard
  · rwa [Flow.seen_cons, Flow.event?_aside_of_ne same] at accepts

theorem takes_mem_marks {u : ι} (accepts : Accepts order (seen u turns)) :
    (u, Mark.takes) ∈ marks turns := by
  obtain ⟨between, lines, after, split, -⟩ := accepts
  have present : Event.own (.ask (.change (.removeOrdered order))) (.ok lines) ∈ seen u turns := by
    rw [split]
    simp
  obtain ⟨turn, member, event⟩ := List.mem_filterMap.mp present
  refine List.mem_filterMap.mpr ⟨turn, member, ?_⟩
  cases turn with
  | asked who stored request reply =>
    by_cases own : who = some u
    · subst own
      rw [Flow.event?_asked] at event
      cases event
      rfl
    · rw [Flow.event?_asked_of_ne own] at event
      cases event
  | aside who effect reply unheard =>
    by_cases own : who = u
    · subst own
      rw [Flow.event?_aside] at event
      cases event
      cases unheard
    · rw [Flow.event?_aside_of_ne own] at event
      cases event

def submitted (turns : List (Turn ι)) (i : ι) (id : String) : Nat :=
  unitsIn id (sent (seen i turns))

theorem submitted_asked (who : Option ι) (stored : Lookup) (request : Cart.Request)
    (reply : request.Reply) (i : ι) (id : String) :
    submitted (.asked who stored request reply :: turns) i id = submitted turns i id := by
  by_cases own : who = some i
  · simp [submitted, own, Event.sent?]
  · simp [submitted, Flow.event?_asked_of_ne own, Event.sent?]

theorem submitted_aside_of_ne {i j : ι} (different : j ≠ i) {effect : Effect}
    {reply : effect.Reply} (unheard : Unheard effect reply) (id : String) :
    submitted (.aside j effect reply unheard :: turns) i id = submitted turns i id := by
  simp [submitted, Flow.event?_aside_of_ne different]

-- The units of the order that has been drawn up and is to leave the cart, if there is one. None of
-- the calls that have not begun draws up another before it has left.
inductive Owed (turns : List (Turn ι)) (calls : Finset ι) (id : String) : Nat → Prop where
  | nothing : Owed turns calls id 0
  | units (u : ι) (order : Order.Request) (begun : u ∉ calls)
      (accepts : Accepts order (seen u turns))
      (apart : ∀ j ∈ calls, ¬[(j, Mark.draws), (u, .takes)].Sublist (marks turns)) :
      Owed turns calls id (order.units id)

theorem Owed.rest (owed : Owed (turn :: turns) calls id due)
    (still : ∀ u order, Accepts order (seen u (turn :: turns)) → Accepts order (seen u turns)) :
    Owed turns calls id due := by
  cases owed with
  | nothing => exact .nothing
  | units u order begun accepts apart =>
    exact .units u order begun (still u order accepts) fun j member early =>
      apart j member (early.trans (marks_sublist turn turns))

-- What is owed already may not be in the cart any more.
def Bounded (config : ServerConfig) (id : String)
    (flows : ι → Flow (Except Failure Order.Record)) (keeper : Keeper) (turns : List (Turn ι))
    (later : ι → Flow (Except Failure Order.Record)) : Prop :=
  ∀ (calls : Finset ι) (due : Nat), Fresh config turns flows later calls →
    Owed turns calls id due →
      ∑ i ∈ calls, submitted turns i id + due ≤
        max (held keeper.lines id) due + keeper.gained id (served turns)

theorem bounded_stay (config : ServerConfig) (id : String)
    (flows : ι → Flow (Except Failure Order.Record)) (keeper : Keeper) :
    Bounded config id flows keeper [] flows := by
  intro calls due fresh owed
  have nothing : ∑ i ∈ calls, submitted ([] : List (Turn ι)) i id = 0 :=
    Finset.sum_eq_zero fun i _ => rfl
  omega

theorem le_gained (proper : Proper keeper.lines) (stored : Lookup) (request : Cart.Request)
    {rest : List (Lookup × Cart.Request)} {n : Nat}
    (bound : n ≤ max (held (keeper.handle stored request).1.lines id) due +
      (keeper.handle stored request).1.gained id rest) :
    n ≤ max (held keeper.lines id) due + keeper.gained id ((stored, request) :: rest) := by
  have grows := Keeper.held_handle_le proper stored request id
  simp only [Keeper.gained]
  omega

theorem Bounded.other (proper : Proper keeper.lines) (stored : Lookup) (request : Cart.Request)
    (bounded : Bounded config id flows (keeper.handle stored request).1 turns later) :
    Bounded config id flows keeper
      (.asked none stored request (keeper.handle stored request).2 :: turns) later := by
  intro calls due fresh owed
  simp only [submitted_asked]
  refine le_gained proper stored request (bounded calls due ?_ ?_)
  · exact fresh.rest (Finset.Subset.refl _) fun _ _ => rfl
  · exact owed.rest fun u order => accepts_of_asked (Option.some_ne_none u).symm

-- A call that cannot look at the cart fails, so it is none of those that will be accepted.
theorem Fresh.begun_of_aside (fresh : Fresh config (turn :: turns) flows later calls) {i : ι}
    {effect : Effect} {reply : effect.Reply}
    {continuation : effect.Reply → Flow (Except Failure Order.Record)}
    (unheard : Unheard effect reply) (ready : flows i = .perform effect continuation)
    (rest : Together (Function.update flows i (continuation reply)) keeper turns later final) :
    i ∉ calls := by
  intro member
  obtain ⟨record, accepted⟩ := fresh.accepted i member
  have start := fresh.start i member
  rw [ready, placeOrder_eq] at start
  obtain ⟨rfl, same⟩ := Flow.perform.inj start
  obtain rfl := eq_of_heq same
  have run := rest.runs i
  rw [Function.update_self, accepted] at run
  cases reply with
  | ok view => cases unheard
  | error error => cases (Flow.runs_done run).1

theorem Bounded.aside {i : ι} {effect : Effect} {reply : effect.Reply}
    {continuation : effect.Reply → Flow (Except Failure Order.Record)}
    (unheard : Unheard effect reply) (ready : flows i = .perform effect continuation)
    (rest : Together (Function.update flows i (continuation reply)) keeper turns later final)
    (bounded : Bounded config id (Function.update flows i (continuation reply)) keeper turns
      later) :
    Bounded config id flows keeper (.aside i effect reply unheard :: turns) later := by
  intro calls due fresh owed
  have begun := fresh.begun_of_aside unheard ready rest
  have different {j : ι} (member : j ∈ calls) : j ≠ i := ne_of_mem_of_not_mem member begun
  rw [Finset.sum_congr rfl fun j member => submitted_aside_of_ne (different member).symm unheard id]
  refine bounded calls due ?_ (owed.rest fun u order => accepts_of_aside)
  exact fresh.rest (Finset.Subset.refl _) fun j member =>
    Function.update_of_ne (different member) _ _

-- What is owed would have to leave the cart before another order is drawn up.
theorem Owed.eq_zero {i : ι} {stored : Lookup} {view : Cart.View} (member : i ∈ calls)
    (owed : Owed (.asked (some i) stored .view view :: turns) calls id due) : due = 0 := by
  cases owed with
  | nothing => rfl
  | units u order begun accepts apart =>
    have different : i ≠ u := fun same => begun (same ▸ member)
    have later := takes_mem_marks (accepts_of_asked (mt Option.some.inj different) accepts)
    exact absurd ((List.singleton_sublist.mpr later).cons_cons _) (apart i member)

theorem submission_accepted (id : String) {events : List Event} {record : Order.Record}
    (run : Runs (submission config order) keeper events (.done (.ok record)) final) :
    unitsIn id (sent events) = order.units id ∧ Accepts order events := by
  obtain ⟨transmission, leaves, -⟩ := submission_runs run
  obtain ⟨between, lines, after, split, silent, quiet, -⟩ := leaves record rfl
  refine ⟨?_, between, lines, after, split, silent, quiet⟩
  rcases transmission with ⟨-, failed⟩ | ⟨-, token, sends⟩
  · exact absurd rfl (failed record)
  · simp [sends, unitsIn, unitsOf_outgoing]

theorem draw_le (proper : Proper keeper.lines) {i : ι} (stored : Lookup)
    (rest : Together (Function.update flows i (submission config (Cart.orderRequest keeper.lines)))
      keeper turns later final)
    (bounded : Bounded config id
      (Function.update flows i (submission config (Cart.orderRequest keeper.lines))) keeper turns
      later)
    (member : i ∈ calls)
    (fresh : Fresh config (.asked (some i) stored .view keeper.view :: turns) flows later calls)
    (owed : Owed (.asked (some i) stored .view keeper.view :: turns) calls id due) :
    ∑ j ∈ calls, submitted turns j id + due ≤
      max (held keeper.lines id) due + keeper.gained id (served turns) := by
  obtain ⟨record, accepted⟩ := fresh.accepted i member
  have run := rest.runs i
  rw [Function.update_self, accepted] at run
  obtain ⟨ordered, accepts⟩ := submission_accepted id run
  have next : Owed turns (calls.erase i) id ((Cart.orderRequest keeper.lines).units id) := by
    refine .units i _ (Finset.notMem_erase i calls) accepts fun j other early => ?_
    exact fresh.apart i member j (Finset.mem_of_mem_erase other)
      (Finset.ne_of_mem_erase other).symm (early.cons_cons _)
  have others := bounded (calls.erase i) _ (fresh.rest (Finset.erase_subset i calls)
    fun j other => Function.update_of_ne (Finset.ne_of_mem_erase other) _ _) next
  rw [Cart.units_orderRequest proper.distinct] at others ordered
  rw [← Finset.add_sum_erase calls _ member, submitted, ordered, owed.eq_zero member]
  omega

theorem take_le (proper : Proper keeper.lines) (stored : Lookup) (order : Order.Request) {n : Nat}
    {rest : List (Lookup × Cart.Request)}
    (bound : n ≤ held (keeper.change (.removeOrdered order)).lines id +
      (keeper.change (.removeOrdered order)).gained id rest) :
    n + order.units id ≤ max (held keeper.lines id) (order.units id) +
      keeper.gained id ((stored, .change (.removeOrdered order)) :: rest) := by
  have left : held (keeper.change (.removeOrdered order)).lines id =
      held keeper.lines id - order.units id :=
    Cart.held_apply proper (.removeOrdered order) id
  have same : keeper.gained id ((stored, .change (.removeOrdered order)) :: rest) =
      (keeper.change (.removeOrdered order)).gained id rest :=
    Nat.zero_add _
  omega

theorem Bounded.ask {i : ι} {request : Cart.Request} (proper : Proper keeper.lines)
    {continuation : (Effect.ask request).Reply → Flow (Except Failure Order.Record)}
    (stored : Lookup) (ready : flows i = .perform (.ask request) continuation)
    (rest : Together
      (Function.update flows i (continuation (.ok (keeper.handle stored request).2)))
      (keeper.handle stored request).1 turns later final)
    (bounded : Bounded config id
      (Function.update flows i (continuation (.ok (keeper.handle stored request).2)))
      (keeper.handle stored request).1 turns later) :
    Bounded config id flows keeper
      (.asked (some i) stored request (keeper.handle stored request).2 :: turns) later := by
  intro calls due fresh owed
  simp only [submitted_asked]
  by_cases member : i ∈ calls
  -- The call begins, and draws up its order.
  · have start := fresh.start i member
    rw [ready, placeOrder_eq] at start
    obtain ⟨same, continues⟩ := Flow.perform.inj start
    obtain rfl := Effect.ask.inj same
    obtain rfl := eq_of_heq continues
    exact le_gained proper stored .view (draw_le proper stored rest bounded member fresh owed)
  · have different {j : ι} (other : j ∈ calls) : j ≠ i := ne_of_mem_of_not_mem other member
    have remaining : Fresh config turns
        (Function.update flows i (continuation (.ok (keeper.handle stored request).2))) later
        calls :=
      fresh.rest (Finset.Subset.refl _) fun j other => Function.update_of_ne (different other) _ _
    cases owed with
    | nothing => exact le_gained proper stored request (bounded calls 0 remaining .nothing)
    | units u order begun accepts apart =>
      by_cases same : i = u
      · subst same
        rw [Flow.seen_cons, Flow.event?_asked] at accepts
        rcases accepts_cons accepts with ⟨silent, -⟩ | ⟨lines, own⟩
        · cases silent
        -- What is owed leaves the cart.
        · cases own
          have left := bounded calls 0 remaining .nothing
          rw [Nat.add_zero, Nat.max_zero] at left
          exact take_le proper stored order left
      · refine le_gained proper stored request (bounded calls _ remaining ?_)
        exact .units u order begun (accepts_of_asked (mt Option.some.inj same) accepts)
          fun j other early => apart j other (early.trans (marks_sublist _ turns))

theorem bounded (id : String) (together : Together flows keeper turns later final)
    (proper : Proper keeper.lines) : Bounded config id flows keeper turns later := by
  induction together with
  | stay flows keeper => exact bounded_stay config id flows keeper
  | other stored request rest ih =>
    exact .other proper stored request (ih (Keeper.handle_proper proper stored request))
  | ask i stored ready rest ih =>
    exact .ask proper stored ready rest (ih (Keeper.handle_proper proper stored _))
  | aside i reply unheard ready rest ih => exact .aside unheard ready rest (ih proper)

theorem draw_run (config : ServerConfig) (keeper : Keeper) {i : ι}
    (start : flows i = placeOrder config) :
    Together flows keeper [.asked (some i) (.ok none) .view keeper.view]
      (Function.update flows i (submission config (Cart.orderRequest keeper.lines))) keeper := by
  rw [placeOrder_eq] at start
  exact .ask i (.ok none) start (.stay _ _)

-- An order that has been drawn up is sent, and with the answer it leaves the cart.
def errand (config : ServerConfig) (keeper : Keeper) (i : ι) (order : Order.Request)
    (exchanged : Exchanged) : List (Turn ι) :=
  [.aside i (.read tokenKey) (.ok none) trivial,
    .aside i (.exchange (outgoing config (createCall order) none) config.timeoutMs.toNat) exchanged
      trivial,
    .asked (some i) (.ok none) (.change (.removeOrdered order))
      (keeper.change (.removeOrdered order)).lines,
    .aside i (.announce (.info "Order placed")) () trivial]

theorem errand_run (config : ServerConfig) (keeper : Keeper) {i : ι} {exchanged : Exchanged}
    {record : Order.Record}
    (ready : flows i = submission config order) (sound : orderFault? order = none)
    (granted : (classify exchanged).bind (decode "order" Payload.readCreatedOrder) = .ok record) :
    Together flows keeper (errand config keeper i order exchanged)
      (Function.update flows i (.done (.ok record))) (keeper.change (.removeOrdered order)) := by
  rw [submission, createOrder_eq sound] at ready
  have answered : conclude order ((classify exchanged).bind
      (decode "order" Payload.readCreatedOrder)) = settle order record := by
    rw [granted]
    rfl
  refine .aside i _ _ ready (.aside i _ _ (Function.update_self ..) ?_)
  change Together (Function.update _ i (conclude order ((classify exchanged).bind _))) _ _ _ _
  rw [answered, settle_eq, Function.update_idem]
  refine .ask i (.ok none) (Function.update_self ..) ?_
  refine .aside i _ _ (Function.update_self ..) ?_
  rw [Function.update_idem, Function.update_idem]
  exact .stay _ _

-- A cart with one burger in it.
def tray : List (Lookup × Cart.Request) := [(.ok none, .change (.add burger))]

/-- What accepted orders submit of a product never comes to more than there was in the cart and has
been put in since, if of any two that ask for the product one has left the cart before the other is
drawn up. All else, calls that fail or are still under way among it, may come in between. -/
theorem submitted_le_supply (config : ServerConfig) (past : List (Lookup × Cart.Request))
    (calls : Finset ι) (id : String)
    (together : Together (fun _ => placeOrder config) (({} : Keeper).handleAll past) turns later
      final)
    (accepted : ∀ i ∈ calls, ∃ record, later i = .done (.ok record))
    (apart : ∀ i ∈ calls, ∀ j ∈ calls, i ≠ j → 0 < submitted turns i id →
      0 < submitted turns j id → ¬Overlap turns i j) :
    ∑ i ∈ calls, submitted turns i id ≤
      held (({} : Keeper).handleAll past).lines id +
        (({} : Keeper).handleAll past).gained id (served turns) := by
  let asking := calls.filter (0 < submitted turns · id)
  have member {i : ι} (asks : i ∈ asking) : i ∈ calls ∧ 0 < submitted turns i id :=
    Finset.mem_filter.mp asks
  have fresh : Fresh config turns (fun _ => placeOrder config) later asking := by
    refine ⟨fun _ _ => rfl, fun i asks => accepted i (member asks).1, ?_⟩
    intro i first j second different
    exact apart i (member first).1 j (member second).1 different (member first).2 (member second).2
  have bound := bounded id together (Keeper.reached_proper past) asking 0 fresh .nothing
  rw [Nat.add_zero, Nat.max_zero] at bound
  have same : ∑ i ∈ asking, submitted turns i id = ∑ i ∈ calls, submitted turns i id :=
    Finset.sum_filter_of_ne fun i _ => Nat.pos_of_ne_zero
  rwa [← same]

-- Two orders of a burger, one after the other, while a third call has drawn up its order as well.
theorem submitted_le_supply_successive :
    ∃ turns later final,
      Together (fun _ : Fin 3 => placeOrder {}) (({} : Keeper).handleAll tray) turns later final ∧
      (∀ i ∈ ({0, 1} : Finset (Fin 3)), ∃ record, later i = .done (.ok record)) ∧
      submitted turns 0 "1" = 1 ∧ submitted turns 1 "1" = 1 ∧
      ∑ i ∈ {0, 1}, submitted turns i "1" ≤ held (({} : Keeper).handleAll tray).lines "1" +
        (({} : Keeper).handleAll tray).gained "1" (served turns) := by
  let cart := ({} : Keeper).handleAll tray
  have drawn : Together (fun _ : Fin 3 => placeOrder {}) cart _ _ cart :=
    (draw_run {} cart (i := 2) rfl).append (draw_run {} cart (i := 0) rfl)
  have first := drawn.append (errand_run {} cart (i := 0) rfl rfl receipt_granted)
  have filled := first.append (.other (.ok none) (.change (.add burger)) (.stay _ _))
  have second := filled.append (draw_run {} _ (i := 1) rfl)
  have together := second.append (errand_run {} _ (i := 1) rfl rfl receipt_granted)
  have bound := submitted_le_supply {} tray {0, 1} "1" together
    (by simp [Function.update]) (by decide)
  exact ⟨_, _, _, together, by simp [Function.update], by decide, by decide, bound⟩

theorem burger_ordered_twice :
    ¬∀ {ι : Type} [DecidableEq ι] {turns : List (Turn ι)}
        {later : ι → Flow (Except Failure Order.Record)} {final : Keeper} (config : ServerConfig)
        (past : List (Lookup × Cart.Request)) (calls : Finset ι) (id : String),
      Together (fun _ => placeOrder config) (({} : Keeper).handleAll past) turns later final →
        (∀ i ∈ calls, ∃ record, later i = .done (.ok record)) →
        ∑ i ∈ calls, submitted turns i id ≤
          held (({} : Keeper).handleAll past).lines id +
            (({} : Keeper).handleAll past).gained id (served turns) := by
  intro bound
  let cart := ({} : Keeper).handleAll tray
  have drawn : Together (fun _ : Bool => placeOrder {}) cart _ _ cart :=
    (draw_run {} cart (i := false) rfl).append (draw_run {} cart (i := true) rfl)
  have first := drawn.append (errand_run {} cart (i := false) rfl rfl receipt_granted)
  have together := first.append (errand_run {} _ (i := true) rfl rfl receipt_granted)
  have excess := bound {} tray {false, true} "1" together (by simp [Function.update])
  exact absurd excess (by decide)

end Canteen.Client
