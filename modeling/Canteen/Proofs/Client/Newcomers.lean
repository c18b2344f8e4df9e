import Canteen.Proofs.Client.Placement

set_option autoImplicit false

namespace Canteen.Client

open Cart (Keeper Line Proper)
open Canteen.Flow (Event Runs requests asked others)

variable {config : ServerConfig} {keeper final : Keeper} {events : List Event}
  {before meanwhile after : List (Cart.Lookup × Cart.Request)}

/-- An accepted order is drawn up when those `before` have been served, and leaves the cart when
those `meanwhile` have been served too. -/
inductive Acceptance (keeper : Keeper) (events : List Event)
    (before meanwhile after : List (Cart.Lookup × Cart.Request)) : Prop where
  | accepted (view : Cart.View) (between rest : List Event) (lines : List Line)
      (looks : Looks keeper events before view (between ++
        .own (.ask (.change (.removeOrdered (Cart.orderRequest view.lines)))) (.ok lines) :: rest))
      (silent : asked between = []) (quiet : asked rest = [])
      (waited : requests between = meanwhile) (left : requests rest = after)

-- The first part ends where the first event that is not `quiet` stands.
theorem split_unique {quiet : Event → Bool} {first other rest last : List Event} {a b : Event}
    (clear : ∀ event ∈ first, quiet event = true) (clean : ∀ event ∈ other, quiet event = true)
    (loud : quiet a = false) (noisy : quiet b = false)
    (same : first ++ a :: rest = other ++ b :: last) : first = other ∧ rest = last := by
  have opening := congrArg (List.takeWhile quiet) same
  rw [List.takeWhile_append_of_pos clear, List.takeWhile_append_of_pos clean] at opening
  obtain rfl : first = other := by simpa [loud, noisy] using opening
  exact ⟨rfl, (List.cons.inj (List.append_cancel_left same)).2⟩

theorem Acceptance.unique {before' meanwhile' after' : List (Cart.Lookup × Cart.Request)}
    (acceptance : Acceptance keeper events before meanwhile after)
    (other : Acceptance keeper events before' meanwhile' after') :
    before = before' ∧ meanwhile = meanwhile' ∧ after = after' := by
  obtain ⟨view, between, rest, lines, looks, silent, quiet, rfl, rfl⟩ := acceptance
  obtain ⟨view', between', rest', lines', looks', silent', quiet', rfl, rfl⟩ := other
  have served (list : List (Cart.Lookup × Cart.Request)) :
      ∀ event ∈ others list, event.request?.isSome = true := by
    intro event member
    obtain ⟨entry, -, rfl⟩ := List.mem_map.mp member
    rfl
  have unasked {list : List Event} (silent : asked list = []) :
      ∀ event ∈ list, event.asked?.isNone = true := by
    simpa [asked] using silent
  -- The first effect draws the order up, and the next question after it takes the order out.
  obtain ⟨early, late⟩ :=
    split_unique (served before) (served before') rfl rfl (looks.1.symm.trans looks'.1)
  obtain ⟨rfl, rfl⟩ := split_unique (unasked silent) (unasked silent') rfl rfl late
  have requested := congrArg requests early
  rw [Flow.requests_others, Flow.requests_others] at requested
  exact ⟨requested, rfl, rfl⟩

theorem placeOrder_acceptance {record : Order.Record}
    (run : Runs (placeOrder config) keeper events (.done (.ok record)) final) :
    ∃ before meanwhile after, Acceptance keeper events before meanwhile after ∧
      final = ((keeper.handleAll (before ++ meanwhile)).change
        (.removeOrdered (Cart.orderRequest (keeper.handleAll before).lines))).handleAll after := by
  rw [placeOrder_eq] at run
  obtain ⟨waiting, -⟩ | ⟨before, reply, next, rest, split, replies, remaining⟩ :=
    Flow.runs_perform run
  · cases waiting
  · cases reply with
    | error error =>
      obtain ⟨failed, -⟩ := Flow.runs_done remaining
      cases failed
    | ok view =>
      obtain ⟨stored, handled⟩ := replies
      obtain ⟨rfl, rfl⟩ := Prod.mk.inj handled
      obtain ⟨-, accepted, -⟩ := submission_runs remaining
      obtain ⟨between, lines, last, parts, silent, quiet, removed⟩ := accepted record rfl
      refine ⟨before, requests between, requests last,
        .accepted _ between last lines ⟨parts ▸ split, rfl⟩ silent quiet rfl rfl, ?_⟩
      rw [Keeper.handleAll_append]
      exact removed

theorem placeOrder_meanwhile (config : ServerConfig) (keeper : Keeper)
    (meanwhile : List (Cart.Lookup × Cart.Request)) {exchanged : Exchanged} {record : Order.Record}
    (sound : orderFault? (Cart.orderRequest keeper.lines) = none)
    (granted : (classify exchanged).bind (decode "order" Payload.readCreatedOrder) = .ok record) :
    ∃ events, Acceptance keeper events [] meanwhile [] ∧
      Runs (placeOrder config) keeper events (.done (.ok record))
        ((keeper.handleAll meanwhile).change
          (.removeOrdered (Cart.orderRequest keeper.lines))) := by
  let removal : Cart.Request := .change (.removeOrdered (Cart.orderRequest keeper.lines))
  let between : List Event :=
    .own (.read tokenKey) (.ok none) ::
      .own (.exchange (outgoing config (createCall (Cart.orderRequest keeper.lines)) none)
        config.timeoutMs.toNat) exchanged :: others meanwhile
  let lines := ((keeper.handleAll meanwhile).handle (.ok none) removal).2
  let rest : List Event := [.own (.announce (.info "Order placed")) ()]
  refine ⟨.own (.ask .view) (.ok keeper.view) ::
    (between ++ .own (.ask removal) (.ok lines) :: rest),
    .accepted keeper.view between rest lines ⟨rfl, rfl⟩ ?_ rfl ?_ rfl, ?_⟩
  · simp [between, Event.asked?]
  · simp [between]
  · rw [placeOrder_eq]
    refine .ask (.ok none) ?_
    change Runs ((createOrder config (Cart.orderRequest keeper.lines)).bind _) keeper _ _ _
    rw [createOrder_eq sound]
    apply Runs.own
    · exact rfl
    apply Runs.own
    · exact rfl
    change Runs (conclude _ ((classify exchanged).bind _)) _ _ _ _
    rw [granted, conclude, settle_eq]
    refine (Flow.runs_others _ keeper meanwhile).append (.ask (.ok none) ?_)
    apply Runs.own
    · exact rfl
    exact .stay _ _

/-- What is in the cart when an accepted order leaves it stays as it is, if the product was not in
the cart when the order was drawn up. From the lines of all other products the ordered units are
taken, also from a line that has come since. -/
theorem unordered_lines_stay (config : ServerConfig)
    (past : List (Cart.Lookup × Cart.Request)) {record : Order.Record}
    (run : Runs (placeOrder config) (({} : Keeper).handleAll past) events (.done (.ok record))
      final) :
    (∃ before meanwhile after,
        Acceptance (({} : Keeper).handleAll past) events before meanwhile after) ∧
      ∀ {before meanwhile after : List (Cart.Lookup × Cart.Request)},
        Acceptance (({} : Keeper).handleAll past) events before meanwhile after → ∃ taken,
          Takes (({} : Keeper).handleAll (past ++ before)).lines
            (({} : Keeper).handleAll (past ++ before ++ meanwhile)) taken ∧
          final = taken.handleAll after ∧
          ∀ line ∈ (({} : Keeper).handleAll (past ++ before ++ meanwhile)).lines,
            line ∈ taken.lines ↔
              line.id ∉ (({} : Keeper).handleAll (past ++ before)).lines.map (·.id) := by
  obtain ⟨before, meanwhile, after, acceptance, reached⟩ := placeOrder_acceptance run
  refine ⟨⟨before, meanwhile, after, acceptance⟩, fun other => ?_⟩
  obtain ⟨rfl, rfl, rfl⟩ := acceptance.unique other
  have ordered : Proper (({} : Keeper).handleAll (past ++ before)).lines :=
    Keeper.handleAll_proper Cart.proper_nil _
  have current : Proper (({} : Keeper).handleAll (past ++ before ++ meanwhile)).lines :=
    Keeper.handleAll_proper Cart.proper_nil _
  have takes := takes_ordered ordered.distinct current
  refine ⟨_, takes, ?_, fun line member => ?_⟩
  · rw [reached, List.append_assoc, Keeper.handleAll_append _ past, Keeper.handleAll_append _ past]
  · rw [takes.lines, Cart.mem_deduct_iff current _ member, ← Cart.held_pos_iff ordered.positive,
      Nat.pos_iff_ne_zero, not_not]

theorem unordered_lines_stay_water :
    ∃ events final record,
      Runs (placeOrder {}) (({} : Keeper).handleAll [(.ok none, .change (.add burger))]) events
        (.done (.ok record)) final ∧
      Acceptance (({} : Keeper).handleAll [(.ok none, .change (.add burger))]) events []
        [(.ok none, .change (.add water))] [] ∧
      { water with qty := 1 } ∈ final.lines := by
  obtain ⟨events, acceptance, run⟩ := placeOrder_meanwhile {}
    (({} : Keeper).handleAll [(.ok none, .change (.add burger))])
    [(.ok none, .change (.add water))] rfl receipt_granted
  obtain ⟨taken, -, rest, stays⟩ := (unordered_lines_stay {} _ run).2 acceptance
  refine ⟨events, _, _, run, acceptance, ?_⟩
  rw [rest]
  exact (stays { water with qty := 1 } (by decide)).mpr (by decide)

def Shopping : Cart.Request → Prop
  | .change (.add _) | .change (.increase _) | .change (.decrease _) | .change .clear => True
  | .change (.removeOrdered _) | .view | .hydrate | .flush => False

def Created (keeper : Keeper) (served : List (Cart.Lookup × Cart.Request)) (id : String) : Prop :=
  ∃ first stored product second, served = first ++ (stored, .change (.add product)) :: second ∧
    product.id = id ∧ id ∉ (keeper.handleAll first).lines.map (·.id)

-- On the way the cart is cleared and another burger is put into it.
theorem newcomer_taken :
    ¬∀ {config : ServerConfig} {past before meanwhile after : List (Cart.Lookup × Cart.Request)}
        {events : List Event} {record : Order.Record} {final taken : Keeper},
      Runs (placeOrder config) (({} : Keeper).handleAll past) events (.done (.ok record)) final →
        Acceptance (({} : Keeper).handleAll past) events before meanwhile after →
        (∀ entry ∈ meanwhile, Shopping entry.2) →
        Takes (({} : Keeper).handleAll (past ++ before)).lines
          (({} : Keeper).handleAll (past ++ before ++ meanwhile)) taken →
        ∀ line ∈ (({} : Keeper).handleAll (past ++ before ++ meanwhile)).lines,
          Created (({} : Keeper).handleAll (past ++ before)) meanwhile line.id →
            line ∈ taken.lines := by
  intro stays
  let past : List (Cart.Lookup × Cart.Request) := [(.ok none, .change (.add burger))]
  let meanwhile : List (Cart.Lookup × Cart.Request) :=
    [(.ok none, .change .clear), (.ok none, .change (.add burger))]
  obtain ⟨events, acceptance, run⟩ :=
    placeOrder_meanwhile {} (({} : Keeper).handleAll past) meanwhile rfl receipt_granted
  have ordered : Proper (({} : Keeper).handleAll past).lines :=
    Keeper.handleAll_proper Cart.proper_nil past
  have current : Proper (({} : Keeper).handleAll (past ++ meanwhile)).lines :=
    Keeper.handleAll_proper Cart.proper_nil _
  have shopping : ∀ entry ∈ meanwhile, Shopping entry.2 := by simp [meanwhile, Shopping]
  have created : Created (({} : Keeper).handleAll past) meanwhile burger.id :=
    ⟨[(.ok none, .change .clear)], .ok none, burger, [], rfl, rfl, by decide⟩
  have kept := stays run acceptance shopping (takes_ordered ordered.distinct current)
    { burger with qty := 1 } (by decide) created
  exact absurd kept (by decide)

end Canteen.Client
