import Canteen.Flow
import Canteen.Proofs.Cart.Proper

set_option autoImplicit false

namespace Canteen.Flow

open Cart (Keeper Lookup)

variable {α β : Type}

inductive Event where
  | own (effect : Effect) (reply : effect.Reply)
  | other (stored : Lookup) (request : Cart.Request)

-- A keeper that gives no answer has not handled the request.
def Replies (keeper : Keeper) : (effect : Effect) → effect.Reply → Keeper → Prop
  | .ask request, .ok reply, next => ∃ stored, keeper.handle stored request = (next, reply)
  | .ask _, .error _, next => next = keeper
  | .read _, _, next => next = keeper
  | .write _ _, _, next => next = keeper
  | .erase _, _, next => next = keeper
  | .exchange _ _, _, next => next = keeper
  | .pause _, _, next => next = keeper
  | .announce _, _, next => next = keeper

/-- The flow as far as the events have brought it, and the keeper after them. Between any two
effects others may be served, and what comes from outside the keeper is arbitrary. -/
inductive Runs : Flow α → Keeper → List Event → Flow α → Keeper → Prop where
  | stay (flow : Flow α) (keeper : Keeper) : Runs flow keeper [] flow keeper
  | other {flow later : Flow α} {keeper final : Keeper} {events : List Event}
      (stored : Lookup) (request : Cart.Request)
      (rest : Runs flow (keeper.handle stored request).1 events later final) :
      Runs flow keeper (.other stored request :: events) later final
  | own {effect : Effect} {next : effect.Reply → Flow α} {later : Flow α}
      {keeper after final : Keeper} {events : List Event} (reply : effect.Reply)
      (replies : Replies keeper effect reply after)
      (rest : Runs (next reply) after events later final) :
      Runs (.perform effect next) keeper (.own effect reply :: events) later final

theorem Runs.ask {request : Cart.Request} {next : (Effect.ask request).Reply → Flow α}
    {later : Flow α} {keeper final : Keeper} {events : List Event} (stored : Lookup)
    (rest : Runs (next (.ok (keeper.handle stored request).2)) (keeper.handle stored request).1
      events later final) :
    Runs (.perform (.ask request) next) keeper
      (.own (.ask request) (.ok (keeper.handle stored request).2) :: events) later final :=
  .own _ ⟨stored, rfl⟩ rest

def Event.request? : Event → Option (Lookup × Cart.Request)
  | .own _ _ => none
  | .other stored request => some (stored, request)

def Event.asked? : Event → Option Cart.Request
  | .own (.ask request) _ => some request
  | _ => none

def Event.sent? : Event → Option Outgoing
  | .own (.exchange request _) _ => some request
  | _ => none

def requests (events : List Event) : List (Lookup × Cart.Request) :=
  events.filterMap Event.request?

def asked (events : List Event) : List Cart.Request := events.filterMap Event.asked?

def sent (events : List Event) : List Outgoing := events.filterMap Event.sent?

def others (served : List (Lookup × Cart.Request)) : List Event :=
  served.map fun (stored, request) => .other stored request

@[simp] theorem requests_others (served : List (Lookup × Cart.Request)) :
    requests (others served) = served := by
  induction served with
  | nil => rfl
  | cons first rest ih =>
    rw [others, List.map_cons, ← others, requests, List.filterMap_cons, ← requests, ih]
    rfl

@[simp] theorem asked_others (served : List (Lookup × Cart.Request)) :
    asked (others served) = [] := by
  simp [asked, others, Event.asked?]

@[simp] theorem sent_others (served : List (Lookup × Cart.Request)) :
    sent (others served) = [] := by
  simp [sent, others, Event.sent?]

@[simp] theorem requests_append (first second : List Event) :
    requests (first ++ second) = requests first ++ requests second :=
  List.filterMap_append

@[simp] theorem asked_append (first second : List Event) :
    asked (first ++ second) = asked first ++ asked second :=
  List.filterMap_append

@[simp] theorem sent_append (first second : List Event) :
    sent (first ++ second) = sent first ++ sent second :=
  List.filterMap_append

@[simp] theorem requests_own (effect : Effect) (reply : effect.Reply) (rest : List Event) :
    requests (.own effect reply :: rest) = requests rest := rfl

@[simp] theorem asked_cons (event : Event) (rest : List Event) :
    asked (event :: rest) = event.asked?.toList ++ asked rest := by
  cases question : event.asked? <;> simp [asked, question]

@[simp] theorem sent_cons (event : Event) (rest : List Event) :
    sent (event :: rest) = event.sent?.toList ++ sent rest := by
  cases message : event.sent? <;> simp [sent, message]

theorem runs_others (flow : Flow α) (keeper : Keeper) (served : List (Lookup × Cart.Request)) :
    Runs flow keeper (others served) flow (keeper.handleAll served) := by
  induction served generalizing keeper with
  | nil => exact .stay flow keeper
  | cons first rest ih => exact .other first.1 first.2 (ih _)

theorem runs_done {a : α} {later : Flow α} {keeper final : Keeper} {events : List Event}
    (run : Runs (.done a) keeper events later final) :
    later = .done a ∧ final = keeper.handleAll (requests events) ∧
      events = others (requests events) := by
  generalize start : Flow.done a = flow at run
  induction run with
  | stay flow keeper => exact ⟨rfl, rfl, rfl⟩
  | other stored request rest ih =>
    obtain ⟨same, reached, served⟩ := ih start
    exact ⟨same, reached, congrArg (Event.other stored request :: ·) served⟩
  | own reply replies rest ih => cases start

theorem runs_perform {effect : Effect} {next : effect.Reply → Flow α} {later : Flow α}
    {keeper final : Keeper} {events : List Event}
    (run : Runs (.perform effect next) keeper events later final) :
    (later = .perform effect next ∧ events = others (requests events)) ∨
      ∃ before reply after rest, events = others before ++ .own effect reply :: rest ∧
        Replies (keeper.handleAll before) effect reply after ∧
        Runs (next reply) after rest later final := by
  generalize start : Flow.perform effect next = flow at run
  induction run with
  | stay flow keeper => exact .inl ⟨rfl, rfl⟩
  | @other _ _ keeper _ _ stored request rest ih =>
    obtain ⟨same, served⟩ | ⟨before, reply, after, tail, split, replies, remaining⟩ := ih start
    · exact .inl ⟨same, congrArg (Event.other stored request :: ·) served⟩
    · refine .inr ⟨(stored, request) :: before, reply, after, tail, ?_, replies, remaining⟩
      rw [split]
      rfl
  | own reply replies rest ih =>
    cases start
    exact .inr ⟨[], reply, _, _, rfl, replies, rest⟩

theorem runs_once {effect : Effect} {f : effect.Reply → α} {later : Flow α}
    {keeper final : Keeper} {events : List Event}
    (run : Runs (.perform effect fun reply => .done (f reply)) keeper events later final) :
    (later = (.perform effect fun reply => .done (f reply)) ∧ events = others (requests events)) ∨
      ∃ before reply next after, events = others before ++ .own effect reply :: others after ∧
        Replies (keeper.handleAll before) effect reply next ∧ later = .done (f reply) ∧
        final = next.handleAll after := by
  obtain waiting | ⟨before, reply, next, rest, split, replies, remaining⟩ := runs_perform run
  · exact .inl waiting
  · obtain ⟨same, reached, served⟩ := runs_done remaining
    exact .inr ⟨before, reply, next, requests rest, served ▸ split, replies, same, reached⟩

theorem runs_bind {flow : Flow α} {f : α → Flow β} {later : Flow β} {keeper final : Keeper}
    {events : List Event} (run : Runs (flow.bind f) keeper events later final) :
    (∃ middle, Runs flow keeper events middle final ∧ later = middle.bind f) ∨
      ∃ a between first second, events = first ++ second ∧
        Runs flow keeper first (.done a) between ∧ Runs (f a) between second later final := by
  generalize start : flow.bind f = whole at run
  induction run generalizing flow with
  | stay whole keeper => exact .inl ⟨flow, .stay flow keeper, start.symm⟩
  | other stored request rest ih =>
    obtain ⟨middle, moved, same⟩ | ⟨a, between, first, second, split, ended, remaining⟩ := ih start
    · exact .inl ⟨middle, .other stored request moved, same⟩
    · refine .inr ⟨a, between, .other stored request :: first, second, ?_,
        .other stored request ended, remaining⟩
      rw [split]
      rfl
  | @own effect next later keeper after final events reply replies rest ih =>
    cases flow with
    | done a =>
      -- The first part is over, so this effect belongs to the second.
      refine .inr ⟨a, keeper, [], _, rfl, .stay _ _, ?_⟩
      change f a = _ at start
      rw [start]
      exact .own reply replies rest
    | perform first more =>
      simp only [bind, perform.injEq] at start
      obtain ⟨rfl, same⟩ := start
      obtain rfl := eq_of_heq same
      obtain ⟨middle, moved, same⟩ | ⟨a, between, first, second, split, ended, remaining⟩ := ih rfl
      · exact .inl ⟨middle, .own reply replies moved, same⟩
      · refine .inr ⟨a, between, .own _ reply :: first, second, ?_, .own reply replies ended,
          remaining⟩
        rw [split]
        rfl

theorem Runs.append {flow middle later : Flow α} {keeper between final : Keeper}
    {first second : List Event} (run : Runs flow keeper first middle between)
    (more : Runs middle between second later final) :
    Runs flow keeper (first ++ second) later final := by
  induction run with
  | stay flow keeper => exact more
  | other stored request rest ih => exact .other stored request (ih more)
  | own reply replies rest ih => exact .own reply replies (ih more)

theorem Runs.split {flow later : Flow α} {keeper final : Keeper} {effect : Effect}
    {reply : effect.Reply} {first second : List Event}
    (run : Runs flow keeper (first ++ .own effect reply :: second) later final) :
    ∃ next middle after, Runs flow keeper first (.perform effect next) middle ∧
      Replies middle effect reply after ∧ Runs (next reply) after second later final := by
  induction first generalizing flow keeper with
  | nil =>
    cases run with
    | own _ replies rest => exact ⟨_, _, _, .stay _ _, replies, rest⟩
  | cons event first ih =>
    cases run with
    | other stored request rest =>
      obtain ⟨next, middle, after, earlier, replies, remaining⟩ := ih rest
      exact ⟨next, middle, after, .other stored request earlier, replies, remaining⟩
    | own answer answers rest =>
      obtain ⟨next, middle, after, earlier, replies, remaining⟩ := ih rest
      exact ⟨next, middle, after, .own answer answers earlier, replies, remaining⟩

theorem runs_map {flow : Flow α} {f : α → β} {later : Flow β} {keeper final : Keeper}
    {events : List Event} (run : Runs (flow.bind fun a => .done (f a)) keeper events later final) :
    ∃ middle, Runs flow keeper events middle final ∧ later = middle.bind fun a => .done (f a) := by
  obtain ⟨middle, moved, same⟩ | ⟨a, between, first, second, split, ended, remaining⟩ := runs_bind run
  · exact ⟨middle, moved, same⟩
  · obtain ⟨same, reached, served⟩ := runs_done remaining
    refine ⟨.done a, ?_, same⟩
    have rest := runs_others (.done a) between (requests second)
    rw [← served] at rest
    rw [split, reached]
    exact ended.append rest

theorem Runs.unasked {flow later : Flow α} {keeper final : Keeper} {events : List Event}
    (run : Runs flow keeper events later final) (silent : asked events = []) :
    final = keeper.handleAll (requests events) := by
  induction run with
  | stay flow keeper => rfl
  | other stored request rest ih => exact ih silent
  | @own effect next later keeper after final events reply replies rest ih =>
    cases effect with
    | ask request => simp [Event.asked?] at silent
    | read | write | erase | exchange | pause | announce =>
      obtain rfl : after = keeper := replies
      exact ih silent

end Canteen.Flow
