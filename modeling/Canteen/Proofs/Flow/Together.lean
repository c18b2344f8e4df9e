import Mathlib.Logic.Function.Basic
import Canteen.Proofs.Flow.Interleaved

set_option autoImplicit false

namespace Canteen.Flow

open Cart (Keeper Lookup)

variable {ι α : Type}

-- A reply that the keeper has not given.
def Unheard : (effect : Effect) → effect.Reply → Prop
  | .ask _, .ok _ => False
  | _, _ => True

theorem Unheard.replies {effect : Effect} {reply : effect.Reply} (unheard : Unheard effect reply)
    (keeper : Keeper) : Replies keeper effect reply keeper := by
  cases effect with
  | ask request =>
    cases reply with
    | error error => rfl
    | ok answer => cases unheard
  | read | write | erase | exchange | pause | announce => rfl

-- One turn of several flows: the keeper serves one of them or somebody else, or a flow goes on
-- without the keeper.
inductive Turn (ι : Type) where
  | asked (who : Option ι) (stored : Lookup) (request : Cart.Request) (reply : request.Reply)
  | aside (who : ι) (effect : Effect) (reply : effect.Reply) (unheard : Unheard effect reply)

def Turn.served? : Turn ι → Option (Lookup × Cart.Request)
  | .asked _ stored request _ => some (stored, request)
  | .aside _ _ _ _ => none

def served (turns : List (Turn ι)) : List (Lookup × Cart.Request) := turns.filterMap Turn.served?

variable [DecidableEq ι]

/-- Flows as far as their turns have brought them. They take turns in any order. -/
inductive Together : (ι → Flow α) → Keeper → List (Turn ι) → (ι → Flow α) → Keeper → Prop where
  | stay (flows : ι → Flow α) (keeper : Keeper) : Together flows keeper [] flows keeper
  | other {flows later : ι → Flow α} {keeper final : Keeper} {turns : List (Turn ι)}
      (stored : Lookup) (request : Cart.Request)
      (rest : Together flows (keeper.handle stored request).1 turns later final) :
      Together flows keeper (.asked none stored request (keeper.handle stored request).2 :: turns)
        later final
  | ask {flows later : ι → Flow α} {keeper final : Keeper} {turns : List (Turn ι)} (i : ι)
      {request : Cart.Request} {next : (Effect.ask request).Reply → Flow α} (stored : Lookup)
      (ready : flows i = .perform (.ask request) next)
      (rest : Together (Function.update flows i (next (.ok (keeper.handle stored request).2)))
        (keeper.handle stored request).1 turns later final) :
      Together flows keeper
        (.asked (some i) stored request (keeper.handle stored request).2 :: turns) later final
  | aside {flows later : ι → Flow α} {keeper final : Keeper} {turns : List (Turn ι)} (i : ι)
      {effect : Effect} {next : effect.Reply → Flow α} (reply : effect.Reply)
      (unheard : Unheard effect reply) (ready : flows i = .perform effect next)
      (rest : Together (Function.update flows i (next reply)) keeper turns later final) :
      Together flows keeper (.aside i effect reply unheard :: turns) later final

theorem Together.append {flows middle later : ι → Flow α} {keeper between final : Keeper}
    {first second : List (Turn ι)} (together : Together flows keeper first middle between)
    (more : Together middle between second later final) :
    Together flows keeper (first ++ second) later final := by
  induction together with
  | stay flows keeper => exact more
  | other stored request rest ih => exact .other stored request (ih more)
  | ask i stored ready rest ih => exact .ask i stored ready (ih more)
  | aside i reply unheard ready rest ih => exact .aside i reply unheard ready (ih more)

-- What one of the flows sees of a turn.
def Turn.event? (i : ι) : Turn ι → Option Event
  | .asked who stored request reply =>
      if who = some i then some (.own (.ask request) (.ok reply)) else some (.other stored request)
  | .aside who effect reply _ => if who = i then some (.own effect reply) else none

def seen (i : ι) (turns : List (Turn ι)) : List Event := turns.filterMap (Turn.event? i)

@[simp] theorem seen_cons (i : ι) (turn : Turn ι) (rest : List (Turn ι)) :
    seen i (turn :: rest) = (turn.event? i).toList ++ seen i rest := by
  cases event : turn.event? i <;> simp [seen, event]

@[simp] theorem event?_asked (i : ι) (stored : Lookup) (request : Cart.Request)
    (reply : request.Reply) :
    (Turn.asked (some i) stored request reply).event? i = some (.own (.ask request) (.ok reply)) :=
  if_pos rfl

theorem event?_asked_of_ne {i : ι} {who : Option ι} (different : who ≠ some i) (stored : Lookup)
    (request : Cart.Request) (reply : request.Reply) :
    (Turn.asked who stored request reply).event? i = some (.other stored request) :=
  if_neg different

@[simp] theorem event?_aside (i : ι) {effect : Effect} {reply : effect.Reply}
    (unheard : Unheard effect reply) :
    (Turn.aside i effect reply unheard).event? i = some (.own effect reply) :=
  if_pos rfl

theorem event?_aside_of_ne {i j : ι} (different : j ≠ i) {effect : Effect} {reply : effect.Reply}
    (unheard : Unheard effect reply) : (Turn.aside j effect reply unheard).event? i = none :=
  if_neg different

theorem Together.runs {flows later : ι → Flow α} {keeper final : Keeper} {turns : List (Turn ι)}
    (together : Together flows keeper turns later final) (i : ι) :
    Runs (flows i) keeper (seen i turns) (later i) final := by
  induction together with
  | stay flows keeper => exact .stay _ _
  | other stored request rest ih =>
    rw [seen_cons, event?_asked_of_ne (Option.some_ne_none i).symm]
    exact .other stored request ih
  | ask j stored ready rest ih =>
    by_cases same : j = i
    · subst same
      rw [Function.update_self] at ih
      rw [seen_cons, event?_asked, ready]
      exact .ask stored ih
    · rw [Function.update_of_ne (Ne.symm same)] at ih
      rw [seen_cons, event?_asked_of_ne (mt Option.some.inj same)]
      exact .other stored _ ih
  | aside j reply unheard ready rest ih =>
    by_cases same : j = i
    · subst same
      rw [Function.update_self] at ih
      rw [seen_cons, event?_aside, ready]
      exact .own reply (unheard.replies _) ih
    · rw [Function.update_of_ne (Ne.symm same)] at ih
      rwa [seen_cons, event?_aside_of_ne same]

end Canteen.Flow
