import Canteen.Cart.Keeper
import Canteen.Failure
import Canteen.Notice
import Canteen.Request

set_option autoImplicit false

namespace Canteen

-- None when the time limit came first.
abbrev Exchanged := Option (Except LinkError Response)

inductive Effect where
  | read (key : String)
  | write (key value : String)
  | erase (key : String)
  | exchange (request : Outgoing) (limit : Nat)
  | pause (millis : Nat)
  | ask (request : Cart.Request)
  | announce (notice : Notice)

abbrev Effect.Reply : Effect → Type
  | .read _ => Cart.Lookup
  | .write _ _ => Except StoreError Unit
  | .erase _ => Except StoreError Unit
  | .exchange _ _ => Exchanged
  | .pause _ => Unit
  | .ask request => Except CartError request.Reply
  | .announce _ => Unit

/-- An action of the client: its effects one after another, each depending on the replies before. -/
inductive Flow (α : Type) where
  | done (a : α)
  | perform (effect : Effect) (next : effect.Reply → Flow α)

namespace Flow

variable {α β : Type}

def bind : Flow α → (α → Flow β) → Flow β
  | .done a, f => f a
  | .perform effect next, f => .perform effect fun reply => (next reply).bind f

instance : Monad Flow where
  pure := .done
  bind := bind

def effect (e : Effect) : Flow e.Reply := .perform e .done

def read (key : String) : Flow Cart.Lookup := effect (.read key)
def write (key value : String) : Flow (Except StoreError Unit) := effect (.write key value)
def erase (key : String) : Flow (Except StoreError Unit) := effect (.erase key)
def exchange (request : Outgoing) (limit : Nat) : Flow Exchanged := effect (.exchange request limit)
def pause (millis : Nat) : Flow Unit := effect (.pause millis)
def ask (request : Cart.Request) : Flow (Except CartError request.Reply) := effect (.ask request)
def announce (notice : Notice) : Flow Unit := effect (.announce notice)

theorem bind_done (flow : Flow α) : flow.bind .done = flow := by
  induction flow with
  | done a => rfl
  | perform effect next ih => simp [bind, ih]

theorem bind_bind {γ : Type} (flow : Flow α) (f : α → Flow β) (g : β → Flow γ) :
    (flow.bind f).bind g = flow.bind fun a => (f a).bind g := by
  induction flow with
  | done a => rfl
  | perform effect next ih => simp [bind, ih]

instance : LawfulMonad Flow := LawfulMonad.mk' Flow
  (fun flow => bind_done flow)
  (fun _ _ => rfl)
  (fun flow f g => bind_bind flow f g)

/-- The part of the world that a flow can see, for a flow that nobody disturbs. -/
structure Surroundings (σ : Type) where
  reply : (effect : Effect) → σ → effect.Reply × σ

def run {σ : Type} (around : Surroundings σ) : Flow α → σ → α × σ
  | .done a, s => (a, s)
  | .perform effect next, s =>
      let (reply, s) := around.reply effect s
      (next reply).run around s

theorem run_bind {σ : Type} (around : Surroundings σ) (flow : Flow α) (f : α → Flow β) (s : σ) :
    (flow.bind f).run around s =
      (f (flow.run around s).1).run around (flow.run around s).2 := by
  induction flow generalizing s with
  | done a => rfl
  | perform effect next ih => exact ih _ _

end Flow

end Canteen
