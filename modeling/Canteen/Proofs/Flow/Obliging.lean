import Canteen.Proofs.Flow.Storing

set_option autoImplicit false

namespace Canteen

def Effect.outgoing : Effect → List Outgoing
  | .exchange request _ => [request]
  | .read _ | .write _ _ | .erase _ | .pause _ | .ask _ | .announce _ => []

namespace Flow

variable {α β σ : Type}

structure Obliging (around : Surroundings σ) : Prop where
  found : ∀ key s, ∃ value, (around.reply (.read key) s).1 = .ok value
  written : ∀ key value s, (around.reply (.write key value) s).1 = .ok ()
  erased : ∀ key s, (around.reply (.erase key) s).1 = .ok ()

theorem Obliging.read {around : Surroundings σ} {content : σ → String → Option String}
    (obliging : Obliging around) (keeps : Keeps around content) (key : String) (s : σ) :
    (around.reply (.read key) s).1 = .ok (content s key) := by
  obtain ⟨value, found⟩ := obliging.found key s
  rw [found, keeps.found found]

theorem Obliging.content_write {around : Surroundings σ} {content : σ → String → Option String}
    (obliging : Obliging around) (keeps : Keeps around content) (key value : String) (s : σ) :
    content (around.reply (.write key value) s).2 =
      Function.update (content s) key (some value) := by
  rw [keeps.written, obliging.written]
  rfl

def outbox (around : Surroundings σ) : Flow α → σ → List Outgoing
  | .done _, _ => []
  | .perform effect next, s =>
      effect.outgoing ++
        (next (around.reply effect s).1).outbox around (around.reply effect s).2

theorem outbox_bind (around : Surroundings σ) (flow : Flow α) (f : α → Flow β) (s : σ) :
    (flow.bind f).outbox around s =
      flow.outbox around s ++ (f (flow.run around s).1).outbox around (flow.run around s).2 := by
  induction flow generalizing s with
  | done a => rfl
  | perform effect next ih =>
    change effect.outgoing ++ ((next _).bind f).outbox around _ = _
    rw [ih, ← List.append_assoc]
    rfl

def drawer (others : (effect : Effect) → effect.Reply) : Surroundings (Store.Table String) where
  reply
    | .read key, entries => (.ok (entries.get? key), entries)
    | .write key value, entries => (.ok (), entries.insert key value)
    | .erase key, entries => (.ok (), entries.erase key)
    | effect, entries => (others effect, entries)

theorem obliging_drawer (others : (effect : Effect) → effect.Reply) : Obliging (drawer others) :=
  ⟨fun _ _ => ⟨_, rfl⟩, fun _ _ _ => rfl, fun _ _ => rfl⟩

theorem keeps_drawer (others : (effect : Effect) → effect.Reply) :
    Keeps (drawer others) fun entries => (Store.memory entries).content where
  found read := (Except.ok.inj read).symm
  written key value entries := @Store.content_set (.memory entries) trivial key value
  erased key entries := @Store.content_delete (.memory entries) trivial key
  untouched {effect} entries idle := by
    cases effect with
    | read | exchange | pause | ask | announce => rfl
    | write | erase => exact absurd trivial idle

end Flow

end Canteen
