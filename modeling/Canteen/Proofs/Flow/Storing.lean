import Canteen.Flow
import Canteen.Proofs.Store.Content

set_option autoImplicit false

namespace Canteen

def Effect.Stores : Effect → Prop
  | .write _ _ | .erase _ => True
  | .read _ | .exchange _ _ | .pause _ | .ask _ | .announce _ => False

namespace Flow

variable {α β σ : Type}

/-- What the surroundings hold under each key goes by the answers of their store: it is found by
reading, changed by what is not refused, and left alone by all else. -/
structure Keeps (around : Surroundings σ) (content : σ → String → Option String) : Prop where
  found : ∀ {key s value}, (around.reply (.read key) s).1 = .ok value → value = content s key
  written : ∀ key value s, content (around.reply (.write key value) s).2 =
    Store.updated (content s) key (some value) (around.reply (.write key value) s).1
  erased : ∀ key s, content (around.reply (.erase key) s).2 =
    Store.updated (content s) key none (around.reply (.erase key) s).1
  untouched : ∀ {effect : Effect} (s), ¬effect.Stores →
    content (around.reply effect s).2 = content s

inductive Storeless : Flow α → Prop where
  | done (a : α) : Storeless (.done a)
  | perform {effect : Effect} {next : effect.Reply → Flow α} (idle : ¬effect.Stores)
      (rest : ∀ reply, Storeless (next reply)) : Storeless (.perform effect next)

theorem Storeless.bind {flow : Flow α} {f : α → Flow β} (first : flow.Storeless)
    (others : ∀ a, (f a).Storeless) : (flow.bind f).Storeless := by
  induction first with
  | done a => exact others a
  | perform idle rest ih => exact .perform idle ih

theorem Storeless.content_run {flow : Flow α} (storeless : flow.Storeless)
    {around : Surroundings σ} {content : σ → String → Option String} (keeps : Keeps around content)
    (s : σ) : content (flow.run around s).2 = content s := by
  induction storeless generalizing s with
  | done a => rfl
  | perform idle rest ih => exact (ih _ _).trans (keeps.untouched s idle)

structure Cabinet where
  store : { store : Store // store.Sound }
  turn : Nat := 0

def cabinet (refusal : Nat → Effect → Option StoreError)
    (others : Nat → (effect : Effect) → effect.Reply) : Surroundings Cabinet where
  reply effect s :=
    let (reply, store) : effect.Reply × { store : Store // store.Sound } :=
      match effect, refusal s.turn effect with
      | .read _, some reason | .write _ _, some reason | .erase _, some reason =>
          (.error reason, s.store)
      | .read key, none => (s.store.val.get key, s.store)
      | .write key value, none =>
          ((s.store.val.set key value).1, ⟨_, Store.sound_set s.store.property key value⟩)
      | .erase key, none =>
          ((s.store.val.delete key).1, ⟨_, Store.sound_delete s.store.property key⟩)
      | effect, _ => (others s.turn effect, s.store)
    (reply, { store, turn := s.turn + 1 })

theorem keeps_cabinet (refusal : Nat → Effect → Option StoreError)
    (others : Nat → (effect : Effect) → effect.Reply) :
    Keeps (cabinet refusal others) fun s => s.store.val.content where
  found {key s value} read := by
    cases refused : refusal s.turn (.read key) with
    | none =>
      simp only [cabinet, refused] at read
      simp [Store.content, read]
    | some reason => simp [cabinet, refused] at read
  written key value s := by
    cases refused : refusal s.turn (.write key value) with
    | none => simp [cabinet, refused, Store.content_set s.store.property]
    | some reason => simp [cabinet, refused, Store.updated]
  erased key s := by
    cases refused : refusal s.turn (.erase key) with
    | none => simp [cabinet, refused, Store.content_delete s.store.property]
    | some reason => simp [cabinet, refused, Store.updated]
  untouched {effect} s idle := by
    cases effect with
    | read key => cases refused : refusal s.turn (.read key) <;> simp [cabinet, refused]
    | write | erase => exact absurd trivial idle
    | exchange | pause | ask | announce => simp [cabinet]

end Flow

end Canteen
