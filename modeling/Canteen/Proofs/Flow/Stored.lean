import Canteen.Proofs.Flow.Interleaved
import Canteen.Proofs.Flow.Storing

set_option autoImplicit false

namespace Canteen

def Effect.OnStore : Effect → Prop
  | .read _ | .write _ _ | .erase _ => True
  | .exchange _ _ | .pause _ | .ask _ | .announce _ => False

def Effect.request? : Effect → Option Cart.Request
  | .ask request => some request
  | .read _ | .write _ _ | .erase _ | .exchange _ _ | .pause _ | .announce _ => none

namespace Flow

open Cart (Keeper)

variable {α β : Type}

def Event.deed? : Event → Option ((effect : Effect) × effect.Reply)
  | .own effect reply => some ⟨effect, reply⟩
  | .other _ _ => none

-- What the flow itself did, each with the reply to it.
def performed (events : List Event) : List ((effect : Effect) × effect.Reply) :=
  events.filterMap Event.deed?

@[simp] theorem performed_others (served : List (Cart.Lookup × Cart.Request)) :
    performed (others served) = [] := by
  simp [performed, others, Event.deed?]

@[simp] theorem performed_append (first second : List Event) :
    performed (first ++ second) = performed first ++ performed second :=
  List.filterMap_append

@[simp] theorem performed_own (effect : Effect) (reply : effect.Reply) (rest : List Event) :
    performed (.own effect reply :: rest) = ⟨effect, reply⟩ :: performed rest := rfl

theorem mem_performed {effect : Effect} {reply : effect.Reply} {events : List Event} :
    ⟨effect, reply⟩ ∈ performed events ↔ .own effect reply ∈ events := by
  simp only [performed, List.mem_filterMap]
  constructor
  · rintro ⟨event, member, same⟩
    cases event with
    | own =>
      cases same
      exact member
    | other => cases same
  · exact fun member => ⟨_, member, rfl⟩

theorem asked_eq_performed (events : List Event) :
    asked events = ((performed events).map (·.1)).filterMap Effect.request? := by
  rw [asked, performed, List.map_filterMap, List.filterMap_filterMap]
  congr
  funext event
  cases event with
  | own effect => cases effect <;> rfl
  | other => rfl

theorem performed_perform {effect : Effect} {next : effect.Reply → Flow α} {later : Flow α}
    {keeper final : Keeper} {events : List Event}
    (run : Runs (.perform effect next) keeper events later final) :
    (performed events = [] ∧ later = .perform effect next) ∨
      ∃ reply after rest, performed events = ⟨effect, reply⟩ :: performed rest ∧
        Runs (next reply) after rest later final := by
  obtain ⟨waiting, served⟩ | ⟨before, reply, after, rest, split, -, remaining⟩ := runs_perform run
  · exact .inl ⟨served ▸ performed_others _, waiting⟩
  · exact .inr ⟨reply, after, rest, by simp [split], remaining⟩

/-- What happens while a flow is under way, and what others store or erase meanwhile. -/
inductive Happening where
  | here (event : Event)
  | elsewhere (key : String) (value : Option String)

def Happening.event? : Happening → Option Event
  | .here event => some event
  | .elsewhere _ _ => none

def events (happenings : List Happening) : List Event := happenings.filterMap Happening.event?

@[simp] theorem events_append (first second : List Happening) :
    events (first ++ second) = events first ++ events second :=
  List.filterMap_append

@[simp] theorem events_here (event : Event) (rest : List Happening) :
    events (.here event :: rest) = event :: events rest := rfl

theorem mem_events {event : Event} {happenings : List Happening} :
    event ∈ events happenings ↔ .here event ∈ happenings := by
  simp only [events, List.mem_filterMap]
  constructor
  · rintro ⟨happening, member, same⟩
    cases happening with
    | here => exact Option.some.inj same ▸ member
    | elsewhere => cases same
  · exact fun member => ⟨_, member, rfl⟩

def Happening.leaves (held : String → Option String) : Happening → String → Option String
  | .here (.own (.write key value) result) => Store.updated held key (some value) result
  | .here (.own (.erase key) result) => Store.updated held key none result
  | .here _ => held
  | .elsewhere key value => Function.update held key value

def heldAfter (held : String → Option String) (happenings : List Happening) :
    String → Option String :=
  happenings.foldl Happening.leaves held

theorem heldAfter_append (held : String → Option String) (first second : List Happening) :
    heldAfter held (first ++ second) = heldAfter (heldAfter held first) second :=
  List.foldl_append

def Told (held : String → Option String) (happenings : List Happening) : Prop :=
  ∀ before key value after,
    happenings = before ++ .here (.own (.read key) (.ok value)) :: after →
      value = heldAfter held before key

theorem told_nil (held : String → Option String) : Told held [] := by simp [Told]

theorem told_cons {held : String → Option String} {happening : Happening}
    {rest : List Happening} :
    Told held (happening :: rest) ↔
      (∀ key value, happening = .here (.own (.read key) (.ok value)) → value = held key) ∧
        Told (happening.leaves held) rest := by
  constructor
  · intro told
    refine ⟨fun key value same => told [] key value rest (same ▸ rfl), ?_⟩
    intro before key value after split
    exact told (happening :: before) key value after (split ▸ rfl)
  · rintro ⟨first, told⟩ before key value after split
    cases before with
    | nil =>
      obtain ⟨same, -⟩ := List.cons.inj split
      exact first key value same
    | cons other before =>
      obtain ⟨rfl, rfl⟩ := List.cons.inj split
      exact told before key value after rfl

def Happening.Serves (store : Store) : Happening → Store → Prop
  | .here (.own (.read key) reply), after =>
      after = store ∧ (reply = store.get key ∨ ∃ reason, reply = .error reason)
  | .here (.own (.write key value) reply), after =>
      (reply, after) = store.set key value ∨ after = store ∧ ∃ reason, reply = .error reason
  | .here (.own (.erase key) reply), after =>
      (reply, after) = store.delete key ∨ after = store ∧ ∃ reason, reply = .error reason
  | .here _, after => after = store
  | .elsewhere key (some value), after => (.ok (), after) = store.set key value
  | .elsewhere key none, after => (.ok (), after) = store.delete key

inductive Kept : Store → List Happening → Store → Prop where
  | nil (store : Store) : Kept store [] store
  | cons {store between after : Store} {happening : Happening} {rest : List Happening}
      (serves : happening.Serves store between) (later : Kept between rest after) :
      Kept store (happening :: rest) after

theorem content_of_set {store after : Store} (sound : store.Sound) {key value : String}
    {reply : Except StoreError Unit} (served : (reply, after) = store.set key value) :
    after.Sound ∧ after.content = Store.updated store.content key (some value) reply := by
  obtain ⟨rfl, rfl⟩ := Prod.mk.inj served
  exact ⟨Store.sound_set sound key value, Store.content_set sound key value⟩

theorem content_of_delete {store after : Store} (sound : store.Sound) {key : String}
    {reply : Except StoreError Unit} (served : (reply, after) = store.delete key) :
    after.Sound ∧ after.content = Store.updated store.content key none reply := by
  obtain ⟨rfl, rfl⟩ := Prod.mk.inj served
  exact ⟨Store.sound_delete sound key, Store.content_delete sound key⟩

theorem Happening.Serves.content {store after : Store} {happening : Happening}
    (serves : happening.Serves store after) (sound : store.Sound) :
    after.Sound ∧ after.content = happening.leaves store.content := by
  cases happening with
  | elsewhere key value =>
    cases value with
    | some value => exact content_of_set sound serves
    | none => exact content_of_delete sound serves
  | here event =>
    cases event with
    | other =>
      obtain rfl := serves
      exact ⟨sound, rfl⟩
    | own effect reply =>
      cases effect with
      | write key value =>
        obtain served | ⟨rfl, reason, rfl⟩ := serves
        · exact content_of_set sound served
        · exact ⟨sound, rfl⟩
      | erase key =>
        obtain served | ⟨rfl, reason, rfl⟩ := serves
        · exact content_of_delete sound served
        · exact ⟨sound, rfl⟩
      | read key =>
        obtain ⟨rfl, -⟩ := serves
        exact ⟨sound, rfl⟩
      | exchange | pause | ask | announce =>
        obtain rfl := serves
        exact ⟨sound, rfl⟩

theorem Kept.content {store after : Store} {happenings : List Happening}
    (kept : Kept store happenings after) (sound : store.Sound) :
    after.content = heldAfter store.content happenings := by
  induction kept with
  | nil store => rfl
  | cons serves later ih =>
    obtain ⟨whole, same⟩ := serves.content sound
    rw [ih whole, same]
    rfl

theorem Kept.told {store after : Store} {happenings : List Happening}
    (kept : Kept store happenings after) (sound : store.Sound) :
    Told store.content happenings := by
  induction kept with
  | nil store => exact told_nil _
  | cons serves later ih =>
    obtain ⟨whole, same⟩ := serves.content sound
    refine told_cons.mpr ⟨?_, same ▸ ih whole⟩
    rintro key value rfl
    obtain ⟨-, found | ⟨reason, ⟨⟩⟩⟩ := serves
    simp [Store.content, ← found]

def Happening.Sets (key : String) (value : Option String) : Happening → Prop
  | .here (.own (.write other text) (.ok ())) => other = key ∧ some text = value
  | .here (.own (.erase other) (.ok ())) => other = key ∧ none = value
  | .here _ => False
  | .elsewhere other found => other = key ∧ found = value

theorem Happening.Sets.some_cases {happening : Happening} {key text : String}
    (sets : happening.Sets key (some text)) :
    happening = .elsewhere key (some text) ∨
      happening = .here (.own (.write key text) (.ok ())) := by
  match happening, sets with
  | .elsewhere _ _, ⟨rfl, rfl⟩ => exact .inl rfl
  | .here (.own (.write _ _) (.ok ())), ⟨rfl, rfl⟩ => exact .inr rfl

theorem Happening.leaves_cases (held : String → Option String) (happening : Happening)
    (key : String) :
    happening.leaves held key = held key ∨ happening.Sets key (happening.leaves held key) := by
  have changed (other : String) (value : Option String) :
      Function.update held other value key = held key ∨
        other = key ∧ value = Function.update held other value key := by
    by_cases same : other = key
    · subst same
      simp
    · simp [Function.update_of_ne (Ne.symm same)]
  cases happening with
  | elsewhere other value => exact changed other value
  | here event =>
    cases event with
    | other => exact .inl rfl
    | own effect reply =>
      cases effect with
      | write other text =>
        cases reply with
        | error => exact .inl rfl
        | ok => exact changed other (some text)
      | erase other =>
        cases reply with
        | error => exact .inl rfl
        | ok => exact changed other none
      | read | exchange | pause | ask | announce => exact .inl rfl

theorem heldAfter_of_sets {P : Option String → Prop} {held : String → Option String} {key : String}
    {happenings : List Happening} (start : P (held key))
    (sets : ∀ happening ∈ happenings, ∀ value, happening.Sets key value → P value) :
    P (heldAfter held happenings key) := by
  induction happenings generalizing held with
  | nil => exact start
  | cons happening rest ih =>
    refine ih ?_ fun other member => sets other (List.mem_cons_of_mem _ member)
    rcases happening.leaves_cases held key with same | changed
    · rwa [same]
    · exact sets happening List.mem_cons_self _ changed

theorem Storeless.runs {flow later : Flow α} {keeper final : Keeper} {events : List Event}
    (storeless : flow.Storeless) (run : Runs flow keeper events later final) {effect : Effect}
    {reply : effect.Reply} (member : .own effect reply ∈ events) : ¬effect.Stores := by
  induction run with
  | stay => cases member
  | other stored request rest ih =>
    rcases List.mem_cons.mp member with first | later
    · cases first
    · exact ih storeless later
  | own answer replies rest ih =>
    cases storeless with
    | perform idle rest =>
    rcases List.mem_cons.mp member with first | later
    · cases first
      exact idle
    · exact ih (rest _) later

theorem Storeless.elsewhere_of_sets {flow later : Flow α} {keeper final : Keeper}
    {happenings : List Happening} (storeless : flow.Storeless)
    (run : Runs flow keeper (events happenings) later final) {happening : Happening}
    (member : happening ∈ happenings) {key : String} {value : Option String}
    (sets : happening.Sets key value) : happening = .elsewhere key value := by
  cases happening with
  | elsewhere =>
    obtain ⟨rfl, rfl⟩ := sets
    rfl
  | here event =>
    cases event with
    | other => cases sets
    | own effect reply =>
      have idle := storeless.runs run (mem_events.mpr member)
      cases effect with
      | write | erase => exact absurd trivial idle
      | read | exchange | pause | ask | announce => cases sets

inductive Detached : Flow α → Prop where
  | done (a : α) : Detached (.done a)
  | perform {effect : Effect} {next : effect.Reply → Flow α} (apart : ¬effect.OnStore)
      (rest : ∀ reply, Detached (next reply)) : Detached (.perform effect next)

theorem Detached.bind {flow : Flow α} {f : α → Flow β} (first : flow.Detached)
    (others : ∀ a, (f a).Detached) : (flow.bind f).Detached := by
  induction first with
  | done a => exact others a
  | perform apart rest ih => exact .perform apart ih

theorem Detached.run_eq {σ : Type} {flow : Flow α} (detached : flow.Detached)
    {around other : Surroundings σ}
    (agree : ∀ effect s, ¬effect.OnStore → other.reply effect s = around.reply effect s) (s : σ) :
    flow.run other s = flow.run around s := by
  induction detached generalizing s with
  | done a => rfl
  | perform apart rest ih =>
    rw [run, run, agree _ s apart]
    exact ih _ _

end Flow

end Canteen
