import Mathlib.Data.List.Nodup
import Mathlib.Data.List.Perm.Subperm
import Mathlib.Data.List.Range
import Canteen.Tracking.Poller

set_option autoImplicit false

namespace Canteen.Tracking

-- Who drops a tracker disposes of it.
inductive Turn where
  | begin (now : Nat)
  | tick
  | askRetry
  | takeRetry
  | dispose
deriving DecidableEq, Repr

namespace Turn

def apply (poller : Poller) : Turn → Poller
  | .begin now => poller.begin now
  | .tick => poller.tick
  | .askRetry => poller.askRetry.2
  | .takeRetry => poller.takeRetry
  | .dispose => poller.dispose

def Due (poller : Poller) : Turn → Prop
  | .begin _ => poller.phase = .idle
  | .tick => poller.phase = .running
  | .askRetry => poller.isActive = true
  | .takeRetry => poller.phase = .running ∧ poller.retryAsked = true
  | .dispose => poller.isActive = true

inductive Makes (poller : Poller) : Turn → Poller → Prop where
  | nothing {turn : Turn} (undue : ¬turn.Due poller) : Makes poller turn poller
  | begin {now : Nat} (due : (Turn.begin now).Due poller) :
      Makes poller (.begin now)
        { poller with
          phase := .running, nextTick := now + poller.period, issued := poller.issued + 1 }
  | tick (due : Turn.tick.Due poller) :
      Makes poller .tick
        { poller with nextTick := poller.nextTick + poller.period, issued := poller.issued + 1 }
  | askRetry (due : Turn.askRetry.Due poller) :
      Makes poller .askRetry { poller with retryAsked := true }
  | takeRetry (due : Turn.takeRetry.Due poller) :
      Makes poller .takeRetry
        { poller with retryAsked := false, issued := poller.issued + 1 }
  | dispose (due : Turn.dispose.Due poller) :
      Makes poller .dispose { poller with phase := .disposed }

theorem makes (poller : Poller) (turn : Turn) : Makes poller turn (turn.apply poller) := by
  by_cases due : turn.Due poller
  · cases turn with
    | begin now =>
      have idle : poller.phase = .idle := due
      simpa [apply, Poller.begin, Poller.issue, idle] using Makes.begin due
    | tick =>
      have running : poller.phase = .running := due
      simpa [apply, Poller.tick, Poller.issue, running] using Makes.tick due
    | askRetry =>
      have active : poller.isActive = true := due
      simpa [apply, Poller.askRetry, active] using Makes.askRetry due
    | takeRetry =>
      have asked : poller.phase = .running ∧ poller.retryAsked = true := due
      simpa [apply, Poller.takeRetry, Poller.issue, asked] using Makes.takeRetry due
    | dispose =>
      have active : poller.isActive = true := due
      simpa [apply, Poller.dispose, active] using Makes.dispose due
  · have same : turn.apply poller = poller := by
      cases turn with
      | askRetry => exact congrArg Prod.snd (if_neg due)
      | begin | tick | takeRetry | dispose => exact if_neg due
    rw [same]
    exact .nothing due

variable {poller next : Poller} {turn : Turn}

theorem Makes.state (makes : Makes poller turn next) : next.state = poller.state := by
  cases makes <;> rfl

theorem Makes.applied (makes : Makes poller turn next) : next.applied = poller.applied := by
  cases makes <;> rfl

theorem Makes.issued (makes : Makes poller turn next) : poller.issued ≤ next.issued := by
  cases makes <;> simp

theorem not_due_of_stopped (turn : Turn) (stopped : poller.isActive = false) :
    ¬turn.Due poller := by
  intro due
  have stays : poller.phase ≠ .idle ∧ poller.phase ≠ .running := by
    simpa [Poller.isActive] using stopped
  cases turn with
  | begin now => exact stays.1 due
  | tick => exact stays.2 due
  | takeRetry => exact stays.2 due.1
  | askRetry | dispose =>
    rw [show poller.isActive = true from due] at stopped
    cases stopped

theorem apply_of_stopped (turn : Turn) (stopped : poller.isActive = false) :
    turn.apply poller = poller := by
  have makes := turn.makes poller
  generalize turn.apply poller = next at makes
  cases makes with
  | nothing => rfl
  | begin due | tick due | askRetry due | takeRetry due | dispose due =>
    exact absurd due (not_due_of_stopped _ stopped)

theorem dispose_stopped (poller : Poller) : poller.dispose.isActive = false := by
  unfold Poller.dispose
  split
  · rfl
  · exact Bool.eq_false_iff.mpr ‹_›

end Turn

inductive Arrives (poller : Poller) (seq : Nat) : Outcome → Poller → Prop where
  | late {outcome : Outcome} (stopped : poller.phase ≠ .running) :
      Arrives poller seq outcome poller
  | stale {outcome : Outcome} (running : poller.phase = .running) (stale : seq < poller.applied) :
      Arrives poller seq outcome poller
  | record {record : Order.Record} (running : poller.phase = .running)
      (fresh : poller.applied ≤ seq) :
      Arrives poller seq (.record record)
        { poller with
          state := poller.state.applyRecord record
          applied := seq
          phase := if record.status.isTerminal then .finished else .running }
  | failed {error : RequestError} (running : poller.phase = .running)
      (fresh : poller.applied ≤ seq) :
      Arrives poller seq (.failed error) { poller with state := poller.state.applyError error }
  | crashed (running : poller.phase = .running) (fresh : poller.applied ≤ seq) :
      Arrives poller seq .crashed poller

theorem arrives (poller : Poller) (seq : Nat) (outcome : Outcome) :
    Arrives poller seq outcome (poller.arrive seq outcome) := by
  unfold Poller.arrive
  split
  · rename_i ignored
    by_cases running : poller.phase = .running
    · exact .stale running (ignored.resolve_left (not_not_intro running))
    · exact .late running
  · rename_i heeded
    rw [not_or, Decidable.not_not, Nat.not_lt] at heeded
    cases outcome with
    | record record => exact .record heeded.1 heeded.2
    | failed error => exact .failed heeded.1 heeded.2
    | crashed => exact .crashed heeded.1 heeded.2

/-- The poller at work, with the books of all that happened: the fetches that were started, those
of them that have not ended yet, and the results that came while the poller was still there to
receive them, oldest first. -/
structure Trail where
  poller : Poller
  started : List Nat := []
  underway : List Nat := []
  received : List (Nat × Outcome) := []

namespace Trail

def opened (orderId : String) (interval : Nat) : Trail := { poller := .start orderId interval }

def take (trail : Trail) (turn : Turn) : Trail :=
  let poller := turn.apply trail.poller
  let numbers := List.range' (trail.poller.issued + 1) (poller.issued - trail.poller.issued)
  { trail with
    poller
    started := trail.started ++ numbers
    underway := trail.underway ++ numbers }

def arrive (trail : Trail) (seq : Nat) (outcome : Outcome) : Trail :=
  { trail with
    poller := trail.poller.arrive seq outcome
    underway := trail.underway.erase seq
    received :=
      if trail.poller.phase = .running then trail.received ++ [(seq, outcome)]
      else trail.received }

inductive Event where
  | turn (turn : Turn)
  | arrive (seq : Nat) (outcome : Outcome)

/-- Turns come in any order and at any time, also those that come to nothing, and each fetch ends
once, in any order and also after the poller has stopped. -/
inductive Step : Trail → Event → Trail → Prop where
  | take (trail : Trail) (turn : Turn) : Step trail (.turn turn) (trail.take turn)
  | arrive (trail : Trail) (seq : Nat) (outcome : Outcome) (begun : seq ∈ trail.underway) :
      Step trail (.arrive seq outcome) (trail.arrive seq outcome)

inductive Run (first : Trail) : List Event → Trail → Prop where
  | stay : Run first [] first
  | next {events : List Event} {event : Event} {trail later : Trail}
      (before : Run first events trail) (step : Step trail event later) :
      Run first (events ++ [event]) later

variable {first trail later : Trail} {events : List Event} {event : Event}

def next? (trail : Trail) : Event → Option Trail
  | .turn turn => some (trail.take turn)
  | .arrive seq outcome =>
      if seq ∈ trail.underway then some (trail.arrive seq outcome) else none

theorem step_of_next? (next : trail.next? event = some later) : Step trail event later := by
  cases event with
  | turn turn =>
    cases next
    exact .take trail turn
  | arrive seq outcome =>
    simp only [next?, Option.ite_none_right_eq_some, Option.some.injEq] at next
    obtain ⟨begun, rfl⟩ := next
    exact .arrive trail seq outcome begun

theorem run_of_foldlM (before : Run first events trail) {more : List Event}
    (rest : more.foldlM next? trail = some later) : Run first (events ++ more) later := by
  induction more generalizing events trail with
  | nil =>
    cases rest
    rwa [List.append_nil]
  | cons event more ih =>
    rw [List.foldlM_cons, Option.bind_eq_bind, Option.bind_eq_some_iff] at rest
    obtain ⟨between, next, rest⟩ := rest
    rw [List.append_cons]
    exact ih (before.next (step_of_next? next)) rest

theorem run_of_replay {events : List Event} (replay : events.foldlM next? first = some later) :
    Run first events later :=
  run_of_foldlM .stay replay

structure Numbered (trail : Trail) : Prop where
  started : trail.started = List.range' 1 trail.poller.issued
  once : (trail.underway ++ trail.received.map (·.1)).Subperm trail.started

theorem numbered_opened (orderId : String) (interval : Nat) :
    Numbered (opened orderId interval) :=
  ⟨rfl, List.nil_subperm⟩

theorem Numbered.take (numbered : Numbered trail) (turn : Turn) : Numbered (trail.take turn) := by
  have grows := (turn.makes trail.poller).issued
  constructor
  · change trail.started ++ List.range' _ _ = List.range' 1 (turn.apply trail.poller).issued
    rw [numbered.started, Nat.add_comm trail.poller.issued 1, List.range'_append_1]
    congr 1
    omega
  · change ((trail.underway ++ List.range' _ _) ++ trail.received.map _).Subperm
      (trail.started ++ List.range' _ _)
    rw [List.append_assoc]
    refine (List.Perm.append_left _ List.perm_append_comm).subperm.trans ?_
    rw [← List.append_assoc]
    exact (List.subperm_append_right _).mpr numbered.once

theorem Numbered.arrive (numbered : Numbered trail) {seq : Nat} (begun : seq ∈ trail.underway)
    (outcome : Outcome) : Numbered (trail.arrive seq outcome) := by
  constructor
  · change trail.started = List.range' 1 (trail.poller.arrive seq outcome).issued
    rw [Poller.arrive_issued]
    exact numbered.started
  · change (trail.underway.erase seq ++ List.map _ (if _ then _ else _)).Subperm trail.started
    refine List.Subperm.trans ?_ numbered.once
    split
    · -- The number only moves from one list to the other.
      apply List.Perm.subperm
      rw [List.map_append, ← List.append_assoc]
      refine (List.perm_append_singleton _ _).trans ?_
      exact (List.perm_cons_erase begun).symm.append_right _
    · exact (List.erase_sublist.append (List.Sublist.refl _)).subperm

def Settled (poller : Poller) : Prop :=
  poller.state.isTerminal = true ↔ poller.phase = .finished

theorem settled_opened (orderId : String) (interval : Nat) :
    Settled (opened orderId interval).poller := by
  simp [Settled, opened, Poller.start, State.initial, State.isTerminal]

theorem Settled.not_terminal {poller : Poller} (settled : Settled poller)
    (running : poller.phase = .running) : poller.state.isTerminal = false := by
  apply Bool.eq_false_iff.mpr
  intro terminal
  rw [settled.mp terminal] at running
  cases running

theorem Settled.makes {poller next : Poller} {turn : Turn} (settled : Settled poller)
    (makes : Turn.Makes poller turn next) : Settled next := by
  unfold Settled at settled ⊢
  rw [makes.state, settled]
  cases makes with
  | nothing undue => rfl
  | tick due | askRetry due | takeRetry due => rfl
  | begin due => simp [show poller.phase = .idle from due]
  | dispose due =>
    have active : poller.phase = .idle ∨ poller.phase = .running := by
      simpa [Turn.Due, Poller.isActive] using due
    obtain idle | running := active <;> simp [*]

theorem Settled.arrives {poller next : Poller} {seq : Nat} {outcome : Outcome}
    (settled : Settled poller) (arrives : Arrives poller seq outcome next) : Settled next := by
  cases arrives with
  | late stopped => exact settled
  | stale running stale => exact settled
  | @record record running fresh =>
    rw [State.applyRecord_of_open _ _ (settled.not_terminal running)]
    cases terminal : record.status.isTerminal <;> simp [Settled, State.isTerminal, terminal]
  | failed running fresh =>
    rw [State.applyError_of_open _ _ (settled.not_terminal running)]
    exact settled
  | crashed running fresh => exact settled

structure Sound (trail : Trail) : Prop where
  numbered : Numbered trail
  settled : Settled trail.poller

theorem Step.arrives {seq : Nat} {outcome : Outcome}
    (step : Step trail (.arrive seq outcome) later) :
    Arrives trail.poller seq outcome later.poller := by
  cases step with
  | arrive _ _ begun => exact Tracking.arrives trail.poller seq outcome

theorem Step.sound (step : Step trail event later) (sound : Sound trail) : Sound later := by
  cases step with
  | take turn => exact ⟨sound.numbered.take turn, sound.settled.makes (turn.makes _)⟩
  | arrive seq outcome begun =>
    exact ⟨sound.numbered.arrive begun outcome, sound.settled.arrives (Tracking.arrives _ _ _)⟩

theorem Run.sound {orderId : String} {interval : Nat}
    (run : Run (opened orderId interval) events trail) : Sound trail := by
  induction run with
  | stay => exact ⟨numbered_opened orderId interval, settled_opened orderId interval⟩
  | next before step earlier => exact step.sound earlier

theorem Run.append {more : List Event} (run : Run first events trail)
    (rest : Run trail more later) : Run first (events ++ more) later := by
  induction rest with
  | stay => rwa [List.append_nil]
  | next before step earlier =>
    rw [← List.append_assoc]
    exact earlier.next step

theorem Step.received_prefix (step : Step trail event later) :
    trail.received <+: later.received := by
  cases step with
  | take turn => exact List.prefix_rfl
  | arrive seq outcome begun =>
    change trail.received <+: if _ then _ else _
    split
    · exact List.prefix_append _ _
    · exact List.prefix_rfl

theorem Run.received_prefix (run : Run first events trail) :
    first.received <+: trail.received := by
  induction run with
  | stay => exact List.prefix_rfl
  | next before step earlier => exact earlier.trans step.received_prefix

theorem Run.received_nodup {orderId : String} {interval : Nat}
    (run : Run (opened orderId interval) events trail) :
    (trail.received.map (·.1)).Nodup := by
  have numbered := run.sound.numbered
  have distinct : trail.started.Nodup := numbered.started ▸ List.nodup_range'
  obtain ⟨some, same, within⟩ := numbered.once
  exact (List.nodup_append.mp (same.nodup_iff.mp (within.nodup distinct))).2.1

end Trail

end Canteen.Tracking
