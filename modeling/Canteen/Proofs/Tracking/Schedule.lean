import Mathlib.Data.List.Basic
import Canteen.Proofs.Tracking.Trail

set_option autoImplicit false

namespace Canteen.Tracking

inductive Cause where
  | schedule
  | retry
deriving DecidableEq, Repr

def Turn.cause : Turn → Cause
  | .takeRetry => .retry
  | .begin _ | .tick | .askRetry | .dispose => .schedule

/-- The poller against a clock, with the times of its fetches and what each was for, and the number
of retries that it has agreed to. -/
structure Vigil where
  now : Nat
  poller : Poller
  calls : List (Cause × Nat) := []
  granted : Nat := 0

namespace Vigil

def opened (start : Nat) (orderId : String) (interval : Nat) : Vigil :=
  { now := start, poller := .start orderId interval }

def take (vigil : Vigil) (turn : Turn) : Vigil :=
  let poller := turn.apply vigil.poller
  { vigil with
    poller
    calls := vigil.calls ++
      List.replicate (poller.issued - vigil.poller.issued) (turn.cause, vigil.now)
    granted := vigil.granted + if turn = .askRetry ∧ vigil.poller.askRetry.1 then 1 else 0 }

def arrive (vigil : Vigil) (seq : Nat) (outcome : Outcome) : Vigil :=
  { vigil with poller := vigil.poller.arrive seq outcome }

def wait (vigil : Vigil) (later : Nat) : Vigil := { vigil with now := later }

-- The timer goes off when it is due and at no other time.
def Timely (vigil : Vigil) : Turn → Prop
  | .begin now => now = vigil.now
  | .tick => vigil.poller.phase = .running → vigil.poller.nextTick = vigil.now
  | .askRetry | .takeRetry | .dispose => True

structure Rests (vigil : Vigil) (later : Nat) : Prop where
  forward : vigil.now ≤ later
  begun : vigil.poller.phase ≠ .idle
  unasked : vigil.poller.phase = .running → vigil.poller.retryAsked = false
  early : vigil.poller.phase = .running → later ≤ vigil.poller.nextTick

inductive Event where
  | turn (turn : Turn)
  | arrive (seq : Nat) (outcome : Outcome)
  | wait (later : Nat)

/-- What is due at one time is done in any order, and time goes on when all of it is done. Fetches
end at any time, in any way, or never. -/
inductive Step : Vigil → Event → Vigil → Prop where
  | take (vigil : Vigil) (turn : Turn) (timely : vigil.Timely turn) :
      Step vigil (.turn turn) (vigil.take turn)
  | arrive (vigil : Vigil) (seq : Nat) (outcome : Outcome) :
      Step vigil (.arrive seq outcome) (vigil.arrive seq outcome)
  | wait (vigil : Vigil) (later : Nat) (rests : vigil.Rests later) :
      Step vigil (.wait later) (vigil.wait later)

inductive Run (first : Vigil) : List Event → Vigil → Prop where
  | stay : Run first [] first
  | next {events : List Event} {event : Event} {vigil later : Vigil}
      (before : Run first events vigil) (step : Step vigil event later) :
      Run first (events ++ [event]) later

def times (cause : Cause) (calls : List (Cause × Nat)) : List Nat :=
  (calls.filter (·.1 = cause)).map (·.2)

@[simp] theorem times_nil (cause : Cause) : times cause [] = [] := rfl

@[simp] theorem times_append (cause : Cause) (first second : List (Cause × Nat)) :
    times cause (first ++ second) = times cause first ++ times cause second := by
  simp [times]

@[simp] theorem times_singleton (cause other : Cause) (time : Nat) :
    times cause [(other, time)] = if other = cause then [time] else [] := by
  by_cases same : other = cause <;> simp [times, same]

def slots (start period count : Nat) : List Nat := (List.range count).map (start + · * period)

theorem slots_succ (start period count : Nat) :
    slots start period (count + 1) = slots start period count ++ [start + count * period] := by
  simp [slots, List.range_succ]

variable {vigil between later : Vigil} {turn : Turn} {event : Event} {events more : List Event}
  {start interval : Nat} {orderId : String}

inductive Moves (vigil : Vigil) : Event → Vigil → Prop where
  | nothing {event : Event} : Moves vigil event vigil
  | begin (idle : vigil.poller.phase = .idle) :
      Moves vigil (.turn (.begin vigil.now))
        { vigil with
          poller :=
            { vigil.poller with
              phase := .running
              nextTick := vigil.now + vigil.poller.period
              issued := vigil.poller.issued + 1 }
          calls := vigil.calls ++ [(.schedule, vigil.now)] }
  | tick (running : vigil.poller.phase = .running) (due : vigil.poller.nextTick = vigil.now) :
      Moves vigil (.turn .tick)
        { vigil with
          poller :=
            { vigil.poller with
              nextTick := vigil.poller.nextTick + vigil.poller.period
              issued := vigil.poller.issued + 1 }
          calls := vigil.calls ++ [(.schedule, vigil.now)] }
  | askRetry (active : vigil.poller.isActive = true) :
      Moves vigil (.turn .askRetry)
        { vigil with
          poller := { vigil.poller with retryAsked := true }
          granted := vigil.granted + 1 }
  | takeRetry (running : vigil.poller.phase = .running) (asked : vigil.poller.retryAsked = true) :
      Moves vigil (.turn .takeRetry)
        { vigil with
          poller :=
            { vigil.poller with retryAsked := false, issued := vigil.poller.issued + 1 }
          calls := vigil.calls ++ [(.retry, vigil.now)] }
  | dispose :
      Moves vigil (.turn .dispose) { vigil with poller := { vigil.poller with phase := .disposed } }
  | arrive {seq : Nat} {outcome : Outcome} {poller : Poller}
      (arrives : Arrives vigil.poller seq outcome poller) :
      Moves vigil (.arrive seq outcome) { vigil with poller }
  | wait {later : Nat} (rests : vigil.Rests later) :
      Moves vigil (.wait later) { vigil with now := later }

theorem askRetry_agrees (poller : Poller) : poller.askRetry.1 = poller.isActive := by
  unfold Poller.askRetry
  split <;> simp [*]

theorem Step.moves (step : Step vigil event later) : Moves vigil event later := by
  cases step with
  | arrive seq outcome => exact .arrive (arrives vigil.poller seq outcome)
  | wait later rests => exact .wait rests
  | take turn timely =>
    have makes := turn.makes vigil.poller
    rw [Vigil.take]
    generalize turn.apply vigil.poller = poller at makes
    cases makes with
    | nothing undue =>
      have refused : ¬(turn = .askRetry ∧ vigil.poller.askRetry.1 = true) := by
        rintro ⟨rfl, agreed⟩
        rw [askRetry_agrees] at agreed
        exact undue agreed
      rw [if_neg refused, Nat.sub_self, List.replicate_zero, List.append_nil]
      exact .nothing
    | begin due =>
      obtain rfl := timely
      simpa [Turn.cause] using Moves.begin due
    | tick due => simpa [Turn.cause] using Moves.tick due (timely due)
    | askRetry due =>
      have agreed := (askRetry_agrees vigil.poller).trans due
      simpa [agreed] using Moves.askRetry due
    | takeRetry due => simpa [Turn.cause] using Moves.takeRetry due.1 due.2
    | dispose due => simpa using Moves.dispose

-- A result bears on neither the timer nor the retries, and starts nothing.
structure Framed (poller next : Poller) : Prop where
  period : next.period = poller.period
  issued : next.issued = poller.issued
  nextTick : next.nextTick = poller.nextTick
  retryAsked : next.retryAsked = poller.retryAsked
  idle : next.phase = .idle → poller.phase = .idle
  running : next.phase = .running → poller.phase = .running

theorem framed {poller next : Poller} {seq : Nat} {outcome : Outcome}
    (arrives : Arrives poller seq outcome next) : Framed poller next := by
  cases arrives with
  | late stopped => exact ⟨rfl, rfl, rfl, rfl, id, id⟩
  | stale running stale => exact ⟨rfl, rfl, rfl, rfl, id, id⟩
  | record running fresh =>
    refine ⟨rfl, rfl, rfl, rfl, fun idle => ?_, fun _ => running⟩
    split at idle <;> cases idle
  | failed running fresh => exact ⟨rfl, rfl, rfl, rfl, id, id⟩
  | crashed running fresh => exact ⟨rfl, rfl, rfl, rfl, id, id⟩

structure OnTime (start period : Nat) (vigil : Vigil) : Prop where
  pace : vigil.poller.period = period
  schedule : times .schedule vigil.calls =
    slots start period (times .schedule vigil.calls).length
  fresh : vigil.poller.phase = .idle → vigil.calls = [] ∧ vigil.now = start
  nextTick : vigil.poller.phase = .running →
    vigil.poller.nextTick = start + (times .schedule vigil.calls).length * period
  early : vigil.poller.phase = .running → vigil.now ≤ vigil.poller.nextTick

theorem onTime_opened (start : Nat) (orderId : String) (interval : Nat) :
    OnTime start (max interval Poller.shortestPeriod) (opened start orderId interval) where
  pace := rfl
  schedule := rfl
  fresh _ := ⟨rfl, rfl⟩
  nextTick running := by cases running
  early running := by cases running

theorem OnTime.moves {period : Nat} (onTime : OnTime start period vigil)
    (moves : Moves vigil event later) : OnTime start period later := by
  cases moves with
  | nothing => exact onTime
  | begin idle =>
    obtain ⟨none, now⟩ := onTime.fresh idle
    constructor <;> simp [none, now, onTime.pace, slots]
  | tick running due =>
    have next := onTime.nextTick running
    have count : times .schedule (vigil.calls ++ [(.schedule, vigil.now)]) =
        slots start period ((times .schedule vigil.calls).length + 1) := by
      rw [slots_succ, ← onTime.schedule, ← next, due]
      simp
    constructor
    · exact onTime.pace
    · rw [count]
      simp [slots]
    · intro idle
      rw [show vigil.poller.phase = .idle from idle] at running
      cases running
    · intro _
      simp [next, onTime.pace, Nat.succ_mul, Nat.add_assoc]
    · intro _
      exact (due ▸ Nat.le_add_right _ _)
  | askRetry active => exact ⟨onTime.pace, onTime.schedule, onTime.fresh, onTime.nextTick, onTime.early⟩
  | takeRetry running asked =>
    constructor
    · exact onTime.pace
    · simpa using onTime.schedule
    · intro idle
      rw [show vigil.poller.phase = .idle from idle] at running
      cases running
    · simpa using onTime.nextTick
    · exact onTime.early
  | dispose =>
    refine ⟨onTime.pace, onTime.schedule, ?_, ?_, ?_⟩ <;>
      · intro other
        cases other
  | arrive arrives =>
    have frame := framed arrives
    refine ⟨frame.period.trans onTime.pace, onTime.schedule, ?_, ?_, ?_⟩
    · exact fun idle => onTime.fresh (frame.idle idle)
    · exact fun running => frame.nextTick.trans (onTime.nextTick (frame.running running))
    · exact fun running => frame.nextTick.symm ▸ onTime.early (frame.running running)
  | wait rests =>
    refine ⟨onTime.pace, onTime.schedule, ?_, onTime.nextTick, rests.early⟩
    exact fun idle => absurd idle rests.begun

structure Owed (vigil : Vigil) : Prop where
  granted : (times .retry vigil.calls).length + (if vigil.poller.retryAsked then 1 else 0) ≤
    vigil.granted
  issued : vigil.calls.length = vigil.poller.issued

theorem owed_opened (start : Nat) (orderId : String) (interval : Nat) :
    Owed (opened start orderId interval) :=
  ⟨Nat.le_refl 0, rfl⟩

theorem Owed.moves (owed : Owed vigil) (moves : Moves vigil event later) : Owed later := by
  have granted := owed.granted
  have issued := owed.issued
  cases moves with
  | nothing => exact owed
  | begin idle | tick running due => constructor <;> simpa
  | askRetry active =>
    refine ⟨?_, issued⟩
    have fewer := Nat.le_of_add_right_le granted
    simpa using fewer
  | takeRetry running asked =>
    constructor
    · simpa [asked] using granted
    · simpa using issued
  | dispose | wait rests => exact ⟨granted, issued⟩
  | arrive arrives =>
    have frame := framed arrives
    exact ⟨frame.retryAsked.symm ▸ granted, frame.issued.symm ▸ issued⟩

theorem OnTime.run {period : Nat} (onTime : OnTime start period vigil)
    (run : Run vigil events later) : OnTime start period later := by
  induction run with
  | stay => exact onTime
  | next before step earlier => exact earlier.moves step.moves

theorem Run.onTime (run : Run (opened start orderId interval) events vigil) :
    OnTime start (max interval Poller.shortestPeriod) vigil :=
  (onTime_opened start orderId interval).run run

theorem Run.owed (run : Run (opened start orderId interval) events vigil) : Owed vigil := by
  induction run with
  | stay => exact owed_opened start orderId interval
  | next before step earlier => exact earlier.moves step.moves

/-- What has become of a retry: it waits and so does the clock, or it has been made, or the poller
has stopped. -/
inductive Answered (asked later : Vigil) : Prop where
  | waiting (pending : later.poller.retryAsked = true) (now : later.now = asked.now)
      (calls : asked.calls <+: later.calls)
  | made (since : List (Cause × Nat)) (calls : later.calls = asked.calls ++ since)
      (fetch : (.retry, asked.now) ∈ since)
  | stopped (stopped : later.poller.isActive = false)

theorem isActive_iff (poller : Poller) :
    poller.isActive = true ↔ poller.phase = .idle ∨ poller.phase = .running := by
  simp [Poller.isActive]

theorem Moves.active (moves : Moves vigil event later) (active : later.poller.isActive = true) :
    vigil.poller.isActive = true := by
  cases moves with
  | nothing | wait rests => exact active
  | begin idle => exact (isActive_iff _).mpr (.inl idle)
  | tick running due => exact (isActive_iff _).mpr (.inr running)
  | takeRetry running asked => exact (isActive_iff _).mpr (.inr running)
  | askRetry active => exact active
  | dispose => cases active
  | arrive arrives =>
    have frame := framed arrives
    exact (isActive_iff _).mpr (((isActive_iff _).mp active).imp frame.idle frame.running)

theorem Moves.inactive (moves : Moves vigil event later)
    (stopped : vigil.poller.isActive = false) : later.poller.isActive = false := by
  refine Bool.eq_false_iff.mpr fun active => ?_
  rw [moves.active active] at stopped
  cases stopped

-- What a call leaves of a poller at work: nothing is owed, and the timer runs.
structure Taken (time : Nat) (poller next : Poller) : Prop where
  period : next.period = poller.period
  running : next.phase = .running
  unasked : next.retryAsked = false
  nextTick : next.nextTick =
    if poller.phase = .idle then time + poller.period else poller.nextTick

theorem taken_takeRetry {poller : Poller} (time : Nat) (running : poller.phase = .running) :
    Taken time poller poller.takeRetry := by
  unfold Poller.takeRetry
  split
  · exact ⟨rfl, running, rfl, by simp [Poller.issue, running]⟩
  · rename_i kept
    have unasked : poller.retryAsked = false := by simpa [running] using kept
    exact ⟨rfl, running, unasked, by simp [running]⟩

theorem taken_poll {poller : Poller} (time : Nat) (active : poller.isActive = true) :
    Taken time poller (poller.begin time).takeRetry := by
  obtain idle | running := (isActive_iff poller).mp active
  · have begins : (poller.begin time).phase = .running := by
      simp [Poller.begin, Poller.issue, idle]
    have begun := taken_takeRetry time begins
    refine ⟨begun.period.trans ?_, begun.running, begun.unasked, begun.nextTick.trans ?_⟩ <;>
      simp [Poller.begin, Poller.issue, idle]
  · rw [Poller.begin, if_neg (by simp [running])]
    exact taken_takeRetry time running

theorem update_of_stopped {poller : Poller} (stopped : poller.isActive = false) (time : Nat) :
    (poller.begin time).takeRetry = poller ∧ poller.tick = poller := by
  have begins := Turn.apply_of_stopped (.begin time) stopped
  have takes := Turn.apply_of_stopped .takeRetry stopped
  refine ⟨?_, Turn.apply_of_stopped .tick stopped⟩
  rw [show poller.begin time = poller from begins]
  exact takes

theorem Run.append (run : Run vigil events between) (rest : Run between more later) :
    Run vigil (events ++ more) later := by
  induction rest with
  | stay => rwa [List.append_nil]
  | next before step earlier =>
    rw [← List.append_assoc]
    exact earlier.next step

def Event.IsOwn : Event → Prop
  | .turn (.begin _) | .turn .tick | .turn .takeRetry | .wait _ => True
  | .turn .askRetry | .turn .dispose | .arrive _ _ => False

/-- Left to itself, the poller comes to that time, and is at work then if it was. -/
structure Reaches (vigil : Vigil) (time : Nat) (later : Vigil) : Prop where
  run : ∃ events, Run vigil events later ∧ ∀ event ∈ events, event.IsOwn
  now : later.now = time
  active : later.poller.isActive = vigil.poller.isActive

theorem Reaches.trans {time : Nat} (first : Reaches vigil between.now between)
    (second : Reaches between time later) : Reaches vigil time later := by
  obtain ⟨events, run, own⟩ := first.run
  obtain ⟨more, rest, others⟩ := second.run
  refine ⟨⟨events ++ more, run.append rest, fun event member => ?_⟩, second.now,
    second.active.trans first.active⟩
  exact (List.mem_append.mp member).elim (own event) (others event)

theorem Moves.active_of_own (moves : Moves vigil event later) (own : event.IsOwn) :
    later.poller.isActive = vigil.poller.isActive := by
  cases moves with
  | nothing | wait rests => rfl
  | begin idle => simp [Poller.isActive, idle]
  | tick running due => rfl
  | takeRetry running asked => rfl
  | askRetry | dispose | arrive => exact own.elim

theorem reaches_step (step : Step vigil event later) (own : event.IsOwn) :
    Reaches vigil later.now later :=
  ⟨⟨[event], .next .stay step, by simpa using own⟩, rfl, step.moves.active_of_own own⟩

theorem exists_rested (vigil : Vigil) :
    ∃ rested, Reaches vigil vigil.now rested ∧ rested.poller.phase ≠ .idle ∧
      (rested.poller.phase = .running → rested.poller.retryAsked = false) := by
  let begun := vigil.take (.begin vigil.now)
  have first : Reaches vigil begun.now begun := reaches_step (.take vigil (.begin _) rfl) trivial
  have second : Reaches begun vigil.now (begun.take .takeRetry) :=
    reaches_step (.take begun .takeRetry trivial) trivial
  refine ⟨_, first.trans second, ?_⟩
  change (vigil.poller.begin vigil.now).takeRetry.phase ≠ .idle ∧
    ((vigil.poller.begin vigil.now).takeRetry.phase = .running →
      (vigil.poller.begin vigil.now).takeRetry.retryAsked = false)
  by_cases active : vigil.poller.isActive = true
  · have taken := taken_poll vigil.now active
    rw [taken.running]
    exact ⟨by decide, fun _ => taken.unasked⟩
  · have stopped := Bool.eq_false_iff.mpr active
    have neither : vigil.poller.phase ≠ .idle ∧ vigil.poller.phase ≠ .running := by
      simpa [Poller.isActive] using stopped
    rw [(update_of_stopped stopped vigil.now).1]
    exact ⟨neither.1, fun running => absurd running neither.2⟩

theorem Reaches.wait {time : Nat} (running : vigil.poller.phase = .running)
    (unasked : vigil.poller.retryAsked = false) (forward : vigil.now ≤ time)
    (early : time ≤ vigil.poller.nextTick) : Reaches vigil time (vigil.wait time) :=
  have begun : vigil.poller.phase ≠ .idle := by simp [running]
  reaches_step (.wait vigil time ⟨forward, begun, fun _ => unasked, fun _ => early⟩) trivial

-- Each time the timer goes off buys a period, whatever becomes of the fetches.
theorem reaches_running {time : Nat} (count : Nat) (running : vigil.poller.phase = .running)
    (unasked : vigil.poller.retryAsked = false) (early : vigil.now ≤ vigil.poller.nextTick)
    (forward : vigil.now ≤ time)
    (near : time ≤ vigil.poller.nextTick + count * vigil.poller.period) :
    ∃ later, Reaches vigil time later := by
  induction count generalizing vigil with
  | zero => exact ⟨_, .wait running unasked forward (by simpa using near)⟩
  | succ count ih =>
    by_cases soon : time ≤ vigil.poller.nextTick
    · exact ⟨_, .wait running unasked forward soon⟩
    let due := vigil.wait vigil.poller.nextTick
    have first : Reaches vigil due.now due := .wait running unasked early (Nat.le_refl _)
    have second : Reaches due due.now (due.take .tick) :=
      reaches_step (.take due .tick fun _ => rfl) trivial
    have ticked : due.poller.tick =
        { vigil.poller with
          nextTick := vigil.poller.nextTick + vigil.poller.period
          issued := vigil.poller.issued + 1 } :=
      if_pos running
    obtain ⟨later, rest⟩ : ∃ later, Reaches (due.take .tick) time later := by
      apply ih
      · exact (congrArg Poller.phase ticked).trans running
      · exact (congrArg Poller.retryAsked ticked).trans unasked
      · change vigil.poller.nextTick ≤ due.poller.tick.nextTick
        rw [ticked]
        exact Nat.le_add_right _ _
      · change vigil.poller.nextTick ≤ time
        omega
      · change time ≤ due.poller.tick.nextTick + count * due.poller.tick.period
        rw [ticked]
        rw [Nat.succ_mul] at near
        dsimp only
        omega
    exact ⟨later, (first.trans second).trans rest⟩

theorem OnTime.reaches {period time : Nat} (onTime : OnTime start period vigil) (paced : 0 < period)
    (forward : vigil.now ≤ time) : ∃ later, Reaches vigil time later := by
  obtain ⟨rested, reaches, begun, unasked⟩ := exists_rested vigil
  obtain ⟨events, run, -⟩ := reaches.run
  have onTime := onTime.run run
  have forward : rested.now ≤ time := reaches.now.symm ▸ forward
  have rest : ∃ later, Reaches rested time later := by
    by_cases running : rested.poller.phase = .running
    · refine reaches_running time running (unasked running) (onTime.early running) forward ?_
      rw [onTime.pace]
      exact Nat.le_trans (Nat.le_mul_of_pos_right time paced) (Nat.le_add_left _ _)
    · have rests : rested.Rests time :=
        ⟨forward, begun, fun still => absurd still running, fun still => absurd still running⟩
      exact ⟨_, reaches_step (.wait rested time rests) trivial⟩
  obtain ⟨later, rest⟩ := rest
  exact ⟨later, Reaches.trans (reaches.now ▸ reaches) rest⟩

-- Only a record that ends the order and a disposal leave a trace in the phase.
structure Ended (events : List Event) (vigil : Vigil) : Prop where
  settled : Trail.Settled vigil.poller
  shown : ∀ status, vigil.poller.state.status = some status →
    ∃ seq record, .arrive seq (.record record) ∈ events ∧ record.status = status
  disposed : vigil.poller.phase = .disposed → .turn .dispose ∈ events

theorem ended_opened (start : Nat) (orderId : String) (interval : Nat) :
    Ended [] (opened start orderId interval) where
  settled := Trail.settled_opened orderId interval
  shown _ shown := by cases shown
  disposed disposed := by cases disposed

theorem Ended.step (ended : Ended events vigil) (step : Step vigil event later) :
    Ended (events ++ [event]) later := by
  obtain ⟨settled, shown, disposed⟩ := ended
  have still (status : Order.Status) (same : vigil.poller.state.status = some status) :
      ∃ seq record, .arrive seq (.record record) ∈ events ++ [event] ∧ record.status = status := by
    obtain ⟨seq, record, member, rfl⟩ := shown status same
    exact ⟨seq, record, List.mem_append_left _ member, rfl⟩
  have before (gone : vigil.poller.phase = .disposed) : .turn .dispose ∈ events ++ [event] :=
    List.mem_append_left _ (disposed gone)
  cases step with
  | wait later rests => exact ⟨settled, still, before⟩
  | take turn timely =>
    have makes := turn.makes vigil.poller
    refine ⟨settled.makes makes, fun status same => still status (makes.state ▸ same), ?_⟩
    change (turn.apply vigil.poller).phase = .disposed → _
    generalize turn.apply vigil.poller = next at makes
    intro gone
    cases makes with
    | nothing undue | tick due | askRetry due | takeRetry due => exact before gone
    | begin due => cases gone
    | dispose due => simp
  | arrive seq outcome =>
    have arrives := arrives vigil.poller seq outcome
    have settles := settled.arrives arrives
    change Ended (events ++ [.arrive seq outcome])
      { vigil with poller := vigil.poller.arrive seq outcome }
    generalize vigil.poller.arrive seq outcome = next at arrives settles
    cases arrives with
    | late stopped | stale running stale | crashed running fresh => exact ⟨settles, still, before⟩
    | failed running fresh =>
      rw [State.applyError_of_open _ _ (settled.not_terminal running)] at settles ⊢
      exact ⟨settles, still, before⟩
    | @record record running fresh =>
      rw [State.applyRecord_of_open _ _ (settled.not_terminal running)] at settles ⊢
      refine ⟨settles, fun status same => ⟨seq, record, by simp, Option.some.inj same⟩, fun gone => ?_⟩
      dsimp only at gone
      split at gone <;> cases gone

theorem Run.ended (run : Run (opened start orderId interval) events vigil) : Ended events vigil := by
  induction run with
  | stay => exact ended_opened start orderId interval
  | next before step earlier => exact earlier.step step

theorem Run.inactive_of_dispose (run : Run vigil events later)
    (disposed : Event.turn .dispose ∈ events) : later.poller.isActive = false := by
  induction run with
  | stay => cases disposed
  | next before step earlier =>
    obtain old | last := List.mem_append.mp disposed
    · exact step.moves.inactive (earlier old)
    · cases List.mem_singleton.mp last
      cases step
      exact Turn.dispose_stopped _

theorem Run.inactive_iff (run : Run (opened start orderId interval) events vigil) :
    vigil.poller.isActive = false ↔
      (∃ seq record, .arrive seq (.record record) ∈ events ∧ record.status.isTerminal = true ∧
        vigil.poller.state.status = some record.status) ∨ .turn .dispose ∈ events := by
  obtain ⟨settled, shown, disposed⟩ := run.ended
  constructor
  · intro stopped
    cases phase : vigil.poller.phase with
    | idle | running => simp [Poller.isActive, phase] at stopped
    | disposed => exact .inr (disposed phase)
    | finished =>
      obtain ⟨status, same, terminal⟩ := (Option.any_eq_true _ _).mp (settled.mpr phase)
      obtain ⟨seq, record, member, rfl⟩ := shown status same
      exact .inl ⟨seq, record, member, terminal, same⟩
  · rintro (⟨seq, record, -, terminal, same⟩ | disposed)
    · have ended : vigil.poller.state.isTerminal = true := by simp [State.isTerminal, same, terminal]
      simp [Poller.isActive, settled.mp ended]
    · exact run.inactive_of_dispose disposed

theorem Answered.moves {asked : Vigil} (answered : Answered asked vigil)
    (moves : Moves vigil event later) : Answered asked later := by
  cases answered with
  | made since calls fetch =>
    have made (more : List (Cause × Nat)) (same : later.calls = vigil.calls ++ more) :
        Answered asked later := by
      refine .made (since ++ more) ?_ (List.mem_append_left _ fetch)
      rw [same, calls, List.append_assoc]
    cases moves with
    | nothing | askRetry | dispose | arrive | wait => exact made [] (List.append_nil _).symm
    | begin | tick | takeRetry => exact made _ rfl
  | stopped stopped => exact .stopped (moves.inactive stopped)
  | waiting pending now calls =>
    cases moves with
    | nothing => exact .waiting pending now calls
    | askRetry active => exact .waiting rfl now calls
    | begin | tick => exact .waiting pending now (calls.trans (List.prefix_append _ _))
    | takeRetry running waits =>
      obtain ⟨more, same⟩ := calls
      refine .made (more ++ [(.retry, vigil.now)]) ?_ (by simp [now])
      rw [← List.append_assoc, same]
    | dispose => exact .stopped rfl
    | arrive arrives => exact .waiting ((framed arrives).retryAsked.trans pending) now calls
    | wait rests =>
      -- The clock does not pass a retry that is still to be made.
      refine .stopped (Bool.eq_false_iff.mpr fun active => ?_)
      obtain idle | running := (isActive_iff _).mp active
      · exact rests.begun idle
      · rw [rests.unasked running] at pending
        cases pending

theorem Run.answered (run : Run (vigil.take .askRetry) more later)
    (agreed : vigil.poller.askRetry.1 = true) : Answered vigil later := by
  induction run with
  | stay =>
    have active := (askRetry_agrees vigil.poller).symm.trans agreed
    refine .waiting ?_ rfl ?_
    · simp [take, Turn.apply, Poller.askRetry, active]
    · exact List.prefix_append _ _
  | next before step earlier => exact earlier.moves step.moves

theorem Run.complete (run : Run (opened start orderId interval) events vigil)
    (active : vigil.poller.isActive = true) {i : Nat}
    (passed : start + i * max interval Poller.shortestPeriod < vigil.now) :
    i < (times .schedule vigil.calls).length := by
  have onTime := run.onTime
  obtain idle | running := (isActive_iff _).mp active
  · rw [(onTime.fresh idle).2] at passed
    omega
  · have early := onTime.early running
    rw [onTime.nextTick running] at early
    have fewer := Nat.lt_of_add_lt_add_left (passed.trans_le early)
    exact Nat.lt_of_mul_lt_mul_right fewer

theorem Run.retried (run : Run (vigil.take .askRetry) more later)
    (agreed : vigil.poller.askRetry.1 = true) (active : later.poller.isActive = true)
    (passed : vigil.now < later.now) :
    ∃ since, later.calls = vigil.calls ++ since ∧ (.retry, vigil.now) ∈ since := by
  cases run.answered agreed with
  | made since calls fetch => exact ⟨since, calls, fetch⟩
  | stopped stopped =>
    rw [active] at stopped
    cases stopped
  | waiting pending now calls => omega

end Vigil

end Canteen.Tracking
