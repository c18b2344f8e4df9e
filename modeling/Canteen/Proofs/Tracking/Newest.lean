import Canteen.Proofs.Tracking.Trail

set_option autoImplicit false

namespace Canteen

def Order.Status.Precedes (first second : Status) : Prop :=
  ∃ i j, first.timelineIndex? = some i ∧ second.timelineIndex? = some j ∧ i < j

theorem Order.Status.precedes_irrefl (status : Status) : ¬status.Precedes status := by
  rintro ⟨i, j, first, second, less⟩
  rw [first] at second
  exact Nat.lt_irrefl i (Option.some.inj second ▸ less)

namespace Tracking

open Trail (Event Step Run opened Settled)

variable {received : List (Nat × Outcome)} {latest : Option (Nat × Order.Record)}

/-- Of the successes received, the one that was asked for last. -/
inductive Newest (received : List (Nat × Outcome)) : Option (Nat × Order.Record) → Prop where
  | nothing (absent : ∀ seq record, (seq, Outcome.record record) ∉ received) : Newest received none
  | success {seq : Nat} {record : Order.Record} (member : (seq, Outcome.record record) ∈ received)
      (highest : ∀ other later, (other, Outcome.record later) ∈ received → other ≤ seq) :
      Newest received (some (seq, record))

def mark : Option (Nat × Order.Record) → Nat
  | none => 0
  | some (seq, _) => seq

theorem Newest.le_mark (newest : Newest received latest) {seq : Nat} {record : Order.Record}
    (member : (seq, Outcome.record record) ∈ received) : seq ≤ mark latest := by
  cases newest with
  | nothing absent => exact absurd member (absent seq record)
  | success _ highest => exact highest seq record member

theorem Newest.append_record (newest : Newest received latest) {seq : Nat}
    (record : Order.Record) (fresh : mark latest ≤ seq) :
    Newest (received ++ [(seq, .record record)]) (some (seq, record)) := by
  apply Newest.success
  · exact List.mem_append_right _ (List.mem_singleton_self _)
  · intro other later member
    obtain old | last := List.mem_append.mp member
    · exact (newest.le_mark old).trans fresh
    · obtain ⟨rfl, -⟩ := Prod.mk.inj (List.mem_singleton.mp last)
      exact Nat.le_refl _

-- What follows a success, or is none, does not displace it.
theorem Newest.append_other (newest : Newest received latest) {seq : Nat} {outcome : Outcome}
    (old : ∀ record, outcome = .record record → seq < mark latest) :
    Newest (received ++ [(seq, outcome)]) latest := by
  cases newest with
  | nothing absent =>
    apply Newest.nothing
    intro other record member
    obtain earlier | last := List.mem_append.mp member
    · exact absent other record earlier
    · obtain ⟨rfl, rfl⟩ := Prod.mk.inj (List.mem_singleton.mp last)
      exact Nat.not_lt_zero _ (old record rfl)
  | success member highest =>
    apply Newest.success (List.mem_append_left _ member)
    intro other record member
    obtain earlier | last := List.mem_append.mp member
    · exact highest other record earlier
    · obtain ⟨rfl, rfl⟩ := Prod.mk.inj (List.mem_singleton.mp last)
      exact Nat.le_of_lt (old record rfl)

structure Carries (state : State) (latest : Option (Nat × Order.Record)) : Prop where
  status : state.status = latest.map (·.2.status)
  etaMinutes : state.etaMinutes = latest.map (·.2.etaMinutes)
  loading : state.loading = latest.isNone

structure Current (poller : Poller) (received : List (Nat × Outcome))
    (latest : Option (Nat × Order.Record)) : Prop where
  newest : Newest received latest
  carries : Carries poller.state latest
  applied : poller.applied = mark latest

theorem current_opened (orderId : String) (interval : Nat) :
    Current (opened orderId interval).poller [] none :=
  ⟨.nothing (by simp), ⟨rfl, rfl, rfl⟩, rfl⟩

theorem Carries.applyError {state : State} (carries : Carries state latest)
    (error : RequestError) : Carries (state.applyError error) latest := by
  unfold State.applyError
  split
  · exact carries
  · exact ⟨carries.status, carries.etaMinutes, carries.loading⟩

theorem Current.makes {poller next : Poller} {turn : Turn}
    (current : Current poller received latest) (makes : Turn.Makes poller turn next) :
    Current next received latest := by
  refine ⟨current.newest, ?_, ?_⟩
  · rw [makes.state]
    exact current.carries
  · rw [makes.applied]
    exact current.applied

theorem Current.arrives {poller next : Poller} {seq : Nat} {outcome : Outcome}
    (current : Current poller received latest) (settled : Settled poller)
    (arrives : Arrives poller seq outcome next) :
    ∃ latest, Current next
      (if poller.phase = .running then received ++ [(seq, outcome)] else received) latest := by
  cases arrives with
  | late stopped =>
    rw [if_neg stopped]
    exact ⟨latest, current⟩
  | stale running stale =>
    rw [if_pos running]
    rw [current.applied] at stale
    exact ⟨latest, current.newest.append_other fun _ _ => stale, current.carries,
      current.applied⟩
  | @record record running fresh =>
    rw [if_pos running, State.applyRecord_of_open _ _ (settled.not_terminal running)]
    rw [current.applied] at fresh
    exact ⟨some (seq, record), current.newest.append_record record fresh, ⟨rfl, rfl, rfl⟩, rfl⟩
  | @failed error running fresh =>
    rw [if_pos running]
    exact ⟨latest, current.newest.append_other (by simp), current.carries.applyError error,
      current.applied⟩
  | crashed running fresh =>
    rw [if_pos running]
    exact ⟨latest, current.newest.append_other (by simp), current.carries, current.applied⟩

def Advancing (received : List (Nat × Outcome)) : Prop :=
  ∀ first second earlier later, first < second → (first, Outcome.record earlier) ∈ received →
    (second, Outcome.record later) ∈ received → ¬later.status.Precedes earlier.status

namespace Trail

variable {orderId : String} {interval : Nat} {events more : List Event} {trail later : Trail}

theorem Run.current (run : Run (opened orderId interval) events trail) :
    ∃ latest, Current trail.poller trail.received latest := by
  induction run with
  | stay => exact ⟨none, current_opened orderId interval⟩
  | next before step earlier =>
    obtain ⟨latest, current⟩ := earlier
    cases step with
    | take turn => exact ⟨latest, current.makes (turn.makes _)⟩
    | arrive seq outcome begun =>
      exact current.arrives before.sound.settled (Tracking.arrives _ _ _)

theorem Run.advances (run : Run (opened orderId interval) events trail)
    (rest : Run trail more later) (advancing : Advancing later.received) {shown : Order.Status}
    (visible : trail.poller.state.status = some shown) :
    ∃ next, later.poller.state.status = some next ∧ ¬next.Precedes shown := by
  obtain ⟨first, before⟩ := run.current
  obtain ⟨last, after⟩ := (run.append rest).current
  have distinct := (run.append rest).received_nodup
  rw [before.carries.status, Option.map_eq_some_iff] at visible
  obtain ⟨⟨seq, record⟩, rfl, rfl⟩ := visible
  cases before.newest with
  | success member highest =>
    have kept := rest.received_prefix.subset member
    cases after.newest with
    | nothing absent => exact absurd kept (absent seq record)
    | @success number newer present above =>
      refine ⟨newer.status, after.carries.status, ?_⟩
      obtain same | further := Nat.eq_or_lt_of_le (above seq record kept)
      · subst same
        cases List.inj_on_of_nodup_map distinct kept present rfl
        exact record.status.precedes_irrefl
      · exact advancing seq number record newer further kept present

theorem Step.keeps_values {seq : Nat} {outcome : Outcome}
    (step : Step trail (.arrive seq outcome) later)
    (other : ∀ record, outcome ≠ .record record) (latest : Option (Nat × Order.Record))
    (carries : Carries trail.poller.state latest) : Carries later.poller.state latest := by
  have arrives := step.arrives
  generalize later.poller = next at arrives ⊢
  cases arrives with
  | late stopped => exact carries
  | stale running stale => exact carries
  | record running fresh => exact absurd rfl (other _)
  | failed running fresh => exact carries.applyError _
  | crashed running fresh => exact carries

/-- At every moment the customer sees the values of that success which, of those received so far,
was asked for last, in whatever order they came and whatever failed between them. So the order
never goes back on the timeline unless the answers themselves do, taken in the order in which they
were asked for. -/
theorem newest_success_shown (run : Run (opened orderId interval) events trail) :
    (trail.received.map (·.1)).Nodup ∧
      (∃ latest, Newest trail.received latest ∧ Carries trail.poller.state latest) ∧
      (∀ {seq : Nat} {outcome : Outcome} {later : Trail},
        Step trail (.arrive seq outcome) later → (∀ record, outcome ≠ .record record) →
          ∀ latest, Carries trail.poller.state latest → Carries later.poller.state latest) ∧
      ∀ {more : List Event} {later : Trail}, Run trail more later → Advancing later.received →
        ∀ {shown : Order.Status}, trail.poller.state.status = some shown →
          ∃ next, later.poller.state.status = some next ∧ ¬next.Precedes shown := by
  obtain ⟨latest, current⟩ := run.current
  exact ⟨run.received_nodup, ⟨latest, current.newest, current.carries⟩,
    fun step other latest carries => step.keeps_values other latest carries,
    fun rest advancing _ visible => run.advances rest advancing visible⟩

def answer (status : Order.Status) (etaMinutes : UInt32) : Order.Record :=
  { orderId := "42", status, etaMinutes, createdAt := none }

-- Three fetches are under way, and the second one has come back before the first.
def overtaken : Trail :=
  { poller :=
      { state :=
          { State.initial "42" with
            status := some .inProgress, etaMinutes := some 8, loading := false }
        period := 3000, issued := 3, applied := 2, nextTick := 9000, phase := .running }
    started := [1, 2, 3]
    underway := [1, 3]
    received := [(2, .record (answer .inProgress 8))] }

theorem advancing_overtaken (error : RequestError) :
    Advancing (overtaken.received ++ [(1, .record (answer .queued 12)), (3, .failed error)]) := by
  intro first second earlier later less one other
  simp only [overtaken, List.cons_append, List.nil_append, List.mem_cons, Prod.mk.injEq,
    Outcome.record.injEq, reduceCtorEq, and_false, List.not_mem_nil, or_false] at one other
  obtain ⟨rfl, rfl⟩ : first = 1 ∧ earlier = answer .queued 12 := by
    obtain ⟨rfl, rfl⟩ | early := one
    · omega
    · exact early
  obtain ⟨rfl, rfl⟩ : second = 2 ∧ later = answer .inProgress 8 := by
    obtain late | ⟨rfl, rfl⟩ := other
    · exact late
    · omega
  rintro ⟨i, j, newer, older, sooner⟩
  cases (show some 1 = some i from newer)
  cases (show some 0 = some j from older)
  exact Nat.not_lt_zero _ sooner

theorem newest_success_shown_slow :
    let later := (overtaken.arrive 1 (.record (answer .queued 12))).arrive 3 (.failed .timeout)
    Run (opened "42" 3000) [.turn (.begin 0), .turn .tick, .turn .tick,
        .arrive 2 (.record (answer .inProgress 8))] overtaken ∧
      Run overtaken [.arrive 1 (.record (answer .queued 12)), .arrive 3 (.failed .timeout)] later ∧
      Advancing later.received ∧ later.poller.state.etaMinutes = some 8 ∧
      (∃ latest, Newest overtaken.received latest ∧ Carries later.poller.state latest) ∧
      ∃ next, later.poller.state.status = some next ∧ ¬next.Precedes .inProgress := by
  have run : Run (opened "42" 3000) [.turn (.begin 0), .turn .tick, .turn .tick,
      .arrive 2 (.record (answer .inProgress 8))] overtaken := run_of_replay rfl
  have rest : Run overtaken
      [.arrive 1 (.record (answer .queued 12)), .arrive 3 (.failed .timeout)] _ :=
    run_of_replay rfl
  obtain ⟨-, ⟨latest, newest, carries⟩, -, onward⟩ := newest_success_shown run
  refine ⟨run, rest, advancing_overtaken .timeout, rfl, ⟨latest, newest, ?_⟩,
    onward rest (advancing_overtaken .timeout) rfl⟩
  exact ⟨carries.status, carries.etaMinutes, carries.loading⟩

end Trail

end Tracking

end Canteen
