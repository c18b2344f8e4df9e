import Canteen.Proofs.Tracking.Newest

set_option autoImplicit false

namespace Canteen.Tracking.Trail

variable {first trail later : Trail} {events more : List Event} {event : Event}
  {orderId : String} {interval : Nat}

theorem Step.unchanged (step : Step trail event later) (stopped : trail.poller.isActive = false) :
    later.poller = trail.poller ∧ later.started = trail.started := by
  cases step with
  | take turn =>
    have same := turn.apply_of_stopped stopped
    refine ⟨same, ?_⟩
    change trail.started ++ List.range' _ ((turn.apply trail.poller).issued - _) = _
    rw [same, Nat.sub_self]
    exact List.append_nil _
  | arrive seq outcome begun =>
    have gone : trail.poller.phase ≠ .running := Turn.not_due_of_stopped .tick stopped
    exact ⟨if_pos (.inl gone), rfl⟩

theorem Run.unchanged (run : Run first events trail) (stopped : first.poller.isActive = false) :
    trail.poller = first.poller ∧ trail.started = first.started := by
  induction run with
  | stay => exact ⟨rfl, rfl⟩
  | next before step earlier =>
    obtain ⟨poller, started⟩ := earlier
    obtain ⟨same, none⟩ := step.unchanged (poller ▸ stopped)
    exact ⟨same.trans poller, none.trans started⟩

theorem Settled.stopped {poller : Poller} (settled : Settled poller)
    (terminal : poller.state.isTerminal = true) : poller.isActive = false := by
  simp [Poller.isActive, settled.mp terminal]

theorem Run.stopped_of_dispose (run : Run first events trail)
    (disposed : Event.turn .dispose ∈ events) : trail.poller.isActive = false := by
  induction run with
  | stay => cases disposed
  | next before step earlier =>
    obtain old | last := List.mem_append.mp disposed
    · have stopped := earlier old
      rw [(step.unchanged stopped).1]
      exact stopped
    · cases List.mem_singleton.mp last
      cases step
      exact Turn.dispose_stopped _

/-- Once the order is done, or the tracker is disposed of, nothing moves any more, whatever is
still under way: no turn and no late result changes what the customer sees, no fetch is started,
and everybody who waits for the end is told it. -/
theorem stopped_for_good (run : Run (opened orderId interval) events trail)
    (stopped : trail.poller.state.isTerminal = true ∨ .turn .dispose ∈ events)
    (rest : Run trail more later) :
    later.poller.state = trail.poller.state ∧ later.started = trail.started ∧
      later.poller.askRetry.1 = false ∧ later.poller.isActive = false ∧
      later.poller.ending? =
        some (if trail.poller.state.isTerminal then some trail.poller.state else none) := by
  have inactive : trail.poller.isActive = false :=
    stopped.elim run.sound.settled.stopped run.stopped_of_dispose
  obtain ⟨same, none⟩ := rest.unchanged inactive
  rw [same]
  refine ⟨rfl, none, ?_, inactive, ?_⟩
  · simp [Poller.askRetry, inactive]
  · unfold Poller.ending?
    split
    · rfl
    · simp [inactive]

theorem stopped_for_good_underway :
    let disposed := overtaken.take .dispose
    let ready := overtaken.arrive 3 (.record (answer .ready 0))
    let before := [.turn (.begin 0), .turn .tick, .turn .tick,
      .arrive 2 (.record (answer .inProgress 8))]
    let after := [.arrive 1 (.record (answer .completed 0)), .turn .tick, .turn .askRetry]
    let late (trail : Trail) :=
      ((trail.arrive 1 (.record (answer .completed 0))).take .tick).take .askRetry
    Run (opened "42" 3000) (before ++ [.turn .dispose]) disposed ∧
      Run disposed after (late disposed) ∧
      (late disposed).poller.state.status = some .inProgress ∧
      (late disposed).started = [1, 2, 3] ∧ (late disposed).poller.ending? = some none ∧
      Run (opened "42" 3000) (before ++ [.arrive 3 (.record (answer .ready 0))]) ready ∧
      Run ready after (late ready) ∧
      (late ready).poller.ending? = some (some ready.poller.state) := by
  intro disposed ready before after late
  have first : Run (opened "42" 3000) (before ++ [.turn .dispose]) disposed := run_of_replay rfl
  have second : Run (opened "42" 3000) (before ++ [.arrive 3 (.record (answer .ready 0))]) ready :=
    run_of_replay rfl
  have afterFirst : Run disposed after (late disposed) := run_of_replay rfl
  have afterSecond : Run ready after (late ready) := run_of_replay rfl
  obtain ⟨kept, none, -, -, told⟩ := stopped_for_good first (.inr (by simp [before])) afterFirst
  obtain ⟨-, -, -, -, shown⟩ := stopped_for_good second (.inl rfl) afterSecond
  exact ⟨first, afterFirst, congrArg State.status kept, none, told, second, afterSecond, shown⟩

end Canteen.Tracking.Trail
