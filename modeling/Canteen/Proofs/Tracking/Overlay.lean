import Canteen.Proofs.Tracking.Newest

set_option autoImplicit false

namespace Canteen.Tracking

open Trail (Event Step Run opened Settled)

variable {received before after : List (Nat × Outcome)} {seq shown : Nat} {outcome : Outcome}
  {error : RequestError}

def Overtaken (received : List (Nat × Outcome)) (seq : Nat) : Prop :=
  ∃ newer record, seq < newer ∧ (newer, Outcome.record record) ∈ received

theorem Current.overtaken_iff {poller : Poller} {latest : Option (Nat × Order.Record)}
    (current : Current poller received latest) :
    Overtaken received seq ↔ seq < poller.applied := by
  rw [current.applied]
  constructor
  · rintro ⟨newer, record, less, member⟩
    exact less.trans_le (current.newest.le_mark member)
  · intro less
    cases current.newest with
    | nothing absent => exact absurd less (Nat.not_lt_zero seq)
    | @success newer record member highest => exact ⟨newer, record, less, member⟩

theorem Overtaken.append (overtaken : Overtaken before seq) (after : List (Nat × Outcome)) :
    Overtaken (before ++ after) seq := by
  obtain ⟨newer, record, less, member⟩ := overtaken
  exact ⟨newer, record, less, List.mem_append_left after member⟩

def Ignored (received : List (Nat × Outcome)) (entry : Nat × Outcome) : Prop :=
  entry.2 = .crashed ∨ Overtaken received entry.1

/-- The last result that was not ignored is this failure. -/
inductive OnDisplay (received : List (Nat × Outcome)) (shown : Nat) (error : RequestError) :
    Prop where
  | since (before after : List (Nat × Outcome))
      (split : received = before ++ (shown, .failed error) :: after)
      (fresh : ¬Overtaken before shown) (ignored : ∀ entry ∈ after, Ignored before entry)

-- Nothing that is ignored overtakes anything.
theorem overtaken_before (ignored : ∀ entry ∈ after, Ignored before entry)
    (overtaken : Overtaken (before ++ (shown, .failed error) :: after) seq) :
    Overtaken before seq := by
  obtain ⟨newer, record, less, member⟩ := overtaken
  obtain old | late := List.mem_append.mp member
  · exact ⟨newer, record, less, old⟩
  · obtain failure | late := List.mem_cons.mp late
    · cases (Prod.mk.inj failure).2
    · obtain crash | ⟨newest, other, further, old⟩ := ignored _ late
      · cases crash
      · exact ⟨newest, other, less.trans further, old⟩

theorem onDisplay_append :
    OnDisplay (received ++ [(seq, outcome)]) shown error ↔
      ((seq, outcome) = (shown, .failed error) ∧ ¬Overtaken received shown) ∨
        (OnDisplay received shown error ∧ Ignored received (seq, outcome)) := by
  constructor
  -- The failure came last, or it was on display before and the last result is ignored.
  · rintro ⟨before, after, split, fresh, ignored⟩
    obtain rfl | ⟨earlier, last, rfl⟩ := List.eq_nil_or_concat' after
    · obtain ⟨rfl, same⟩ := List.append_inj' split rfl
      exact .inl ⟨(List.cons.inj same).1, fresh⟩
    · rw [← List.cons_append, ← List.append_assoc] at split
      obtain ⟨rfl, same⟩ := List.append_inj' split rfl
      obtain rfl := (List.cons.inj same).1
      refine .inr ⟨.since before earlier rfl fresh fun entry member => ?_, ?_⟩
      · exact ignored entry (List.mem_append_left _ member)
      · exact (ignored _ (by simp)).imp_right fun overtaken => overtaken.append _
  · rintro (⟨same, fresh⟩ | ⟨⟨before, after, rfl, fresh, ignored⟩, last⟩)
    · exact .since received [] (by rw [same]) fresh (by simp)
    · refine .since before (after ++ [(seq, outcome)]) (by simp) fresh fun entry member => ?_
      obtain old | new := List.mem_append.mp member
      · exact ignored entry old
      · obtain rfl := List.mem_singleton.mp new
        exact last.imp_right (overtaken_before ignored)

def State.Shows (state : State) (error : RequestError) : Prop :=
  state.error = some error.message ∧ state.reauthRequired = error.requiresReauth

structure Covers (received : List (Nat × Outcome)) (state : State) : Prop where
  shows : ∀ {shown : Nat} {error : RequestError}, OnDisplay received shown error →
    state.Shows error
  clear : (∀ shown error, ¬OnDisplay received shown error) →
    state.error = none ∧ state.reauthRequired = false

theorem covers_opened (orderId : String) (interval : Nat) :
    Covers [] (opened orderId interval).poller.state := by
  refine ⟨?_, fun _ => ⟨rfl, rfl⟩⟩
  rintro shown error ⟨before, after, split, -, -⟩
  simp at split

theorem Covers.append_ignored {state : State} (covers : Covers received state)
    (ignored : Ignored received (seq, outcome)) :
    Covers (received ++ [(seq, outcome)]) state := by
  have same (shown : Nat) (error : RequestError) :
      OnDisplay (received ++ [(seq, outcome)]) shown error ↔ OnDisplay received shown error := by
    rw [onDisplay_append, and_iff_left ignored, or_iff_right_iff_imp]
    rintro ⟨last, fresh⟩
    obtain ⟨rfl, rfl⟩ := Prod.mk.inj last
    exact absurd ignored (by simpa [Ignored] using fresh)
  exact ⟨fun display => covers.shows ((same _ _).mp display),
    fun none => covers.clear fun shown error => mt (same shown error).mpr (none shown error)⟩

theorem Covers.arrives {poller next : Poller} (covers : Covers received poller.state)
    (settled : Settled poller) (stale : Overtaken received seq ↔ seq < poller.applied)
    (arrives : Arrives poller seq outcome next) :
    Covers (if poller.phase = .running then received ++ [(seq, outcome)] else received)
      next.state := by
  cases arrives with
  | late stopped => rwa [if_neg stopped]
  | stale running old =>
    rw [if_pos running]
    exact covers.append_ignored (.inr (stale.mpr old))
  | crashed running fresh =>
    rw [if_pos running]
    exact covers.append_ignored (.inl rfl)
  | @record record running fresh =>
    rw [if_pos running, State.applyRecord_of_open _ _ (settled.not_terminal running)]
    have heeded : ¬Ignored received (seq, .record record) := by
      simpa [Ignored, stale] using fresh
    refine ⟨fun display => ?_, fun _ => ⟨rfl, rfl⟩⟩
    simp [onDisplay_append, heeded] at display
  | @failed error running fresh =>
    rw [if_pos running, State.applyError_of_open _ _ (settled.not_terminal running)]
    have ahead : ¬Overtaken received seq := by rwa [stale, Nat.not_lt]
    have heeded : ¬Ignored received (seq, .failed error) := by simpa [Ignored] using ahead
    constructor
    · intro shown other display
      obtain ⟨⟨rfl, rfl⟩, -⟩ : (seq = shown ∧ error = other) ∧ _ := by
        simpa [onDisplay_append, heeded] using display
      exact ⟨rfl, rfl⟩
    · intro none
      exact absurd (onDisplay_append.mpr (.inl ⟨rfl, ahead⟩)) (none seq error)

namespace Trail

variable {orderId : String} {interval : Nat} {events : List Event} {trail later : Trail}

theorem Run.covers (run : Run (opened orderId interval) events trail) :
    Covers trail.received trail.poller.state := by
  induction run with
  | stay => exact covers_opened orderId interval
  | next before step earlier =>
    obtain ⟨latest, current⟩ := before.current
    cases step with
    | take turn =>
      change Covers _ (turn.apply _).state
      rw [(turn.makes _).state]
      exact earlier
    | arrive seq outcome begun =>
      exact earlier.arrives before.sound.settled current.overtaken_iff (Tracking.arrives _ _ _)

theorem Step.still_shows (step : Step trail (.arrive seq outcome) later)
    (settled : Settled trail.poller)
    (stale : Overtaken trail.received seq ↔ seq < trail.poller.applied)
    (shows : trail.poller.state.Shows error) :
    later.poller.state.Shows error ↔
      trail.poller.phase ≠ .running ∨ Ignored trail.received (seq, outcome) ∨
        ∃ late, outcome = .failed late ∧ late.message = error.message ∧
          late.requiresReauth = error.requiresReauth := by
  rw [Ignored, stale]
  have arrives := step.arrives
  generalize later.poller = next at arrives ⊢
  cases arrives with
  | late stopped => simp [shows, stopped]
  | stale running old => simp [shows, old]
  | crashed running fresh => simp [shows]
  | record running fresh =>
    rw [State.applyRecord_of_open _ _ (settled.not_terminal running)]
    simp [State.Shows, running, fresh]
  | failed running fresh =>
    rw [State.applyError_of_open _ _ (settled.not_terminal running)]
    simp [State.Shows, running, fresh]

/-- What the last failure says stays on display when an older failure comes in late, if a success
newer than that older one has come before. Otherwise the older failure replaces it, since only
successes make older results stale. -/
theorem failure_kept_iff (run : Run (opened orderId interval) events trail) :
    Covers trail.received trail.poller.state ∧
      ∀ {shown : Nat} {error : RequestError}, OnDisplay trail.received shown error →
        ∀ {seq : Nat} {outcome : Outcome} {later : Trail}, Step trail (.arrive seq outcome) later →
          (later.poller.state.Shows error ↔
            trail.poller.phase ≠ .running ∨ Ignored trail.received (seq, outcome) ∨
              ∃ late, outcome = .failed late ∧ late.message = error.message ∧
                late.requiresReauth = error.requiresReauth) := by
  obtain ⟨latest, current⟩ := run.current
  exact ⟨run.covers, fun display _ _ _ step =>
    step.still_shows run.sound.settled current.overtaken_iff (run.covers.shows display)⟩

theorem failure_kept_after_success :
    let refused := overtaken.arrive 3 (.failed .unauthorized)
    let later := refused.arrive 1 (.failed .timeout)
    Run (opened "42" 3000) [.turn (.begin 0), .turn .tick, .turn .tick,
        .arrive 2 (.record (answer .inProgress 8)), .arrive 3 (.failed .unauthorized)] refused ∧
      OnDisplay refused.received 3 .unauthorized ∧
      Step refused (.arrive 1 (.failed .timeout)) later ∧
      Overtaken refused.received 1 ∧ later.poller.state.Shows .unauthorized := by
  intro refused later
  have run : Run (opened "42" 3000) [.turn (.begin 0), .turn .tick, .turn .tick,
      .arrive 2 (.record (answer .inProgress 8)), .arrive 3 (.failed .unauthorized)] refused :=
    run_of_replay rfl
  have display : OnDisplay refused.received 3 .unauthorized := by
    refine .since overtaken.received [] rfl ?_ (by simp)
    rintro ⟨newer, record, less, member⟩
    obtain ⟨rfl, -⟩ := Prod.mk.inj (List.mem_singleton.mp member)
    omega
  have step : Step refused (.arrive 1 (.failed .timeout)) later := step_of_next? rfl
  have stale : Overtaken refused.received 1 :=
    ⟨2, answer .inProgress 8, by decide, List.mem_cons_self⟩
  exact ⟨run, display, step, stale,
    ((failure_kept_iff run).2 display step).mpr (.inr (.inl (.inr stale)))⟩

theorem failure_replaced_by_slow_timeout :
    ¬∀ {orderId : String} {interval : Nat} {events : List Event} {trail later : Trail}
        {newer seq : Nat} {shown late : RequestError},
      Run (opened orderId interval) events trail → OnDisplay trail.received newer shown →
        seq < newer → Step trail (.arrive seq (.failed late)) later →
          later.poller.state.Shows shown := by
  intro kept
  let refused := (((opened "42" 3000).take (.begin 0)).take .tick).arrive 2 (.failed .unauthorized)
  have run : Run (opened "42" 3000)
      [.turn (.begin 0), .turn .tick, .arrive 2 (.failed .unauthorized)] refused :=
    run_of_replay rfl
  have display : OnDisplay refused.received 2 .unauthorized :=
    .since [] [] rfl (by simp [Overtaken]) (by simp)
  have step : Step refused (.arrive 1 (.failed .timeout))
      (refused.arrive 1 (.failed .timeout)) := step_of_next? rfl
  have asked : false = true := (kept run display (by decide) step).2
  cases asked

end Trail

end Canteen.Tracking
