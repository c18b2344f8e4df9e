import Canteen.Proofs.Tracking.Trail

set_option autoImplicit false

namespace Canteen.Tracking

namespace State

def applyAll (state : State) (updates : List Update) : State :=
  updates.foldl (fun state update => (state.update update).2) state

theorem applyAll_cons (state : State) (update : Update) (rest : List Update) :
    state.applyAll (update :: rest) = (state.apply update).applyAll rest := by
  simp [applyAll, update_eq]

theorem applyAll_concat (state : State) (updates : List Update) (update : Update) :
    state.applyAll (updates ++ [update]) = (state.applyAll updates).apply update := by
  simp [applyAll, update_eq]

/-- The values are all there or all awaited, and an overlay belongs to an order that goes on. -/
structure Coherent (state : State) : Prop where
  eta : state.status = none ↔ state.etaMinutes = none
  loading : state.etaMinutes = none ↔ state.loading = true
  reauth : state.reauthRequired = true → state.error = some RequestError.unauthorized.message
  ended : state.isTerminal = true → state.error = none ∧ state.reauthRequired = false

theorem coherent_initial (orderId : String) : Coherent (initial orderId) := by
  constructor <;> simp [initial, isTerminal]

variable {state : State}

theorem Coherent.not_loading (coherent : Coherent state) (terminal : state.isTerminal = true) :
    state.loading = false := by
  cases waiting : state.loading with
  | false => rfl
  | true =>
    have missing := coherent.eta.mpr (coherent.loading.mpr waiting)
    simp [isTerminal, missing] at terminal

theorem Coherent.applyRecord (coherent : Coherent state) (record : Order.Record) :
    Coherent (state.applyRecord record) := by
  cases terminal : state.isTerminal with
  | true => rwa [applyRecord_of_terminal state record terminal]
  | false =>
    rw [applyRecord_of_open state record terminal]
    constructor <;> simp

theorem Coherent.applyError (coherent : Coherent state) (error : RequestError) :
    Coherent (state.applyError error) := by
  cases terminal : state.isTerminal with
  | true => rwa [applyError_of_terminal state error terminal]
  | false =>
    rw [applyError_of_open state error terminal]
    constructor
    · exact coherent.eta
    · exact coherent.loading
    · intro reauth
      rw [(RequestError.requiresReauth_iff error).mp reauth]
    · intro ended
      cases terminal.symm.trans ended

theorem Coherent.apply (coherent : Coherent state) (update : Update) :
    Coherent (state.apply update) := by
  cases update with
  | record record => exact coherent.applyRecord record
  | error error => exact coherent.applyError error

theorem Coherent.applyAll (coherent : Coherent state) (updates : List Update) :
    Coherent (state.applyAll updates) := by
  induction updates generalizing state with
  | nil => exact coherent
  | cons update rest ih =>
    rw [applyAll_cons]
    exact ih (coherent.apply update)

theorem applyError_values (state : State) (error : RequestError) :
    (state.applyError error).status = state.status ∧
      (state.applyError error).etaMinutes = state.etaMinutes ∧
      (state.applyError error).loading = state.loading := by
  unfold State.applyError
  split <;> simp

theorem Coherent.loading_apply (coherent : Coherent state) (update : Update) :
    (state.apply update).loading = true ↔
      state.loading = true ∧ ∀ record, update ≠ .record record := by
  cases update with
  | error error => simp [State.apply, applyError_values]
  | record record =>
    cases terminal : state.isTerminal with
    | true => simp [State.apply, applyRecord_of_terminal, terminal, coherent.not_loading terminal]
    | false => simp [State.apply, applyRecord_of_open, terminal]

theorem Coherent.loading_applyAll (coherent : Coherent state) (updates : List Update) :
    (state.applyAll updates).loading = true ↔
      state.loading = true ∧ ∀ record, .record record ∉ updates := by
  induction updates generalizing state with
  | nil => simp [State.applyAll]
  | cons update rest ih =>
    rw [applyAll_cons, ih (coherent.apply update), coherent.loading_apply update]
    simp only [List.mem_cons, not_or, forall_and, and_assoc, ne_comm, ne_eq]

theorem orderId_apply (state : State) (update : Update) :
    (state.apply update).orderId = state.orderId := by
  cases update with
  | record record =>
    unfold State.apply State.applyRecord
    dsimp only
    split <;> rfl
  | error error =>
    unfold State.apply State.applyError
    dsimp only
    split <;> rfl

theorem orderId_applyAll (state : State) (updates : List Update) :
    (state.applyAll updates).orderId = state.orderId := by
  induction updates generalizing state with
  | nil => rfl
  | cons update rest ih => rw [applyAll_cons, ih, orderId_apply]

theorem applyAll_of_terminal (terminal : state.isTerminal = true) (updates : List Update) :
    state.applyAll updates = state := by
  induction updates with
  | nil => rfl
  | cons update rest ih => rw [applyAll_cons, apply_of_terminal state update terminal, ih]

theorem ne_iff (state other : State) :
    other ≠ state ↔ other.orderId ≠ state.orderId ∨ other.status ≠ state.status ∨
      other.etaMinutes ≠ state.etaMinutes ∨ other.loading ≠ state.loading ∨
      other.error ≠ state.error ∨ other.reauthRequired ≠ state.reauthRequired := by
  cases state
  cases other
  simp only [ne_eq, mk.injEq, Decidable.not_and_iff_not_or_not]

/-- Whatever the fetches tell, and in whatever order, what is shown fits together, only an error
that asks for a new sign-in demands one, a terminal state is final, and an update is announced just
if it changes something. -/
theorem display_coherent (orderId : String) (updates : List Update) :
    let state := (initial orderId).applyAll updates
    (state.status = none ↔ state.etaMinutes = none) ∧
      (state.etaMinutes = none ↔ state.loading = true) ∧
      (state.loading = true ↔ ∀ record, .record record ∉ updates) ∧
      (state.reauthRequired = true → state.error = some RequestError.unauthorized.message) ∧
      (state.error = none → state.reauthRequired = false) ∧
      (∀ error, (state.update (.error error)).2.status = state.status ∧
        (state.update (.error error)).2.etaMinutes = state.etaMinutes ∧
        (state.update (.error error)).2.loading = state.loading) ∧
      (state.isTerminal = true → state.error = none ∧ state.reauthRequired = false ∧
        ∀ more, state.applyAll more = state) ∧
      state.orderId = orderId ∧
      ∀ update, (state.update update).1 = true ↔
        (state.update update).2.orderId ≠ state.orderId ∨
        (state.update update).2.status ≠ state.status ∨
        (state.update update).2.etaMinutes ≠ state.etaMinutes ∨
        (state.update update).2.loading ≠ state.loading ∨
        (state.update update).2.error ≠ state.error ∨
        (state.update update).2.reauthRequired ≠ state.reauthRequired := by
  intro state
  have coherent : Coherent state := (coherent_initial orderId).applyAll updates
  refine ⟨coherent.eta, coherent.loading, ?_, coherent.reauth, ?_, ?_, ?_, ?_, ?_⟩
  · rw [(coherent_initial orderId).loading_applyAll updates]
    simp [initial]
  · intro clear
    cases reauth : state.reauthRequired with
    | false => rfl
    | true => cases clear.symm.trans (coherent.reauth reauth)
  · intro error
    rw [update_eq]
    exact applyError_values state error
  · intro terminal
    obtain ⟨clear, signedIn⟩ := coherent.ended terminal
    exact ⟨clear, signedIn, applyAll_of_terminal terminal⟩
  · exact orderId_applyAll _ updates
  · intro update
    rw [← ne_iff, update_eq]
    exact decide_eq_true_iff

def told (status : Order.Status) (etaMinutes : UInt32) : Update :=
  .record { orderId := "42", status, etaMinutes, createdAt := none }

def collected : List Update :=
  [told .inProgress 8, .error .unauthorized, told .ready 0, .error .unauthorized]

theorem display_coherent_collected :
    ((initial "42").applyAll collected).isTerminal = true ∧
      ((initial "42").applyAll collected).error = none ∧
      ∀ more, ((initial "42").applyAll collected).applyAll more =
        (initial "42").applyAll collected := by
  obtain ⟨-, -, -, -, -, -, ended, -, -⟩ := display_coherent "42" collected
  have terminal : ((initial "42").applyAll collected).isTerminal = true := by decide
  obtain ⟨clear, -, stays⟩ := ended terminal
  exact ⟨terminal, clear, stays⟩

end State

namespace Trail

variable {orderId : String} {interval : Nat} {events : List Event} {trail : Trail}

theorem Run.shown (run : Run (opened orderId interval) events trail) :
    ∃ updates, trail.poller.state = (State.initial orderId).applyAll updates := by
  induction run with
  | stay => exact ⟨[], rfl⟩
  | @next _ event trail later before step earlier =>
    obtain ⟨updates, shown⟩ := earlier
    have more (update : Update) : (State.initial orderId).applyAll (updates ++ [update]) =
        trail.poller.state.apply update := by
      rw [shown, State.applyAll_concat]
    cases step with
    | take turn => exact ⟨updates, (turn.makes trail.poller).state.trans shown⟩
    | arrive seq outcome begun =>
      have arrives := Tracking.arrives trail.poller seq outcome
      change ∃ updates, (trail.poller.arrive seq outcome).state = _
      generalize trail.poller.arrive seq outcome = next at arrives ⊢
      cases arrives with
      | late | stale | crashed => exact ⟨updates, shown⟩
      | @record record => exact ⟨_, (more (.record record)).symm⟩
      | @failed error => exact ⟨_, (more (.error error)).symm⟩

theorem Run.coherent (run : Run (opened orderId interval) events trail) :
    trail.poller.state.Coherent := by
  obtain ⟨updates, shown⟩ := run.shown
  rw [shown]
  exact (State.coherent_initial orderId).applyAll updates

end Trail

end Canteen.Tracking
