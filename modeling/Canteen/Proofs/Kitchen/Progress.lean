import Canteen.Kitchen

set_option autoImplicit false

namespace Canteen

/-- From one record to the next an order does not go back: not on the timeline, not in the minutes
it still takes, and not from its end. -/
structure Order.Record.Advances (before after : Order.Record) : Prop where
  index : ∃ i j,
    before.status.timelineIndex? = some i ∧ after.status.timelineIndex? = some j ∧ i ≤ j
  eta : after.etaMinutes ≤ before.etaMinutes
  terminal : before.status.isTerminal = true → after.status.isTerminal = true

namespace Kitchen

def stages : List Stage := [⟨.queued, 12⟩, ⟨.inProgress, 8⟩, ⟨.ready, 0⟩, ⟨.completed, 0⟩]

def passed (age : Nat) : Nat := [queuedFor, inProgressUntil, readyUntil].countP (· ≤ age)

theorem passed_mono {young old : Nat} (older : young ≤ old) : passed young ≤ passed old := by
  apply List.countP_mono_left
  intro boundary _ behind
  simp only [decide_eq_true_eq] at behind ⊢
  exact Nat.le_trans behind older

theorem stages_passed (age : Nat) : stages[passed age]? = some (stage age) := by
  have apart : queuedFor < inProgressUntil ∧ inProgressUntil < readyUntil := by decide
  unfold stage
  split
  next queued =>
    have count : passed age = 0 := by simp [passed]; omega
    rw [count]
    rfl
  next begun =>
    split
    next cooking =>
      have count : passed age = 1 := by
        simp [passed, List.countP_cons, Nat.not_lt.mp begun]; omega
      rw [count]
      rfl
    next cooked =>
      split
      next waiting =>
        have count : passed age = 2 := by
          simp [passed, List.countP_cons, Nat.not_lt.mp begun, Nat.not_lt.mp cooked]; omega
        rw [count]
        rfl
      next collected =>
        have count : passed age = 3 := by
          simp [passed, Nat.not_lt.mp begun, Nat.not_lt.mp cooked, Nat.not_lt.mp collected]
        rw [count]
        rfl

variable {i j : Nat} {before after : Stage}

theorem timelineIndex?_stages (found : stages[i]? = some before) :
    before.status.timelineIndex? = some i := by
  match i with
  | 0 | 1 | 2 | 3 => cases found; rfl
  | _ + 4 => cases found

theorem stages_steady (order : i ≤ j) (first : stages[i]? = some before)
    (second : stages[j]? = some after) :
    after.etaMinutes ≤ before.etaMinutes ∧
      (before.status.isTerminal = true → after.status.isTerminal = true) := by
  have steady : stages.Pairwise fun before after => after.etaMinutes ≤ before.etaMinutes ∧
      (before.status.isTerminal = true → after.status.isTerminal = true) := by decide
  by_cases same : i = j
  · subst same
    cases first.symm.trans second
    exact ⟨UInt32.le_refl _, id⟩
  · obtain ⟨_, rfl⟩ := List.getElem?_eq_some_iff.mp first
    obtain ⟨_, rfl⟩ := List.getElem?_eq_some_iff.mp second
    exact List.pairwise_iff_getElem.mp steady i j _ _ (by omega)

theorem progress?_eq (id : String) (now : UInt64) :
    progress? id now = (numeral? id).map fun created =>
      { orderId := id
        status := (stage (now.toNat - created.toNat)).status
        etaMinutes := (stage (now.toNat - created.toNat)).etaMinutes
        createdAt := some created } := by
  cases found : numeral? id <;> simp [progress?, found]

/-- An order is known at all times or at none, and as the clock goes on it only advances, also one
that names a time to come. -/
theorem progress_advances (id : String) {now later : UInt64} (ahead : now ≤ later) :
    (numeral? id = none ∧ progress? id now = none ∧ progress? id later = none) ∨
      ∃ created before after, numeral? id = some created ∧
        progress? id now = some before ∧ progress? id later = some after ∧
        before.orderId = id ∧ after.orderId = id ∧
        before.createdAt = some created ∧ after.createdAt = some created ∧
        before.Advances after := by
  simp only [progress?_eq]
  cases numeral? id with
  | none => exact .inl ⟨rfl, rfl, rfl⟩
  | some created =>
    have older : now.toNat - created.toNat ≤ later.toNat - created.toNat := by
      have := UInt64.le_iff_toNat_le.mp ahead
      omega
    have further := passed_mono older
    have first := stages_passed (now.toNat - created.toNat)
    have second := stages_passed (later.toNat - created.toNat)
    obtain ⟨eta, terminal⟩ := stages_steady further first second
    refine .inr ⟨created, _, _, rfl, rfl, rfl, rfl, rfl, rfl, rfl, ?_, eta, terminal⟩
    exact ⟨_, _, timelineIndex?_stages first, timelineIndex?_stages second, further⟩

theorem progress_advances_preordered :
    (1700000000000 : UInt64) ≤ 1700000021000 ∧
      ∃ before after, progress? "+1700000005000" 1700000000000 = some before ∧
        progress? "+1700000005000" 1700000021000 = some after ∧
        before.status = .queued ∧ after.status = .ready ∧ before.Advances after := by
  have ahead : (1700000000000 : UInt64) ≤ 1700000021000 := by decide
  refine ⟨ahead, ?_⟩
  obtain ⟨unknown, -, -⟩ | ⟨created, before, after, -, first, second, -, -, -, -, advances⟩ :=
    progress_advances "+1700000005000" ahead
  · exact absurd unknown (by decide +kernel)
  · have queued : (progress? "+1700000005000" 1700000000000).map (·.status) = some .queued := by
      decide +kernel
    have ready : (progress? "+1700000005000" 1700000021000).map (·.status) = some .ready := by
      decide +kernel
    rw [first] at queued
    rw [second] at ready
    exact ⟨before, after, first, second, Option.some.inj queued, Option.some.inj ready, advances⟩

end Kitchen

end Canteen
