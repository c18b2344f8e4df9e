import Canteen.Proofs.Rehearsal.Frame
import Canteen.Proofs.Tracking.Schedule

set_option autoImplicit false

namespace Canteen.Rehearsal

open Tracking (Poller Vigil Phase)

variable {R : Type}

def Action.ticks? (i : Nat) : Action R → Bool
  | .tick j => j = i
  | _ => false

def Agenda.ticks (agenda : Agenda (Action R)) (i : Nat) : List Nat :=
  (agenda.filter fun due => due.what.ticks? i).map (·.time)

variable {agenda rest other : Agenda (Action R)} {due : Due (Action R)} {now i : Nat}
  {poller : Poller}

theorem ticks_cons_tick (time : Nat) (rank : Rank) (i : Nat) (rest : Agenda (Action R)) :
    Agenda.ticks (⟨time, rank, .tick i⟩ :: rest) i = time :: rest.ticks i := by
  simp [Agenda.ticks, Action.ticks?]

theorem ticks_cons_ne (different : due.what ≠ .tick i) :
    Agenda.ticks (due :: rest) i = rest.ticks i := by
  have quiet : due.what.ticks? i = false := by
    cases same : due.what with
    | tick j => simpa [Action.ticks?, same] using different
    | _ => rfl
  simp [Agenda.ticks, quiet]

theorem ticks_append : Agenda.ticks (agenda ++ rest) i = agenda.ticks i ++ rest.ticks i := by
  simp [Agenda.ticks]

theorem ticks_aside (aside : ∀ due ∈ agenda, Due.Aside now due) : agenda.ticks i = [] := by
  simp only [Agenda.ticks, List.map_eq_nil_iff, List.filter_eq_nil_iff]
  intro due member ticks
  have free := (aside due member).2
  cases same : due.what <;> simp_all [Action.ticks?, Action.Aside]

theorem mem_ticks {time : Nat} (member : time ∈ agenda.ticks i) : ∃ due ∈ agenda, due.time = time := by
  obtain ⟨due, found, same⟩ := List.mem_map.mp member
  exact ⟨due, (List.mem_filter.mp found).1, same⟩

/-- What is due for a tracker is on the agenda: a call on one that has to begin or owes a retry,
and the timer of one that runs, which is set once. -/
structure Armed (agenda : Agenda (Action R)) (now i : Nat) (poller : Poller) : Prop where
  paced : 0 < poller.period
  called : poller.phase = .idle ∨ poller.phase = .running ∧ poller.retryAsked = true →
    ∃ due ∈ agenda, due.what = .poll i ∧ due.time ≤ now
  dormant : poller.phase = .idle → poller.nextTick = 0 ∧ agenda.ticks i = []
  ticking : poller.phase = .running → agenda.ticks i = [poller.nextTick]

theorem Armed.perm (armed : Armed agenda now i poller) {aside : Agenda (Action R)} {before : Nat}
    (idle : ∀ due ∈ aside, Due.Aside before due) (perm : other.Perm (aside ++ agenda)) :
    Armed other now i poller := by
  have same : (other.ticks i).Perm (agenda.ticks i) := by
    have both : (other.ticks i).Perm (Agenda.ticks (aside ++ agenda) i) :=
      (perm.filter _).map _
    rwa [ticks_append, ticks_aside idle, List.nil_append] at both
  refine ⟨armed.paced, fun needed => ?_, fun dormant => ?_, fun running => ?_⟩
  · obtain ⟨due, member, call, time⟩ := armed.called needed
    exact ⟨due, perm.mem_iff.mpr (List.mem_append_right _ member), call, time⟩
  · obtain ⟨unset, none⟩ := armed.dormant dormant
    exact ⟨unset, List.perm_nil.mp (none ▸ same)⟩
  · exact List.perm_singleton.mp (armed.ticking running ▸ same)

theorem Armed.post (armed : Armed agenda now i poller) {added : Agenda (Action R)}
    (quiet : Agenda.ticks added i = []) : Armed (added ++ agenda) now i poller := by
  have same : Agenda.ticks (added ++ agenda) i = agenda.ticks i := by
    rw [ticks_append, quiet, List.nil_append]
  refine ⟨armed.paced, fun needed => ?_, fun dormant => ?_, fun running => ?_⟩
  · obtain ⟨due, member, call⟩ := armed.called needed
    exact ⟨due, List.mem_append_right _ member, call⟩
  · rw [same]
    exact armed.dormant dormant
  · rw [same]
    exact armed.ticking running

theorem armed_of_stopped (paced : 0 < poller.period) (stopped : poller.isActive = false) :
    Armed agenda now i poller := by
  have neither : poller.phase ≠ .idle ∧ poller.phase ≠ .running := by
    simpa [Poller.isActive] using stopped
  refine ⟨paced, fun needed => ?_, fun idle => absurd idle neither.1,
    fun running => absurd running neither.2⟩
  obtain idle | running := needed
  · exact absurd idle neither.1
  · exact absurd running.1 neither.2

theorem Armed.dispose (armed : Armed agenda now i poller) : Armed agenda now i poller.dispose := by
  refine armed_of_stopped ?_ (Tracking.Turn.dispose_stopped poller)
  unfold Poller.dispose
  split <;> exact armed.paced

theorem Armed.arrive (armed : Armed agenda now i poller) (seq : Nat) (outcome : Tracking.Outcome) :
    Armed agenda now i (poller.arrive seq outcome) := by
  have frame := Vigil.framed (Tracking.arrives poller seq outcome)
  refine ⟨frame.period ▸ armed.paced, fun needed => armed.called ?_, fun idle => ?_, fun running => ?_⟩
  · refine needed.imp frame.idle fun waiting => ?_
    exact ⟨frame.running waiting.1, frame.retryAsked ▸ waiting.2⟩
  · rw [frame.nextTick]
    exact armed.dormant (frame.idle idle)
  · rw [frame.nextTick]
    exact armed.ticking (frame.running running)

theorem Armed.askRetry (armed : Armed agenda now i poller) :
    Armed ((if poller.askRetry.1 then [⟨now, .behind, .poll i⟩] else []) ++ agenda) now i
      poller.askRetry.2 := by
  unfold Poller.askRetry
  split
  · have quiet : Agenda.ticks (R := R) [⟨now, .behind, .poll i⟩] i = [] := ticks_cons_ne (by simp)
    have more := armed.post quiet
    refine ⟨armed.paced, fun _ => ⟨_, List.mem_cons_self, rfl, Nat.le_refl now⟩, ?_, ?_⟩
    · exact more.dormant
    · exact more.ticking
  · exact armed

theorem Armed.pop (armed : Armed (due :: rest) now i poller) (forward : now ≤ due.time)
    (other : due.what ≠ .poll i) (still : due.what ≠ .tick i) :
    Armed rest due.time i poller := by
  have same : Agenda.ticks (due :: rest) i = rest.ticks i := ticks_cons_ne still
  refine ⟨armed.paced, fun needed => ?_, fun idle => ?_, fun running => ?_⟩
  · obtain ⟨entry, member, call, time⟩ := armed.called needed
    rcases List.mem_cons.mp member with rfl | later
    · exact absurd call other
    · exact ⟨entry, later, call, Nat.le_trans time forward⟩
  · exact same ▸ armed.dormant idle
  · exact same ▸ armed.ticking running

theorem armed_of_running {next : Poller} (paced : 0 < poller.period)
    (period : next.period = poller.period) (running : next.phase = .running)
    (called : next.retryAsked = true → ∃ due ∈ agenda, due.what = .poll i ∧ due.time ≤ now)
    (ticks : Agenda.ticks (World.timer i poller next ++ agenda) i = [next.nextTick]) :
    Armed (World.timer i poller next ++ agenda) now i next := by
  refine ⟨period ▸ paced, fun needed => ?_, fun idle => ?_, fun _ => ticks⟩
  · have asked : next.retryAsked = true := by simpa [running] using needed
    obtain ⟨due, member, call⟩ := called asked
    exact ⟨due, List.mem_append_right _ member, call⟩
  · rw [running] at idle
    cases idle

theorem ticks_timer (before after : Poller) :
    Agenda.ticks (World.timer (R := R) i before after) i =
      if after.nextTick ≠ before.nextTick then [after.nextTick] else [] := by
  unfold World.timer
  split
  · exact ticks_cons_tick _ _ _ _
  · rfl

theorem mem_timer {before after : Poller} (member : due ∈ World.timer i before after) :
    after.nextTick ≠ before.nextTick ∧ due = ⟨after.nextTick, .behind, .tick i⟩ := by
  unfold World.timer at member
  split at member
  · exact ⟨‹_›, List.mem_singleton.mp member⟩
  · cases member

theorem ticks_timer_ne {j : Nat} (different : j ≠ i) (before after : Poller) :
    Agenda.ticks (World.timer (R := R) i before after) j = [] := by
  unfold World.timer
  split
  · exact ticks_cons_ne (by simpa using different.symm)
  · rfl

theorem Armed.poll {time : Nat} {rank : Rank}
    (armed : Armed (⟨time, rank, .poll i⟩ :: rest) now i poller) :
    Armed (World.timer i poller (poller.begin time).takeRetry ++ rest) time i
      (poller.begin time).takeRetry := by
  have same : Agenda.ticks (⟨time, rank, .poll i⟩ :: rest) i = rest.ticks i :=
    ticks_cons_ne (by simp)
  by_cases active : poller.isActive = true
  · have taken := Vigil.taken_poll time active
    refine armed_of_running armed.paced taken.period taken.running ?_ ?_
    · rw [taken.unasked]
      exact nofun
    rw [ticks_append, ticks_timer, taken.nextTick, ← same]
    obtain idle | running := (Vigil.isActive_iff poller).mp active
    · obtain ⟨unset, none⟩ := armed.dormant idle
      have ahead := armed.paced
      rw [if_pos idle, unset, none, if_pos (by omega)]
      rfl
    · rw [armed.ticking running]
      simp [running]
  · have stopped := Bool.eq_false_iff.mpr active
    rw [(Vigil.update_of_stopped stopped time).1]
    exact armed_of_stopped armed.paced stopped

theorem Armed.tick {time : Nat} {rank : Rank}
    (armed : Armed (⟨time, rank, .tick i⟩ :: rest) now i poller) (forward : now ≤ time) :
    Armed (World.timer i poller poller.tick ++ rest) time i poller.tick := by
  by_cases active : poller.isActive = true
  · have set := ticks_cons_tick time rank i rest
    obtain idle | running := (Vigil.isActive_iff poller).mp active
    · rw [(armed.dormant idle).2] at set
      cases set
    have ticked : poller.tick =
        { poller with
          nextTick := poller.nextTick + poller.period, issued := poller.issued + 1 } :=
      if_pos running
    have ahead := armed.paced
    rw [armed.ticking running, List.cons_eq_cons] at set
    rw [ticked]
    refine armed_of_running ahead rfl running (fun asked => ?_) ?_
    · obtain ⟨due, member, call, before⟩ := armed.called (.inr ⟨running, asked⟩)
      rcases List.mem_cons.mp member with rfl | later
      · cases call
      · exact ⟨due, later, call, Nat.le_trans before forward⟩
    · rw [ticks_append, ticks_timer, ← set.2, if_pos (by simp; omega)]
      rfl
  · have stopped := Bool.eq_false_iff.mpr active
    rw [(Vigil.update_of_stopped stopped time).2]
    exact armed_of_stopped armed.paced stopped

theorem Armed.expires {time : Nat} {rank : Rank}
    (armed : Armed (⟨time, rank, .tick i⟩ :: rest) now i poller) (running : poller.phase = .running) :
    poller.nextTick = time := by
  have set := armed.ticking running
  rw [ticks_cons_tick, List.cons_eq_cons] at set
  exact set.1.symm

theorem poll_ahead {time : Nat}
    (anew : (poller.begin time).takeRetry.nextTick ≠ poller.nextTick) :
    time ≤ (poller.begin time).takeRetry.nextTick := by
  by_cases active : poller.isActive = true
  · rw [(Vigil.taken_poll time active).nextTick] at anew ⊢
    split
    · exact Nat.le_add_right _ _
    · rename_i begun
      exact absurd (if_neg begun) anew
  · rw [(Vigil.update_of_stopped (Bool.eq_false_iff.mpr active) time).1] at anew
    exact absurd rfl anew

theorem Armed.tick_ahead {time : Nat} {rank : Rank}
    (armed : Armed (⟨time, rank, .tick i⟩ :: rest) now i poller)
    (anew : poller.tick.nextTick ≠ poller.nextTick) : time ≤ poller.tick.nextTick := by
  unfold Poller.tick at anew ⊢
  split
  · rename_i running
    exact armed.expires running ▸ Nat.le_add_right _ _
  · rename_i still
    exact absurd (congrArg Poller.nextTick (if_neg still)) anew

end Canteen.Rehearsal
