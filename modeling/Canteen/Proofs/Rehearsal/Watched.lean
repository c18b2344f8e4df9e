import Canteen.Proofs.Rehearsal.Timing

set_option autoImplicit false

namespace Canteen.Rehearsal

open Tracking (Poller Turn Vigil)

structure Watched (now : Nat) (timing : Timing) (vigil : Vigil) : Prop where
  run : ∃ start orderId interval events, Vigil.Run (.opened start orderId interval) events vigil
  now : vigil.now = now
  poller : vigil.poller = timing.1
  calls : vigil.calls.map (·.2) = timing.2

variable {R : Type} {agenda : Agenda (Action R)} {due : Due (Action R)} {now i : Nat}
  {timing : Timing} {vigil : Vigil}

theorem watched_opened (now : Nat) (orderId : String) (interval : Nat) :
    Watched now (.start orderId interval, []) (.opened now orderId interval) :=
  ⟨⟨now, orderId, interval, [], .stay⟩, rfl, rfl, rfl⟩

theorem Watched.next (watched : Watched now timing vigil) {event : Vigil.Event} {later : Vigil}
    (step : Vigil.Step vigil event later) :
    ∃ start orderId interval events, Vigil.Run (.opened start orderId interval) events later := by
  obtain ⟨start, orderId, interval, events, run⟩ := watched.run
  exact ⟨start, orderId, interval, _, run.next step⟩

theorem Watched.take (watched : Watched now timing vigil) (turn : Turn)
    (timely : vigil.Timely turn) :
    Watched now
      (World.called now ((turn.apply timing.1).issued - timing.1.issued)
        (turn.apply timing.1, timing.2))
      (vigil.take turn) := by
  refine ⟨watched.next (.take vigil turn timely), watched.now, ?_, ?_⟩
  · exact congrArg turn.apply watched.poller
  · simp [Vigil.take, World.called, watched.calls, watched.poller, watched.now]

theorem Watched.arrive (watched : Watched now timing vigil) (seq : Nat)
    (outcome : Tracking.Outcome) :
    Watched now (timing.1.arrive seq outcome, timing.2) (vigil.arrive seq outcome) :=
  ⟨watched.next (.arrive vigil seq outcome), watched.now,
    congrArg (·.arrive seq outcome) watched.poller, watched.calls⟩

theorem Watched.wait {rest : Agenda (Action R)} (watched : Watched now timing vigil)
    (armed : Armed (due :: rest) now i timing.1) (sorted : Agenda.Sorted (due :: rest))
    (forward : now ≤ due.time) : ∃ later, Watched due.time timing later := by
  obtain same | passes := Nat.eq_or_lt_of_le forward
  · exact ⟨vigil, same ▸ watched⟩
  have first : ∀ entry ∈ due :: rest, due.time ≤ entry.time := by
    intro entry member
    rcases List.mem_cons.mp member with rfl | later
    · exact Nat.le_refl _
    · exact (List.pairwise_cons.mp sorted).1 entry later
  -- A call that is owed, or the timer, would have to come before the first entry.
  have uncalled : ¬(timing.1.phase = .idle ∨ timing.1.phase = .running ∧
      timing.1.retryAsked = true) := by
    intro needed
    obtain ⟨entry, member, -, time⟩ := armed.called needed
    exact absurd (first entry member) (by omega)
  rw [not_or, not_and, Bool.not_eq_true] at uncalled
  have rests : vigil.Rests due.time := by
    rw [← watched.poller] at uncalled armed
    refine ⟨watched.now ▸ forward, uncalled.1, uncalled.2, fun running => ?_⟩
    have set : vigil.poller.nextTick ∈ Agenda.ticks (due :: rest) i := by
      rw [armed.ticking running]
      exact List.mem_singleton_self _
    obtain ⟨entry, member, time⟩ := mem_ticks set
    exact time ▸ first entry member
  exact ⟨_, watched.next (.wait vigil due.time rests), rfl, watched.poller, watched.calls⟩

structure Kept (agenda : Agenda (Action R)) (now i : Nat) (timing : Timing) : Prop where
  armed : Armed agenda now i timing.1
  watched : ∃ vigil, Watched now timing vigil

structure Due.Proper (count now : Nat) (due : Due (Action R)) : Prop where
  ahead : now ≤ due.time
  known : due.what.Aside due.time ∨ (∃ i, due.what = .poll i) ∨ ∃ i < count, due.what = .tick i

theorem ticks_proper {count : Nat} (proper : ∀ due ∈ agenda, Due.Proper count now due) :
    agenda.ticks count = [] := by
  simp only [Agenda.ticks, List.map_eq_nil_iff, List.filter_eq_nil_iff]
  intro due member ticks
  obtain free | ⟨i, call⟩ | ⟨i, few, tick⟩ := (proper due member).known
  · cases same : due.what <;> simp_all [Action.ticks?, Action.Aside]
  · simp [call, Action.ticks?] at ticks
  · simp only [tick, Action.ticks?, decide_eq_true_eq] at ticks
    omega

structure OnSchedule (world : World R) : Prop where
  sorted : world.agenda.Sorted
  proper : ∀ due ∈ world.agenda, due.Proper world.timings.length world.now
  kept : ∀ i timing, world.timings[i]? = some timing → Kept world.agenda world.now i timing

variable {world later : World R} {change : List Timing → List Timing} {g : Timing → Timing}
  {armed : List (Due (Action R))}

theorem Kept.perm (kept : Kept agenda now i timing) {aside other : Agenda (Action R)} {before : Nat}
    (idle : ∀ due ∈ aside, Due.Aside before due) (perm : other.Perm (aside ++ agenda)) :
    Kept other now i timing :=
  ⟨kept.armed.perm idle perm, kept.watched⟩

theorem onSchedule_of_leads (sorted : world.agenda.Sorted)
    (proper : ∀ due ∈ world.agenda, due.Proper world.timings.length world.now)
    (leads : World.Leads world change armed later)
    (grows : world.timings.length ≤ (change world.timings).length)
    (more : ∀ due ∈ armed, due.Proper (change world.timings).length world.now)
    (kept : ∀ i timing, (change world.timings)[i]? = some timing →
      Kept (armed ++ world.agenda) world.now i timing) : OnSchedule later := by
  obtain ⟨aside, perm, idle⟩ := leads.agenda
  refine ⟨leads.sorted sorted, fun due member => ?_, fun i timing found => ?_⟩
  · rw [leads.now, leads.timings]
    rcases List.mem_append.mp (perm.mem_iff.mp member) with free | member
    · exact ⟨(idle due free).1, .inl (idle due free).2⟩
    rcases List.mem_append.mp member with new | old
    · exact more due new
    · obtain ⟨ahead, known⟩ := proper due old
      refine ⟨ahead, known.imp_right (.imp_right ?_)⟩
      rintro ⟨i, few, tick⟩
      exact ⟨i, few.trans_le grows, tick⟩
  · rw [leads.timings] at found
    rw [leads.now]
    exact (kept i timing found).perm idle perm

theorem forall_modify {P : Nat → Timing → Prop} {timings : List Timing}
    (others : ∀ j, j ≠ i → ∀ timing, timings[j]? = some timing → P j timing)
    (own : ∀ timing, timings[i]? = some timing → P i (g timing)) :
    ∀ j timing, (timings.modify i g)[j]? = some timing → P j timing := by
  intro j timing found
  by_cases same : j = i
  · subst same
    rw [List.getElem?_modify_eq] at found
    obtain ⟨before, there, rfl⟩ := Option.map_eq_some_iff.mp found
    exact own before there
  · rw [List.getElem?_modify_ne _ _ (Ne.symm same)] at found
    exact others j same timing found

theorem onSchedule_of_modify (sorted : world.agenda.Sorted)
    (proper : ∀ due ∈ world.agenda, due.Proper world.timings.length world.now)
    (leads : World.Leads world (·.modify i g) armed later)
    (more : ∀ due ∈ armed, due.Proper world.timings.length world.now)
    (timers : ∀ j, j ≠ i → Agenda.ticks armed j = [])
    (others : ∀ j, j ≠ i → ∀ timing, world.timings[j]? = some timing →
      Kept world.agenda world.now j timing)
    (own : ∀ timing, world.timings[i]? = some timing →
      Kept (armed ++ world.agenda) world.now i (g timing)) : OnSchedule later := by
  have length : (world.timings.modify i g).length = world.timings.length := List.length_modify ..
  refine onSchedule_of_leads sorted proper leads length.ge (length ▸ more) ?_
  refine forall_modify (fun j other timing found => ?_) own
  obtain ⟨still, watched⟩ := others j other timing found
  exact ⟨still.post (timers j other), watched⟩

theorem Kept.dispose (kept : Kept agenda now i timing) :
    Kept agenda now i (timing.1.dispose, timing.2) := by
  obtain ⟨armed, vigil, watched⟩ := kept
  refine ⟨armed.dispose, _, (?_ : Watched now _ (vigil.take .dispose))⟩
  have disposed := watched.take .dispose trivial
  have issued : timing.1.dispose.issued = timing.1.issued := by
    unfold Poller.dispose
    split <;> rfl
  rwa [Turn.apply, issued, Nat.sub_self, World.called_zero] at disposed

theorem Kept.askRetry (kept : Kept agenda now i timing) :
    Kept ((if timing.1.askRetry.1 then [⟨now, .behind, .poll i⟩] else []) ++ agenda) now i
      (timing.1.askRetry.2, timing.2) := by
  obtain ⟨armed, vigil, watched⟩ := kept
  refine ⟨armed.askRetry, _, (?_ : Watched now _ (vigil.take .askRetry))⟩
  have asked := watched.take .askRetry trivial
  have issued : timing.1.askRetry.2.issued = timing.1.issued := by
    unfold Poller.askRetry
    split <;> rfl
  rwa [Turn.apply, issued, Nat.sub_self, World.called_zero] at asked

theorem Kept.arrive (kept : Kept agenda now i timing) (seq : Nat) (outcome : Tracking.Outcome) :
    Kept agenda now i (timing.1.arrive seq outcome, timing.2) := by
  obtain ⟨armed, vigil, watched⟩ := kept
  exact ⟨armed.arrive seq outcome, _, watched.arrive seq outcome⟩

theorem kept_start (now : Nat) (orderId : String) (interval : Nat) (unset : agenda.ticks i = []) :
    Kept (⟨now, .behind, .poll i⟩ :: agenda) now i (.start orderId interval, []) := by
  refine ⟨⟨?_, fun _ => ⟨_, List.mem_cons_self, rfl, Nat.le_refl now⟩, fun _ => ⟨rfl, ?_⟩, nofun⟩,
    _, watched_opened now orderId interval⟩
  · exact Nat.lt_of_lt_of_le Nat.zero_lt_one (Nat.le_max_right _ _)
  · rw [ticks_cons_ne (by simp), unset]

theorem Kept.poll {time : Nat} {rank : Rank} {rest : Agenda (Action R)}
    (armed : Armed (⟨time, rank, .poll i⟩ :: rest) now i timing.1)
    (watched : Watched time timing vigil) :
    Kept (World.timer i timing.1 (timing.1.begin time).takeRetry ++ rest) time i
      (World.called time ((timing.1.begin time).takeRetry.issued - timing.1.issued)
        ((timing.1.begin time).takeRetry, timing.2)) := by
  refine ⟨armed.poll, _, (?_ : Watched time _ ((vigil.take (.begin time)).take .takeRetry))⟩
  have both := (watched.take (.begin time) watched.now.symm).take .takeRetry trivial
  have first : timing.1.issued ≤ (timing.1.begin time).issued :=
    (Turn.makes timing.1 (.begin time)).issued
  have second : (timing.1.begin time).issued ≤ (timing.1.begin time).takeRetry.issued :=
    (Turn.makes (timing.1.begin time) .takeRetry).issued
  have sum : ((timing.1.begin time).issued - timing.1.issued) +
      ((timing.1.begin time).takeRetry.issued - (timing.1.begin time).issued) =
        (timing.1.begin time).takeRetry.issued - timing.1.issued := by
    omega
  rw [← sum, ← World.called_called]
  exact both

theorem Kept.tick {time : Nat} {rank : Rank} {rest : Agenda (Action R)}
    (armed : Armed (⟨time, rank, .tick i⟩ :: rest) now i timing.1) (forward : now ≤ time)
    (watched : Watched time timing vigil) :
    Kept (World.timer i timing.1 timing.1.tick ++ rest) time i
      (World.called time (timing.1.tick.issued - timing.1.issued) (timing.1.tick, timing.2)) := by
  refine ⟨armed.tick forward, _, watched.take .tick fun running => ?_⟩
  rw [watched.poller] at running ⊢
  exact (armed.expires running).trans watched.now.symm

theorem OnSchedule.touches (onSchedule : OnSchedule world) (touches : World.Touches world later) :
    OnSchedule later := by
  obtain ⟨sorted, proper, kept⟩ := onSchedule
  have others (i : Nat) : ∀ j, j ≠ i → ∀ timing, world.timings[j]? = some timing →
      Kept world.agenda world.now j timing := fun j _ => kept j
  cases touches with
  | quiet quiet => exact onSchedule_of_leads sorted proper quiet (Nat.le_refl _) (by simp) kept
  | dispose i leads =>
    exact onSchedule_of_modify sorted proper leads (by simp) (fun _ _ => rfl) (others i)
      fun timing found => (kept i timing found).dispose
  | arrive i seq outcome leads =>
    exact onSchedule_of_modify sorted proper leads (by simp) (fun _ _ => rfl) (others i)
      fun timing found => (kept i timing found).arrive seq outcome
  | askRetry i timing found leads =>
    refine onSchedule_of_modify sorted proper leads (fun due member => ?_) (fun j _ => ?_) (others i)
      fun other same => ?_
    · split at member
      · obtain rfl := List.mem_singleton.mp member
        exact ⟨Nat.le_refl _, .inr (.inl ⟨i, rfl⟩)⟩
      · cases member
    · split
      · exact ticks_cons_ne (by simp)
      · rfl
    · obtain rfl := Option.some.inj (found.symm.trans same)
      exact (kept i timing found).askRetry
  | start i orderId interval leads =>
    let timings := world.timings.modify i fun timing => (timing.1.dispose, timing.2)
    have length : timings.length = world.timings.length := List.length_modify ..
    have left : ∀ j timing, timings[j]? = some timing → Kept world.agenda world.now j timing :=
      forall_modify (others i) fun timing found => (kept i timing found).dispose
    refine onSchedule_of_leads sorted proper leads (by simp) (fun due member => ?_)
      fun j timing found => ?_
    · obtain rfl := List.mem_singleton.mp member
      exact ⟨Nat.le_refl _, .inr (.inl ⟨_, rfl⟩)⟩
    rw [List.getElem?_append] at found
    split at found
    · obtain ⟨armed, watched⟩ := left j timing found
      exact ⟨armed.post (ticks_cons_ne (by simp)), watched⟩
    · rename_i new
      rw [length] at found new
      obtain ⟨last, rfl⟩ : j - world.timings.length = 0 ∧ (.start orderId interval, []) = timing := by
        simpa [List.getElem?_singleton] using found
      obtain rfl : j = world.timings.length := by omega
      exact kept_start world.now orderId interval (ticks_proper proper)

theorem onSchedule_updatePoller {update : Poller → Poller} (sorted : world.agenda.Sorted)
    (proper : ∀ due ∈ world.agenda, due.Proper world.timings.length world.now)
    (others : ∀ j, j ≠ i → ∀ timing, world.timings[j]? = some timing →
      Kept world.agenda world.now j timing)
    (ahead : ∀ timing, world.timings[i]? = some timing →
      (update timing.1).nextTick ≠ timing.1.nextTick → world.now ≤ (update timing.1).nextTick)
    (own : ∀ timing, world.timings[i]? = some timing →
      Kept (World.timer i timing.1 (update timing.1) ++ world.agenda) world.now i
        (World.called world.now ((update timing.1).issued - timing.1.issued)
          (update timing.1, timing.2))) : OnSchedule (world.updatePoller i update) := by
  cases found : world.watches[i]? with
  | none =>
    have absent : world.timings[i]? = none := by rw [World.timings_getElem?, found]; rfl
    rw [World.updatePoller, found]
    refine ⟨sorted, proper, fun j timing there => ?_⟩
    by_cases same : j = i
    · rw [same, absent] at there
      cases there
    · exact others j same timing there
  | some watch =>
    have there : world.timings[i]? = some watch.timing := by
      rw [World.timings_getElem?, found]
      rfl
    refine onSchedule_of_modify sorted proper (World.leads_updatePoller found update)
      (fun due member => ?_) (fun j other => ticks_timer_ne other _ _) others fun timing same => ?_
    · obtain ⟨anew, rfl⟩ := mem_timer member
      have few := (List.getElem?_eq_some_iff.mp there).1
      exact ⟨ahead _ there anew, .inr (.inr ⟨i, few, rfl⟩)⟩
    · obtain rfl := Option.some.inj (there.symm.trans same)
      exact own _ there

theorem OnSchedule.next (onSchedule : OnSchedule world) (next : world.next? = some later) :
    OnSchedule later := by
  obtain ⟨sorted, proper, kept⟩ := onSchedule
  unfold World.next? at next
  cases agenda : world.agenda with
  | nil =>
    rw [agenda] at next
    cases next
  | cons due rest =>
    rw [agenda] at next sorted proper kept
    obtain ⟨forward, known⟩ := proper due List.mem_cons_self
    dsimp only at next
    rw [Nat.max_eq_right forward] at next
    obtain rfl := Option.some.inj next
    have later : ∀ entry ∈ rest, entry.Proper world.timings.length due.time := fun entry member =>
      ⟨(List.pairwise_cons.mp sorted).1 entry member, (proper entry (.tail _ member)).known⟩
    have watched (j : Nat) (timing : Timing) (found : world.timings[j]? = some timing) :
        ∃ vigil, Watched due.time timing vigil := by
      obtain ⟨armed, vigil, watched⟩ := kept j timing found
      exact watched.wait armed sorted forward
    -- Only the tracker that the first entry is for loses anything with it.
    have popped (j : Nat) (other : due.what ≠ .poll j) (still : due.what ≠ .tick j)
        (timing : Timing) (found : world.timings[j]? = some timing) :
        Kept rest due.time j timing :=
      ⟨(kept j timing found).armed.pop forward other still, watched j timing found⟩
    obtain ⟨time, rank, action⟩ := due
    obtain free | ⟨i, rfl⟩ | ⟨i, few, rfl⟩ := known
    · have before : OnSchedule { world with agenda := rest, now := time } := by
        refine ⟨sorted.of_cons, later, fun j => popped j ?_ ?_⟩ <;>
          · rintro rfl
            exact free
      exact before.touches (World.touches_react free)
    · let update (poller : Poller) := (poller.begin time).takeRetry
      change OnSchedule (World.updatePoller { world with agenda := rest, now := time } i update)
      refine onSchedule_updatePoller sorted.of_cons later (fun j other => popped j ?_ (by simp))
        (fun timing _ => poll_ahead) fun timing found => ?_
      · simpa using other.symm
      · obtain ⟨vigil, watched⟩ := watched i timing found
        exact .poll (kept i timing found).armed watched
    · change OnSchedule (World.updatePoller { world with agenda := rest, now := time } i Poller.tick)
      refine onSchedule_updatePoller sorted.of_cons later (fun j other => popped j (by simp) ?_)
        (fun timing found => (kept i timing found).armed.tick_ahead) fun timing found => ?_
      · simpa using other.symm
      · obtain ⟨vigil, watched⟩ := watched i timing found
        exact .tick (kept i timing found).armed forward watched

theorem OnSchedule.run (onSchedule : OnSchedule world) (fuel : Nat) :
    OnSchedule (world.run fuel) := by
  induction fuel generalizing world with
  | zero => exact onSchedule
  | succ fuel ih =>
    rw [World.run]
    split
    · exact onSchedule
    · split
      · exact onSchedule
      · exact ih (onSchedule.next ‹_›)

def World.startAll (world : World R) (trackers : List (String × String × Nat × Source)) : World R :=
  trackers.foldl (fun world (name, orderId, interval, source) =>
    world.startWatch name orderId interval source) world

theorem OnSchedule.startAll (onSchedule : OnSchedule world)
    (trackers : List (String × String × Nat × Source)) : OnSchedule (world.startAll trackers) := by
  induction trackers generalizing world with
  | nil => exact onSchedule
  | cons first rest ih =>
    obtain ⟨name, orderId, interval, source⟩ := first
    obtain ⟨i, leads⟩ := World.leads_startWatch world name orderId interval source
    rw [← World.length_timings] at leads
    exact ih (onSchedule.touches (.start i orderId interval leads))

theorem onSchedule_of_bare (bare : world.watches = #[]) (clear : world.agenda = []) :
    OnSchedule world := by
  refine ⟨clear ▸ .nil, by simp [clear], fun i timing found => ?_⟩
  simp [World.timings, bare] at found

theorem OnSchedule.rehearse (onSchedule : OnSchedule world) (steps : List (Step R)) :
    OnSchedule (rehearse world steps) := by
  have strand : World.Quiet world (world.addStrand { todo := steps }).2 :=
    World.quiet_of_same rfl rfl rfl
  unfold Rehearsal.rehearse
  refine OnSchedule.run ?_ patience
  exact onSchedule.touches (.quiet (strand.soon trivial))

theorem OnSchedule.watched (onSchedule : OnSchedule world) {watch : Watch}
    (there : watch ∈ world.watches) : ∃ vigil, Watched world.now watch.timing vigil := by
  obtain ⟨i, found⟩ := Array.mem_iff_getElem?.mp there
  refine (onSchedule.kept i watch.timing ?_).watched
  rw [World.timings_getElem?, found]
  rfl

/-- Whatever becomes of the fetches and whatever is asked of it, a poller at work has fetched by the
clock at every time of its schedule, and at no other but once for a retry it agreed to, which it
makes at once. It stops for a terminal record or a disposal only, and left to itself, with no fetch
ending any more, it comes to any later time. Every tracker of a rehearsal is such a poller. -/
theorem fetches_on_schedule :
    (∀ (start : Nat) (orderId : String) (interval : Nat) (events : List Vigil.Event) (vigil : Vigil),
      Vigil.Run (.opened start orderId interval) events vigil →
        Vigil.times .schedule vigil.calls =
            Vigil.slots start (max interval 1) (Vigil.times .schedule vigil.calls).length ∧
          (vigil.poller.isActive = true → ∀ i, start + i * max interval 1 < vigil.now →
            i < (Vigil.times .schedule vigil.calls).length) ∧
          (vigil.poller.isActive = false ↔
            (∃ seq record, .arrive seq (.record record) ∈ events ∧
              record.status.isTerminal = true ∧
              vigil.poller.state.status = some record.status) ∨ .turn .dispose ∈ events) ∧
          (∀ time, vigil.now ≤ time → ∃ later, Vigil.Reaches vigil time later) ∧
          (vigil.poller.askRetry.1 = true → ∀ more later,
            Vigil.Run (vigil.take .askRetry) more later → later.poller.isActive = true →
              vigil.now < later.now →
                ∃ since, later.calls = vigil.calls ++ since ∧ (.retry, vigil.now) ∈ since) ∧
          (Vigil.times .retry vigil.calls).length ≤ vigil.granted ∧
          vigil.calls.length = vigil.poller.issued) ∧
      ∀ (R : Type) (world : World R) (trackers : List (String × String × Nat × Source))
        (steps : List (Step R)), world.watches = #[] → world.agenda = [] →
          ∀ watch ∈ (rehearse (world.startAll trackers) steps).watches,
            ∃ start orderId interval events vigil,
              Vigil.Run (.opened start orderId interval) events vigil ∧
                vigil.now = (rehearse (world.startAll trackers) steps).now ∧
                vigil.poller = watch.poller ∧ vigil.calls.map (·.2) = watch.calls := by
  constructor
  · intro start orderId interval events vigil run
    have onTime := run.onTime
    have owed := run.owed
    refine ⟨onTime.schedule, fun active i passed => run.complete active passed, run.inactive_iff,
      fun time forward => ?_, fun agreed more later rest active passed => ?_,
      Nat.le_of_add_right_le owed.granted, owed.issued⟩
    · exact onTime.reaches (Nat.lt_of_lt_of_le Nat.zero_lt_one (Nat.le_max_right _ _)) forward
    · exact rest.retried agreed active passed
  · intro R world trackers steps bare clear watch there
    have onSchedule := ((onSchedule_of_bare bare clear).startAll trackers).rehearse steps
    obtain ⟨vigil, watched⟩ := onSchedule.watched there
    obtain ⟨start, orderId, interval, events, run⟩ := watched.run
    exact ⟨start, orderId, interval, events, vigil, run, watched.now, watched.poller, watched.calls⟩

def closed : World Unit := { config := {}, shelf := { store := .empty }, server := .offline }

-- The first fetch never ends, the next one fails, and all others crash when the next is on its way.
def silent : List (String × String × Nat × Source) :=
  [("lunch", "42", 1000,
    .scripted [⟨none, 0⟩, ⟨some (.failed .timeout), 100⟩, ⟨some .crashed, 1500⟩])]

theorem fetches_on_schedule_silent :
    let asked := ((Vigil.opened 5 "42" 1000).take (.begin 5)).wait 700
    let later := (((((asked.take .askRetry).take .askRetry).take .takeRetry).wait 1005).take
      .tick).arrive 1 .crashed
    let world := rehearse (closed.startAll silent) [.act (.pause 3500)]
    (∃ events more, Vigil.Run (.opened 5 "42" 1000) events asked ∧
        Vigil.Run (asked.take .askRetry) more later ∧
        (∃ since, later.calls = asked.calls ++ since ∧ (.retry, 700) ∈ since) ∧
        Vigil.times .schedule later.calls = [5, 1005] ∧
        (Vigil.times .retry later.calls).length ≤ later.granted ∧
        ∃ rested, Vigil.Reaches later 9000 rested) ∧
      world.now = 3500 ∧
      ∃ watch ∈ world.watches, watch.calls = [0, 1000, 2000, 3000] ∧
        ∃ start orderId interval events vigil,
          Vigil.Run (.opened start orderId interval) events vigil ∧ vigil.now = world.now ∧
            vigil.poller = watch.poller ∧ vigil.calls.map (·.2) = watch.calls := by
  intro asked later world
  obtain ⟨vigils, rehearsals⟩ := fetches_on_schedule
  refine ⟨?_, by decide +kernel, ?_⟩
  · have rested : (((asked.take .askRetry).take .askRetry).take .takeRetry).Rests 1005 :=
      ⟨by decide, by decide, by decide, by decide⟩
    have idle : ((Vigil.opened 5 "42" 1000).take (.begin 5)).Rests 700 :=
      ⟨by decide, by decide, by decide, by decide⟩
    have first : Vigil.Run (.opened 5 "42" 1000) _ asked :=
      (Vigil.Run.stay.next (.take (.opened 5 "42" 1000) (.begin 5) rfl)).next (.wait _ 700 idle)
    have finish {start : Vigil} {events : List Vigil.Event}
        (run : Vigil.Run start events (asked.take .askRetry)) :
        ∃ more, Vigil.Run start more later :=
      ⟨_, ((((run.next (.take _ .askRetry trivial)).next (.take _ .takeRetry trivial)).next
        (.wait _ 1005 rested)).next (.take _ .tick fun _ => rfl)).next (.arrive _ 1 .crashed)⟩
    obtain ⟨events, whole⟩ := finish (first.next (.take _ .askRetry trivial))
    obtain ⟨more, rest⟩ := finish .stay
    obtain ⟨-, -, -, -, answered, -⟩ := vigils _ _ _ _ _ first
    obtain ⟨schedule, -, -, goesOn, -, bounded, -⟩ := vigils _ _ _ _ _ whole
    have count : (Vigil.times .schedule later.calls).length = 2 := by decide +kernel
    have active : later.poller.isActive = true := by decide +kernel
    have twice : Vigil.slots 5 (max 1000 1) 2 = [5, 1005] := by decide
    rw [count, twice] at schedule
    exact ⟨_, more, first, rest, answered rfl more later rest active (by decide), schedule, bounded,
      goesOn 9000 (by decide)⟩
  · have called : world.watches[0]?.map Watch.calls = some [0, 1000, 2000, 3000] := by
      decide +kernel
    obtain ⟨watch, first, calls⟩ := Option.map_eq_some_iff.mp called
    have there : watch ∈ world.watches := Array.mem_of_getElem? first
    exact ⟨watch, there, calls, rehearsals Unit closed silent _ rfl rfl watch there⟩

end Canteen.Rehearsal
