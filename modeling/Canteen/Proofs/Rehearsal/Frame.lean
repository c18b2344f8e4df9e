import Mathlib.Data.List.Perm.Basic
import Canteen.Rehearsal.Run

set_option autoImplicit false

namespace Canteen.Rehearsal

namespace Agenda

variable {α : Type}

theorem add_perm (new : Due α) (agenda : Agenda α) : (add new agenda).Perm (new :: agenda) := by
  induction agenda with
  | nil => exact .refl _
  | cons entry rest ih =>
    rw [add]
    split
    · exact .refl _
    · exact (ih.cons entry).trans (.swap new entry rest)

def Sorted (agenda : Agenda α) : Prop := agenda.Pairwise (·.time ≤ ·.time)

theorem Sorted.add {agenda : Agenda α} (sorted : agenda.Sorted) (new : Due α) :
    (add new agenda).Sorted := by
  induction agenda with
  | nil => exact List.pairwise_singleton _ _
  | cons entry rest ih =>
    obtain ⟨first, others⟩ := List.pairwise_cons.mp sorted
    rw [Agenda.add]
    split
    · rename_i before
      have earlier : new.time ≤ entry.time := by
        simp only [comesBefore, Bool.decide_or, Bool.or_eq_true, decide_eq_true_eq] at before
        omega
      refine List.pairwise_cons.mpr ⟨fun other member => ?_, sorted⟩
      rcases List.mem_cons.mp member with rfl | later
      · exact earlier
      · exact Nat.le_trans earlier (first other later)
    · rename_i after
      have later : entry.time ≤ new.time := by
        simp only [comesBefore, Bool.decide_or, Bool.or_eq_true, decide_eq_true_eq] at after
        omega
      refine List.pairwise_cons.mpr ⟨fun other member => ?_, ih others⟩
      rcases (mem_add rest new other).mp member with rfl | old
      · exact later
      · exact first other old

end Agenda

abbrev Timing := Tracking.Poller × List Nat

def Watch.timing (watch : Watch) : Timing := (watch.poller, watch.calls)

variable {R : Type}

-- A meal is served within the time for it.
def Action.Aside (time : Nat) : Action R → Prop
  | .poll _ | .tick _ => False
  | .serve _ _ deadline _ => time ≤ deadline
  | _ => True

def Due.Aside (now : Nat) (due : Due (Action R)) : Prop :=
  now ≤ due.time ∧ due.what.Aside due.time

namespace World

def timings (world : World R) : List Timing := world.watches.toList.map Watch.timing

/-- From one world to a later one at the same time: what it does to the trackers, the timers and
calls it puts on the agenda, and nothing else there but what has no part in them. -/
structure Leads (world : World R) (change : List Timing → List Timing)
    (armed : List (Due (Action R))) (later : World R) : Prop where
  now : later.now = world.now
  timings : later.timings = change world.timings
  agenda : ∃ aside, later.agenda.Perm (aside ++ (armed ++ world.agenda)) ∧
    ∀ due ∈ aside, Due.Aside world.now due
  sorted : world.agenda.Sorted → later.agenda.Sorted

abbrev Quiet (world later : World R) : Prop := Leads world id [] later

variable {world middle later : World R} {f g : List Timing → List Timing}
  {armed more : List (Due (Action R))}

theorem Leads.trans (first : Leads world f armed middle) (second : Leads middle g more later) :
    Leads world (g ∘ f) (more ++ armed) later := by
  obtain ⟨before, early, idle⟩ := first.agenda
  obtain ⟨after, late, free⟩ := second.agenda
  refine ⟨second.now.trans first.now, ?_, ⟨after ++ before, ?_, ?_⟩, second.sorted ∘ first.sorted⟩
  · rw [second.timings, first.timings]
    rfl
  · refine late.trans ?_
    rw [List.append_assoc, List.append_assoc]
    refine List.Perm.append_left after ?_
    exact (early.append_left more).trans (List.perm_append_comm_assoc more before _)
  · intro due member
    rcases List.mem_append.mp member with new | old
    · exact first.now ▸ free due new
    · exact idle due old

theorem Leads.congr (leads : Leads world f armed later) (same : f world.timings = g world.timings) :
    Leads world g armed later :=
  ⟨leads.now, leads.timings.trans same, leads.agenda, leads.sorted⟩

theorem Quiet.refl (world : World R) : Quiet world world :=
  ⟨rfl, rfl, ⟨[], .refl _, by simp⟩, id⟩

theorem Quiet.trans (first : Quiet world middle) (second : Quiet middle later) :
    Quiet world later :=
  Leads.trans first second

theorem Leads.quietly (first : Leads world f armed middle) (second : Quiet middle later) :
    Leads world f armed later :=
  first.trans second

theorem Quiet.leads (first : Quiet world middle) (second : Leads middle g more later) :
    Leads world g more later := by
  have both := Leads.trans first second
  rwa [List.append_nil] at both

theorem quiet_of_same (now : later.now = world.now) (watches : later.watches = world.watches)
    (agenda : later.agenda = world.agenda) : Quiet world later :=
  ⟨now, by rw [timings, watches]; rfl, ⟨[], by rw [agenda]; rfl, by simp⟩, by rw [agenda]; exact id⟩

theorem Quiet.post (quiet : Quiet world middle) {time : Nat} {rank : Rank} {action : Action R}
    (ahead : middle.now ≤ time) (aside : action.Aside time) :
    Quiet world (middle.post time rank action) :=
  quiet.trans ⟨rfl, rfl, ⟨[_], Agenda.add_perm _ _, by simpa using ⟨ahead, aside⟩⟩, fun sorted =>
    sorted.add _⟩

theorem Quiet.soon (quiet : Quiet world middle) {rank : Rank} {action : Action R}
    (aside : action.Aside middle.now) : Quiet world (middle.soon rank action) :=
  quiet.post (Nat.le_refl _) aside

theorem Quiet.report (quiet : Quiet world middle) (strand : Nat) (outcome : Outcome R) :
    Quiet world (middle.report strand outcome) := by
  refine Quiet.soon (quiet.trans ?_) trivial
  exact quiet_of_same rfl rfl rfl

theorem quiet_finish (world : World R) (finish : Finish R) : Quiet world (world.finish finish) := by
  cases finish with
  | step strand outcome => exact (Quiet.refl world).report strand outcome
  | fetch watch seq outcome => exact (Quiet.refl world).soon trivial
  | placed strand outcome orderId | shut strand =>
    refine Quiet.report ?_ strand _
    exact quiet_of_same rfl rfl rfl
  | reopen strand opening =>
    have reopened : Quiet world world.reopened := quiet_of_same rfl rfl rfl
    cases opening with
    | none => exact reopened.report strand .nothing
    | some flow => exact reopened.soon trivial

theorem quiet_exchange (world : World R) (owner : Owner) (request : Outgoing) (limit : Nat)
    (next : Exchanged → Flow (Finish R)) :
    (∀ later, world.exchange owner request limit next = .inl later → Quiet world later) ∧
      ∀ exchanged later, world.exchange owner request limit next = .inr (exchanged, later) →
        Quiet world later := by
  unfold exchange
  cases world.server.receive with
  | mk reception server =>
  have start : Quiet world { world with
      server := server, arrivals := world.arrivals ++ [⟨world.now, request⟩] } :=
    quiet_of_same rfl rfl rfl
  cases reception with
  | settled answer =>
    dsimp only
    split
    · refine ⟨by simp, ?_⟩
      rintro exchanged later ⟨⟩
      exact start
    · refine ⟨?_, by simp⟩
      rintro later ⟨⟩
      exact start.post (Nat.le_add_right _ _) trivial
  | cooking latency =>
    dsimp only
    split
    · rename_i patient
      refine ⟨?_, by simp⟩
      rintro later ⟨⟩
      exact start.post (Nat.le_add_right _ _) (Nat.add_le_add_left patient _)
    · refine ⟨?_, by simp⟩
      rintro later ⟨⟩
      exact start.post (Nat.le_add_right _ _) trivial

theorem quiet_proceed (owner : Owner) (flow : Flow (Finish R)) (world : World R) :
    Quiet world (proceed owner flow world) := by
  induction flow generalizing world with
  | done finish => exact quiet_finish world finish
  | perform effect next ih =>
    cases effect with
    | read key => exact ih _ world
    | announce notice =>
      refine Quiet.trans ?_ (ih _ _)
      exact quiet_of_same rfl rfl rfl
    | erase key =>
      refine Quiet.trans ?_ (ih _ _)
      exact quiet_of_same rfl rfl rfl
    | pause millis => exact (Quiet.refl world).post (Nat.le_add_right _ _) trivial
    | write key value =>
      rw [proceed]
      dsimp only
      split
      · refine Quiet.trans ?_ (ih _ _)
        exact quiet_of_same rfl rfl rfl
      · refine Quiet.post ?_ (Nat.le_add_right _ _) trivial
        exact quiet_of_same rfl rfl rfl
    | exchange request limit =>
      obtain ⟨waits, answers⟩ := quiet_exchange world owner request limit next
      rw [proceed]
      cases exchanged : world.exchange owner request limit next with
      | inl later => exact waits later exchanged
      | inr answered => exact (answers _ _ exchanged).trans (ih _ _)
    | ask request =>
      rw [proceed]
      split
      · exact ih _ world
      · refine Quiet.soon ?_ trivial
        exact quiet_of_same rfl rfl rfl

theorem quiet_resume (world : World R) (owner : Owner) (flow : Flow (Finish R)) :
    Quiet world (world.resume owner flow) := by
  unfold resume
  split
  · exact quiet_proceed owner flow world
  · exact .refl world

theorem quiet_endStore (world : World R) (owner : Owner) (key value : String)
    (next : Except StoreError Unit → Flow (Finish R)) :
    Quiet world (world.endStore owner key value next) := by
  unfold endStore
  split
  · refine Quiet.trans ?_ (quiet_proceed owner _ _)
    exact quiet_of_same rfl rfl rfl
  · exact .refl world

theorem quiet_endServe (world : World R) (owner : Owner) (request : Outgoing) {deadline : Nat}
    (next : Exchanged → Flow (Finish R)) (ahead : world.now ≤ deadline) :
    Quiet world (world.endServe owner request deadline next) := by
  unfold endServe
  split
  · exact quiet_resume world owner _
  · exact (Quiet.refl world).post ahead trivial

theorem quiet_attendAll (letters : List (Letter R)) (world : World R) :
    Quiet world (attendAll letters world) := by
  induction letters generalizing world with
  | nil => exact quiet_of_same rfl rfl rfl
  | cons letter rest ih =>
    unfold attendAll
    split
    · exact quiet_of_same rfl rfl rfl
    · have picked (desk : Cart.Desk) :
          Quiet world ({ world with desk }.soon .behind .pickUp) := by
        refine Quiet.soon ?_ trivial
        exact quiet_of_same rfl rfl rfl
      dsimp only
      split
      · refine Quiet.trans ?_ (ih _)
        refine Quiet.soon ?_ trivial
        exact picked _
      · exact (picked (world.desk.receive _ letter.request).1).trans (quiet_of_same rfl rfl rfl)

theorem quiet_attend (world : World R) : Quiet world world.attend := by
  unfold attend
  refine Quiet.trans ?_ (quiet_attendAll _ _)
  exact quiet_of_same rfl rfl rfl

theorem quiet_endWrite (world : World R) (raw : String) : Quiet world (world.endWrite raw) := by
  unfold endWrite
  refine Quiet.soon ?_ trivial
  refine Quiet.soon ?_ trivial
  exact quiet_of_same rfl rfl rfl

theorem quiet_pickUp (world : World R) : Quiet world world.pickUp := by
  unfold pickUp
  split
  · exact .refl world
  · dsimp only
    split
    · refine Quiet.trans ?_ (quiet_endWrite _ _)
      exact quiet_of_same rfl rfl rfl
    · refine Quiet.post ?_ (Nat.le_add_right _ _) trivial
      exact quiet_of_same rfl rfl rfl

theorem map_modify {α β : Type} {f : α → β} {g : α → α} {h : β → β} {list : List α} {i : Nat}
    (same : ∀ a, list[i]? = some a → f (g a) = h (f a)) :
    (list.modify i g).map f = (list.map f).modify i h := by
  induction list generalizing i with
  | nil => cases i <;> rfl
  | cons first rest ih =>
    cases i with
    | zero => simp [same first rfl]
    | succ i => simp [ih same]

theorem leads_modifyWatch {i : Nat} {f : Watch → Watch} {g : Timing → Timing}
    (same : ∀ watch, world.watches[i]? = some watch → (f watch).timing = g watch.timing) :
    Leads world (·.modify i g) [] (world.modifyWatch i f) := by
  refine ⟨rfl, ?_, ⟨[], .refl _, by simp⟩, id⟩
  have found : ∀ watch, world.watches.toList[i]? = some watch →
      (f watch).timing = g watch.timing := by
    simpa using same
  rw [timings, modifyWatch, Array.toList_modify, map_modify found]
  rfl

theorem quiet_modifyWatch (world : World R) (i : Nat) {f : Watch → Watch}
    (same : ∀ watch, (f watch).timing = watch.timing) : Quiet world (world.modifyWatch i f) := by
  have leads : Leads world (·.modify i id) [] (world.modifyWatch i f) :=
    leads_modifyWatch fun watch _ => same watch
  exact leads.congr (by simp)

theorem quiet_tellWaiters (world : World R) (i : Nat) : Quiet world (world.tellWaiters i) := by
  unfold tellWaiters
  split
  · exact .refl world
  split
  · exact .refl world
  rename_i ending _
  dsimp only
  have told (waiters : List Waiter) (middle : World R) (quiet : Quiet world middle) :
      Quiet world (waiters.foldl (fun world waiter => world.soon .waiting
        (.resume .actor (.done (.step waiter.strand (.ending ending))))) middle) := by
    induction waiters generalizing middle with
    | nil => exact quiet
    | cons waiter rest ih => exact ih _ (quiet.soon trivial)
  exact told _ _ (quiet_modifyWatch world i fun _ => rfl)

theorem quiet_writeJournal (world : World R) (i : Nat) : Quiet world (world.writeJournal i) := by
  refine quiet_modifyWatch world i fun watch => ?_
  split <;> rfl

theorem quiet_giveUp (world : World R) (i strand ticket : Nat) :
    Quiet world (world.giveUp i strand ticket) := by
  unfold giveUp
  split
  · exact .refl world
  · dsimp only
    split
    · refine Quiet.report ?_ strand .stillWaiting
      exact quiet_modifyWatch world i fun _ => rfl
    · exact .refl world

theorem timings_getElem? (world : World R) (i : Nat) :
    world.timings[i]? = world.watches[i]?.map Watch.timing := by
  simp [timings]

-- What there is nothing of is not changed either.
theorem quiet_absent {i : Nat} (absent : world.watches[i]? = none) {g : Timing → Timing} :
    Leads world (·.modify i g) [] world := by
  refine ⟨rfl, ?_, ⟨[], .refl _, by simp⟩, id⟩
  have short : world.timings.length ≤ i := by
    simpa [timings] using absent
  exact (List.modify_eq_self short).symm

theorem leads_arrive (world : World R) (i seq : Nat) (outcome : Tracking.Outcome) :
    Leads world (·.modify i fun timing => (timing.1.arrive seq outcome, timing.2)) []
      (world.arrive i seq outcome) := by
  unfold arrive
  split
  · rename_i absent
    exact quiet_absent absent
  · rename_i watch found
    dsimp only
    refine Leads.quietly ?_ (quiet_tellWaiters _ i)
    have shown (unread : Bool) : Leads world
        (·.modify i fun timing => (timing.1.arrive seq outcome, timing.2)) []
        (world.modifyWatch i fun w =>
          { w with poller := watch.poller.arrive seq outcome, unread := w.unread || unread }) := by
      refine leads_modifyWatch fun other same => ?_
      obtain rfl := Option.some.inj (found.symm.trans same)
      rfl
    split
    · exact (shown _).quietly ((Quiet.refl _).soon trivial)
    · exact shown _

theorem leads_disposeWatch (world : World R) (i : Nat) :
    Leads world (·.modify i fun timing => (timing.1.dispose, timing.2)) []
      (world.disposeWatch i) :=
  (leads_modifyWatch fun _ _ => rfl).quietly (quiet_tellWaiters _ i)

def called (now count : Nat) (timing : Timing) : Timing :=
  (timing.1, timing.2 ++ List.replicate count now)

theorem called_zero (now : Nat) (timing : Timing) : called now 0 timing = timing := by
  simp [called]

theorem called_called (now first second : Nat) (timing : Timing) :
    called now second (called now first timing) = called now (first + second) timing := by
  simp [called]

theorem leads_startFetch (world : World R) (i seq : Nat) :
    Leads world (·.modify i (called world.now 1)) [] (world.startFetch i seq) := by
  unfold startFetch
  split
  · rename_i absent
    exact quiet_absent absent
  · rename_i watch found
    dsimp only
    have noted : Leads world (·.modify i (called world.now 1)) []
        (world.modifyWatch i fun w => { w with calls := w.calls ++ [world.now] }) :=
      leads_modifyWatch fun _ _ => rfl
    split
    · exact noted.quietly ((Quiet.refl _).soon trivial)
    · rename_i fetches _
      have taken := noted.quietly (quiet_modifyWatch _ i
        (f := fun w => { w with source := .scripted (Source.takeFetch fetches).2 }) fun _ => rfl)
      split
      · exact taken.quietly ((Quiet.refl _).post (Nat.le_add_right _ _) trivial)
      · exact taken

theorem modify_called (now first second i : Nat) (timings : List Timing) :
    (timings.modify i (called now first)).modify i (called now second) =
      timings.modify i (called now (first + second)) := by
  rw [List.modify_modify_eq]
  congr
  exact funext (called_called now first second)

theorem leads_startFetches (numbers : List Nat) (world : World R) (i : Nat) :
    Leads world (·.modify i (called world.now numbers.length)) []
      (numbers.foldl (fun world seq => world.startFetch i seq) world) := by
  induction numbers generalizing world with
  | nil =>
    refine ⟨rfl, ?_, ⟨[], .refl _, by simp⟩, id⟩
    have same : called world.now 0 = id := funext (called_zero world.now)
    simp [same]
  | cons seq rest ih =>
    have first := leads_startFetch world i seq
    have both := first.trans (ih (world.startFetch i seq))
    rw [first.now] at both
    refine both.congr ?_
    rw [List.length_cons, Nat.add_comm, ← modify_called]
    rfl

def timer (i : Nat) (before after : Tracking.Poller) : List (Due (Action R)) :=
  if after.nextTick ≠ before.nextTick then [⟨after.nextTick, .behind, .tick i⟩] else []

theorem leads_post (world : World R) (time : Nat) (rank : Rank) (action : Action R) :
    Leads world id [⟨time, rank, action⟩] (world.post time rank action) :=
  ⟨rfl, rfl, ⟨[], Agenda.add_perm _ _, by simp⟩, fun sorted => sorted.add _⟩

theorem leads_updatePoller {i : Nat} {watch : Watch} (found : world.watches[i]? = some watch)
    (update : Tracking.Poller → Tracking.Poller) :
    Leads world
      (·.modify i fun timing => called world.now
        ((update watch.poller).issued - watch.poller.issued) (update timing.1, timing.2))
      (timer i watch.poller (update watch.poller)) (world.updatePoller i update) := by
  have set : Leads world (·.modify i fun timing => (update timing.1, timing.2)) []
      (world.modifyWatch i fun w => { w with poller := update watch.poller }) := by
    refine leads_modifyWatch fun other same => ?_
    obtain rfl := Option.some.inj (found.symm.trans same)
    rfl
  have fetched := set.trans (leads_startFetches
    (List.range' (watch.poller.issued + 1) ((update watch.poller).issued - watch.poller.issued)) _ i)
  rw [set.now, List.length_range'] at fetched
  have whole := fetched.congr (List.modify_modify_eq _ _ _ _)
  unfold updatePoller timer
  rw [found]
  dsimp only
  split
  · exact whole.trans (leads_post _ _ _ _)
  · exact whole

theorem leads_askRetry {i : Nat} {watch : Watch} (found : world.watches[i]? = some watch)
    (strand : Nat) :
    Leads world (·.modify i fun timing => (timing.1.askRetry.2, timing.2))
      (if watch.poller.askRetry.1 then [⟨world.now, .behind, .poll i⟩] else [])
      (world.trackerStep strand i watch .retry) := by
  have asked : Leads world (·.modify i fun timing => (timing.1.askRetry.2, timing.2)) []
      (world.modifyWatch i fun w => { w with poller := watch.poller.askRetry.2 }) := by
    refine leads_modifyWatch fun other same => ?_
    obtain rfl := Option.some.inj (found.symm.trans same)
    rfl
  unfold trackerStep
  dsimp only
  refine Leads.quietly ?_ ((Quiet.refl _).report strand _)
  split
  · exact asked.trans (leads_post _ _ _ _)
  · exact asked

theorem length_timings (world : World R) : world.timings.length = world.watches.size := by
  simp [timings]

theorem leads_push (world : World R) (watch : Watch) :
    Leads world (· ++ [watch.timing]) []
      { world with watches := world.watches.push watch } :=
  ⟨rfl, by simp [timings], ⟨[], .refl _, by simp⟩, id⟩

theorem leads_startWatch (world : World R) (name orderId : String) (interval : Nat)
    (source : Source) :
    ∃ i, Leads world
      (fun timings => timings.modify i (fun timing => (timing.1.dispose, timing.2)) ++
        [(.start orderId interval, [])])
      [⟨world.now, .behind, .poll world.watches.size⟩]
      (world.startWatch name orderId interval source) := by
  let watch : Watch := { name, poller := .start orderId interval, source }
  have opens (i : Nat) (middle : World R) (first : Leads world
      (·.modify i fun timing => (timing.1.dispose, timing.2)) [] middle) :
      Leads world
        (fun timings => timings.modify i (fun timing => (timing.1.dispose, timing.2)) ++
          [(.start orderId interval, [])])
        [⟨world.now, .behind, .poll world.watches.size⟩]
        ({ middle with watches := middle.watches.push watch }.soon .behind
          (.poll middle.watches.size)) := by
    have size : middle.watches.size = world.watches.size := by
      rw [← length_timings, first.timings, List.length_modify, length_timings]
    rw [← first.now, ← size]
    exact (first.trans (leads_push middle watch)).trans (leads_post _ _ _ _)
  unfold startWatch
  cases world.findWatch? name with
  | some i =>
    refine ⟨i, opens i _ ((leads_disposeWatch world i).quietly ?_)⟩
    exact quiet_modifyWatch _ i fun _ => rfl
  | none => exact ⟨world.watches.size, opens _ _ (quiet_absent (by simp))⟩

inductive Touches (world later : World R) : Prop where
  | quiet (quiet : Quiet world later)
  | dispose (i : Nat)
      (leads : Leads world (·.modify i fun timing => (timing.1.dispose, timing.2)) [] later)
  | askRetry (i : Nat) (timing : Timing) (found : world.timings[i]? = some timing)
      (leads : Leads world (·.modify i fun timing => (timing.1.askRetry.2, timing.2))
        (if timing.1.askRetry.1 then [⟨world.now, .behind, .poll i⟩] else []) later)
  | start (i : Nat) (orderId : String) (interval : Nat)
      (leads : Leads world
        (fun timings => timings.modify i (fun timing => (timing.1.dispose, timing.2)) ++
          [(.start orderId interval, [])])
        [⟨world.now, .behind, .poll world.timings.length⟩] later)
  | arrive (i seq : Nat) (outcome : Tracking.Outcome)
      (leads : Leads world
        (·.modify i fun timing => (timing.1.arrive seq outcome, timing.2)) [] later)

theorem touches_trackerStep {i : Nat} {watch : Watch} (found : world.watches[i]? = some watch)
    (strand : Nat) (step : TrackerStep) : Touches world (world.trackerStep strand i watch step) := by
  cases step with
  | state => exact .quiet ((Quiet.refl world).report strand _)
  | retry =>
    have timing : world.timings[i]? = some watch.timing := by
      rw [timings_getElem?, found]
      rfl
    exact .askRetry i watch.timing timing (leads_askRetry found strand)
  | dispose =>
    exact .dispose i ((leads_disposeWatch world i).quietly ((Quiet.refl _).report strand .nothing))
  | drop =>
    refine .dispose i ((leads_disposeWatch world i).quietly (Quiet.report ?_ strand .nothing))
    exact quiet_modifyWatch _ i fun _ => rfl
  | await limit =>
    unfold trackerStep
    dsimp only
    split
    · exact .quiet ((Quiet.refl world).report strand _)
    · refine .quiet (Quiet.trans ?_ (quiet_tellWaiters _ i))
      refine Quiet.post ?_ (Nat.le_add_right _ _) trivial
      have ticketed : Quiet world { world with tickets := world.tickets + 1 } :=
        quiet_of_same rfl rfl rfl
      exact ticketed.trans (quiet_modifyWatch _ i fun _ => rfl)
  | journal =>
    refine .quiet (Quiet.report ?_ strand _)
    exact quiet_modifyWatch world i fun _ => rfl

theorem touches_trackerStepByName (world : World R) (strand : Nat) (name : String)
    (step : TrackerStep) : Touches world (world.trackerStepByName strand name step) := by
  unfold trackerStepByName
  dsimp only
  split
  · exact .quiet ((Quiet.refl world).report strand .dropped)
  · rename_i watch i named
    have found : world.watches[i]? = some watch := by
      have member := List.mem_of_mem_filter (List.mem_of_getLast? named)
      simpa [List.mem_zipIdx_iff_getElem?] using member
    split
    · exact touches_trackerStep found strand .journal
    · exact .quiet ((Quiet.refl world).report strand .dropped)
    · exact touches_trackerStep found strand _

theorem touches_perform (world : World R) (strand : Nat) (step : Step R) :
    Touches world (world.perform strand step) := by
  cases step with
  | act flow | place flow | shutdown | restart opening => exact .quiet (quiet_proceed .actor _ world)
  | followUp flow =>
    rw [perform]
    split
    · exact .quiet (quiet_proceed .actor _ world)
    · exact .quiet ((Quiet.refl world).report strand .noOrder)
  | writes | arrivals | notices | turnClock turn =>
    refine .quiet (Quiet.report ?_ strand _)
    exact quiet_of_same rfl rfl rfl
  | track name orderId =>
    rw [perform]
    split
    · rename_i id _
      obtain ⟨i, leads⟩ :=
        leads_startWatch world name id world.config.pollInterval.toNat .orders
      rw [← length_timings] at leads
      exact .start i id _ (leads.quietly ((Quiet.refl _).report strand .nothing))
    · exact .quiet ((Quiet.refl world).report strand .noOrder)
  | tracker name step => exact touches_trackerStepByName world strand name step
  | both delay first rest =>
    rw [perform]
    refine .quiet (Quiet.post ?_ (Nat.le_add_right _ _) trivial)
    refine Quiet.soon ?_ trivial
    exact quiet_of_same rfl rfl rfl

theorem Quiet.touches {first : World R} (quiet : Quiet world first) (touches : Touches first later) :
    Touches world later := by
  cases touches with
  | quiet second => exact .quiet (quiet.trans second)
  | dispose i leads => exact .dispose i (quiet.leads leads)
  | askRetry i timing found leads =>
    have same : first.timings = world.timings := quiet.timings
    rw [quiet.now] at leads
    exact .askRetry i timing (same ▸ found) (quiet.leads leads)
  | start i orderId interval leads =>
    have same : first.timings = world.timings := quiet.timings
    rw [quiet.now, same] at leads
    exact .start i orderId interval (quiet.leads leads)
  | arrive i seq outcome leads => exact .arrive i seq outcome (quiet.leads leads)

theorem touches_advance (world : World R) (i : Nat) : Touches world (world.advance i) := by
  have begun (f : Strand R → Strand R) : Quiet world (world.modifyStrand i f) :=
    quiet_of_same rfl rfl rfl
  unfold advance
  split
  · exact .quiet (.refl world)
  split
  · exact (begun _).touches (touches_perform _ i _)
  · dsimp only
    split
    · exact .quiet (begun _)
    · split
      · exact .quiet ((begun _).report _ _)
      · exact .quiet (begun _)

theorem touches_react {action : Action R} (aside : action.Aside world.now) :
    Touches world (world.react action) := by
  cases action with
  | poll i | tick i => exact aside.elim
  | advance strand => exact touches_advance world strand
  | resume owner flow => exact .quiet (quiet_resume world owner flow)
  | store owner key value next => exact .quiet (quiet_endStore world owner key value next)
  | serve owner request deadline next => exact .quiet (quiet_endServe world owner request next aside)
  | attend => exact .quiet (quiet_attend world)
  | pickUp => exact .quiet (quiet_pickUp world)
  | written raw => exact .quiet (quiet_endWrite world raw)
  | arrive i seq outcome => exact .arrive i seq outcome (leads_arrive world i seq outcome)
  | journal i => exact .quiet (quiet_writeJournal world i)
  | giveUp i strand ticket => exact .quiet (quiet_giveUp world i strand ticket)

end World

end Canteen.Rehearsal
