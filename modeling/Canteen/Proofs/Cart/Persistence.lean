import Canteen.Proofs.Cart.Service

set_option autoImplicit false

namespace Canteen.Cart.Service

structure Tracks (service : Service) : Prop where
  keeper : service.desk.keeper = ({} : Keeper).handleAll service.handled
  count : service.desk.writer.submitted = service.submitted.length
  newest : ∀ lines, service.submitted.getLast? = some lines →
    service.desk.keeper.lines = lines ∧ service.desk.writer.latest = lines ∧
      service.desk.keeper.changed = true

-- How the writer's counts stand for what went to the store.
structure Books (service : Service) : Prop where
  taken : service.desk.writer.taken ≤ service.submitted.length
  written : service.desk.writer.written ≤ service.desk.writer.taken
  order : service.handed.Sublist
    ((service.submitted.take service.desk.writer.taken).map Snapshot.encode)
  last : 0 < service.desk.writer.taken →
    service.handed.getLast? =
      (service.submitted[service.desk.writer.taken - 1]?).map Snapshot.encode
  busy : service.desk.writer.written < service.desk.writer.taken →
    ∃ raw, service.handed.getLast? = some raw ∧ service.underway = [raw]
  idle : service.desk.writer.written = service.desk.writer.taken → service.underway = []
  outcome : service.desk.writer.written = service.desk.writer.taken →
    ∀ raw, service.handed.getLast? = some raw →
      ∃ result, service.ended.getLast? = some (raw, result) ∧
        (result = .ok () → service.stored = .ok (some raw))

theorem tracks_start (initial : Lookup) : Tracks { stored := initial } :=
  ⟨rfl, rfl, by simp⟩

theorem books_start (initial : Lookup) : Books { stored := initial } where
  taken := Nat.le_refl _
  written := Nat.le_refl _
  order := by simp
  last := by simp
  busy := by simp
  idle := by simp
  outcome := by simp

theorem Tracks.receive {service : Service} (tracks : Tracks service) (found : Lookup)
    (request : Request) : Tracks (service.receive found request) := by
  constructor
  · change (service.desk.receive found request).1.keeper = _
    rw [Desk.receive_keeper, tracks.keeper]
    exact (Keeper.handleAll_append _ service.handled [(found, request)]).symm
  · change (service.desk.receive found request).1.writer.submitted = _
    rw [Desk.receive_writer]
    cases request <;> simp [Service.receive, Writer.submit, tracks.count]
  · intro lines newest
    change (service.desk.receive found request).1.keeper.lines = _ ∧
      (service.desk.receive found request).1.writer.latest = _ ∧
      (service.desk.receive found request).1.keeper.changed = true
    rw [Desk.receive_keeper, Desk.receive_writer]
    cases request with
    | change change =>
      simp only [Service.receive, List.getLast?_concat, Option.some.injEq] at newest
      exact ⟨newest, newest, rfl⟩
    | view =>
      simp only [Service.receive, List.append_nil] at newest
      exact tracks.newest lines newest
    | hydrate =>
      simp only [Service.receive, List.append_nil] at newest
      obtain ⟨kept, latest, changed⟩ := tracks.newest lines newest
      -- A changed keeper is not overwritten by what was found in the store.
      have same : (service.desk.keeper.handle found .hydrate).1 =
          { service.desk.keeper with hydrated := true } := by
        simp [Keeper.handle, Keeper.hydrate, Keeper.asksStore, changed]
      rw [same]
      exact ⟨kept, latest, changed⟩
    | flush =>
      simp only [Service.receive, List.append_nil] at newest
      exact tracks.newest lines newest

theorem Books.receive {service : Service} (books : Books service) (found : Lookup)
    (request : Request) : Books (service.receive found request) := by
  have same : (service.receive found request).desk.writer.taken = service.desk.writer.taken ∧
      (service.receive found request).desk.writer.written = service.desk.writer.written := by
    change (service.desk.receive found request).1.writer.taken = _ ∧
      (service.desk.receive found request).1.writer.written = _
    rw [Desk.receive_writer]
    cases request <;> exact ⟨rfl, rfl⟩
  obtain ⟨more, grown⟩ : ∃ more, (service.receive found request).submitted =
      service.submitted ++ more := ⟨_, rfl⟩
  constructor
  · rw [same.1, grown, List.length_append]
    exact Nat.le_add_right_of_le books.taken
  · rw [same.1, same.2]
    exact books.written
  · rw [same.1, grown, List.take_append_of_le_length books.taken]
    exact books.order
  · rw [same.1, grown]
    intro some
    have within : service.desk.writer.taken - 1 < service.submitted.length := by
      have bound := books.taken
      omega
    rw [List.getElem?_append_left within]
    exact books.last some
  · rw [same.1, same.2]
    exact books.busy
  · rw [same.1, same.2]
    exact books.idle
  · rw [same.1, same.2]
    exact books.outcome

theorem newest_of_take {service : Service} (tracks : Tracks service) {raw : String} {desk : Desk}
    (taken : service.desk.take? = some (raw, desk)) :
    ∃ earlier lines, service.submitted = earlier ++ [lines] ∧ raw = Snapshot.encode lines ∧
      service.desk.writer.taken ≤ earlier.length ∧
      desk.writer = { service.desk.writer with taken := earlier.length + 1 } := by
  obtain ⟨-, unseen, rfl, rfl⟩ := Desk.take?_eq_some taken
  rw [tracks.count] at unseen
  obtain empty | ⟨earlier, lines, snapshots⟩ := List.eq_nil_or_concat service.submitted
  · rw [empty] at unseen
    exact absurd unseen (Nat.not_lt_zero _)
  · rw [List.concat_eq_append] at snapshots
    have latest := (tracks.newest lines (snapshots ▸ List.getLast?_concat)).2.1
    have total : service.submitted.length = earlier.length + 1 := by simp [snapshots]
    refine ⟨earlier, lines, snapshots, by rw [latest], by omega, ?_⟩
    rw [tracks.count, total]

theorem Books.handOver {service : Service} (tracks : Tracks service) (books : Books service)
    {raw : String} {desk : Desk} (taken : service.desk.take? = some (raw, desk)) :
    Books (service.handOver raw desk) := by
  have free := (Desk.take?_eq_some taken).1
  obtain ⟨earlier, lines, snapshots, rfl, seen, writer⟩ := newest_of_take tracks taken
  -- The writer is free, so nothing else is underway.
  have settled : service.desk.writer.written = service.desk.writer.taken :=
    Nat.le_antisymm books.written free
  constructor
  · change desk.writer.taken ≤ service.submitted.length
    rw [writer, snapshots, List.length_append]
    exact Nat.le_refl _
  · change desk.writer.written ≤ desk.writer.taken
    rw [writer]
    change service.desk.writer.written ≤ earlier.length + 1
    omega
  · change (service.handed ++ _).Sublist ((service.submitted.take desk.writer.taken).map _)
    rw [writer, snapshots, List.take_of_length_le (by simp), List.map_append]
    have before := books.order
    rw [snapshots, List.take_append_of_le_length seen] at before
    exact (before.trans ((List.take_sublist _ _).map _)).append (List.Sublist.refl _)
  · intro _
    change (service.handed ++ _).getLast? = (service.submitted[desk.writer.taken - 1]?).map _
    rw [writer, snapshots]
    simp
  · intro _
    refine ⟨_, List.getLast?_concat, ?_⟩
    change service.underway ++ _ = _
    rw [books.idle settled]
    rfl
  · change desk.writer.written = desk.writer.taken → _
    rw [writer]
    intro same
    change service.desk.writer.written = earlier.length + 1 at same
    omega
  · change desk.writer.written = desk.writer.taken → _
    rw [writer]
    intro same
    change service.desk.writer.written = earlier.length + 1 at same
    omega

theorem Books.finish {service : Service} (books : Books service) {raw : String}
    {result : Except StoreError Unit} {stored : Lookup} (begun : raw ∈ service.underway)
    (kept : result = .ok () → stored = .ok (some raw)) :
    Books (service.finish raw result stored) := by
  have writing : service.desk.writer.written < service.desk.writer.taken := by
    apply Nat.lt_of_le_of_ne books.written
    intro settled
    rw [books.idle settled] at begun
    cases begun
  obtain ⟨last, newest, alone⟩ := books.busy writing
  obtain rfl : raw = last := by
    rw [alone] at begun
    exact List.mem_singleton.mp begun
  constructor
  · exact books.taken
  · exact Nat.le_refl _
  · exact books.order
  · exact books.last
  · intro lagging
    exact absurd lagging (Nat.lt_irrefl _)
  · intro _
    change service.underway.erase raw = []
    rw [alone]
    simp
  · intro _ last found
    change service.handed.getLast? = some last at found
    rw [newest] at found
    obtain rfl := Option.some.inj found
    exact ⟨result, by simp [Service.finish], kept⟩

theorem Tracks.answer {service : Service} (tracks : Tracks service) {desk : Desk}
    (released : service.desk.release? = some desk) : Tracks { service with desk } := by
  obtain ⟨-, keeper, writer⟩ := Desk.settled_of_release? released
  constructor
  · change desk.keeper = _
    rw [keeper]
    exact tracks.keeper
  · change desk.writer.submitted = _
    rw [writer]
    exact tracks.count
  · change ∀ lines, service.submitted.getLast? = some lines →
      desk.keeper.lines = lines ∧ desk.writer.latest = lines ∧ desk.keeper.changed = true
    rw [keeper, writer]
    exact tracks.newest

theorem Tracks.handOver {service : Service} (tracks : Tracks service) {raw : String} {desk : Desk}
    (taken : service.desk.take? = some (raw, desk)) : Tracks (service.handOver raw desk) := by
  obtain ⟨-, -, -, rfl⟩ := Desk.take?_eq_some taken
  exact ⟨tracks.keeper, tracks.count, tracks.newest⟩

theorem Books.answer {service : Service} (books : Books service) {desk : Desk}
    (released : service.desk.release? = some desk) : Books { service with desk } := by
  have writer := (Desk.settled_of_release? released).2.2
  obtain ⟨keeper, _, flushing⟩ := desk
  obtain rfl : _ = service.desk.writer := writer
  exact ⟨books.taken, books.written, books.order, books.last, books.busy, books.idle,
    books.outcome⟩

structure Consistent (service : Service) : Prop extends Tracks service, Books service

theorem consistent_start (initial : Lookup) : Consistent { stored := initial } :=
  ⟨tracks_start initial, books_start initial⟩

theorem Step.consistent {service later : Service} {event : Event}
    (step : Step service event later) (consistent : Consistent service) : Consistent later := by
  obtain ⟨tracks, books⟩ := consistent
  cases step with
  | receive found request serving free =>
    exact ⟨tracks.receive found request, books.receive found request⟩
  | answer released => exact ⟨tracks.answer released, books.answer released⟩
  | take taken => exact ⟨tracks.handOver taken, books.handOver tracks taken⟩
  | finish begun kept =>
    exact ⟨⟨tracks.keeper, tracks.count, tracks.newest⟩, books.finish begun kept⟩
  | hangUp serving free =>
    exact ⟨⟨tracks.keeper, tracks.count, tracks.newest⟩,
      ⟨books.taken, books.written, books.order, books.last, books.busy, books.idle,
        books.outcome⟩⟩
  | leave closing idle seen =>
    exact ⟨⟨tracks.keeper, tracks.count, tracks.newest⟩,
      ⟨books.taken, books.written, books.order, books.last, books.busy, books.idle,
        books.outcome⟩⟩

theorem Run.consistent {initial : Lookup} {events : List Event} {service : Service}
    (run : Run initial events service) : Consistent service := by
  induction run with
  | start => exact consistent_start initial
  | next before step earlier => exact step.consistent earlier

theorem Consistent.underway_le_one {service : Service} (consistent : Consistent service) :
    service.underway.length ≤ 1 := by
  obtain settled | writing := Nat.eq_or_lt_of_le consistent.written
  · rw [consistent.idle settled]
    exact Nat.zero_le _
  · obtain ⟨raw, -, alone⟩ := consistent.busy writing
    rw [alone]
    exact Nat.le_refl _

/-- The newest lines are in the store, unless the store refused them. -/
def Durable (service : Service) : Prop :=
  let raw := Snapshot.encode service.desk.keeper.lines
  service.underway = [] ∧ service.handed.getLast? = some raw ∧
    ∃ result, service.ended.getLast? = some (raw, result) ∧
      (result = .ok () → service.stored = .ok (some raw) ∧
        ((({} : Keeper).handle service.stored .hydrate).1).lines = Snapshot.decode raw)

theorem Consistent.durable {service : Service} (consistent : Consistent service)
    (settled : service.desk.writer.written = service.desk.writer.taken)
    (seen : service.desk.writer.submitted ≤ service.desk.writer.taken)
    (changed : service.submitted ≠ []) : Durable service := by
  have whole : service.desk.writer.taken = service.submitted.length := by
    apply Nat.le_antisymm consistent.taken
    rw [← consistent.count]
    exact seen
  have positive := List.length_pos_iff.mpr changed
  have newest := List.getLast?_eq_some_getLast changed
  generalize service.submitted.getLast changed = lines at newest
  have kept := (consistent.newest lines newest).1
  have handed : service.handed.getLast? =
      some (Snapshot.encode service.desk.keeper.lines) := by
    rw [consistent.last (by omega), whole, ← List.getLast?_eq_getElem?, newest, kept]
    rfl
  obtain ⟨result, ended, stored⟩ := consistent.outcome settled _ handed
  refine ⟨consistent.idle settled, handed, result, ended, ?_⟩
  intro succeeded
  have found := stored succeeded
  refine ⟨found, ?_⟩
  rw [found]
  rfl

def Event.request? : Event → Option (Lookup × Request)
  | .receive found request => some (found, request)
  | _ => none

def Changes (events : List Event) : Prop :=
  ∃ found change, Event.receive found (.change change) ∈ events

theorem Run.handled_eq {initial : Lookup} {events : List Event} {service : Service}
    (run : Run initial events service) : service.handled = events.filterMap Event.request? := by
  induction run with
  | start => rfl
  | next before step earlier =>
    rw [List.filterMap_append, ← earlier]
    cases step <;> simp [Service.receive, Service.handOver, Service.finish, Event.request?]

theorem Run.submitted_ne_nil {initial : Lookup} {events : List Event} {service : Service}
    (run : Run initial events service) : service.submitted ≠ [] ↔ Changes events := by
  induction run with
  | start => simp [Changes]
  | next before step earlier =>
    cases step with
    | receive found request serving free =>
      cases request with
      | change change =>
        refine iff_of_true (by simp [Service.receive]) ⟨found, change, ?_⟩
        exact List.mem_append_right _ (List.mem_singleton_self _)
      | _ => simpa [Changes, Service.receive] using earlier
    | _ => simpa [Changes, Service.handOver, Service.finish] using earlier

/-- The moments by which the cart is said to be stored: a flush is answered, at once or after a
wait, or the writer is gone. -/
inductive Settles (service : Service) : Event → Prop where
  | flushed {found : Lookup} (answered : (service.desk.receive found .flush).2 = some ()) :
      Settles service (.receive found .flush)
  | answered : Settles service .answer
  | left : Settles service .leave

theorem Consistent.settles {service later : Service} {event : Event}
    (consistent : Consistent service) (step : Step service event later)
    (settles : Settles service event) :
    later.desk.writer.written = later.desk.writer.taken ∧
      later.desk.writer.submitted ≤ later.desk.writer.taken := by
  have most : service.desk.writer.taken ≤ service.desk.writer.submitted := by
    rw [consistent.count]
    exact consistent.taken
  have behind := consistent.written
  cases settles with
  | flushed answered =>
    have settled := Desk.settled_of_receive_flush answered
    simp only [Writer.isSettled, decide_eq_true_eq] at settled
    cases step
    change (service.desk.receive _ .flush).1.writer.written =
        (service.desk.receive _ .flush).1.writer.taken ∧
      (service.desk.receive _ .flush).1.writer.submitted ≤
        (service.desk.receive _ .flush).1.writer.taken
    rw [Desk.receive_writer]
    dsimp only
    omega
  | answered =>
    cases step with
    | answer released =>
      obtain ⟨settled, -, writer⟩ := Desk.settled_of_release? released
      simp only [Writer.isSettled, decide_eq_true_eq] at settled
      dsimp only
      rw [writer]
      omega
  | left =>
    cases step with
    | leave closing idle seen =>
      refine ⟨?_, seen⟩
      -- A text in hand would still be underway.
      obtain settled | writing := Nat.eq_or_lt_of_le behind
      · exact settled
      · obtain ⟨raw, -, alone⟩ := consistent.busy writing
        rw [alone] at idle
        cases idle

theorem Run.handed_nil {initial : Lookup} {events : List Event} {service : Service}
    (run : Run initial events service) (unchanged : ¬Changes events) : service.handed = [] := by
  have none : service.submitted = [] := Decidable.not_not.mp (mt run.submitted_ne_nil.mp unchanged)
  have order := run.consistent.order
  rw [none] at order
  simpa using order

/-- The writer hands over the newest lines one at a time and in order, nobody's cart changes by
it, and once the cart is said to be stored the store was given the cart as it is. -/
theorem writes_follow_cart {initial : Lookup} {events : List Event} {service : Service}
    (run : Run initial events service) :
    service.underway.length ≤ 1 ∧
      service.handed.Sublist (service.submitted.map Snapshot.encode) ∧
      (¬Changes events → service.handed = []) ∧
      service.desk.keeper = ({} : Keeper).handleAll (events.filterMap Event.request?) ∧
      ∀ {event : Event} {later : Service}, Step service event later → Settles service event →
        Changes events → Durable later := by
  have consistent := run.consistent
  refine ⟨consistent.underway_le_one, ?_, run.handed_nil, ?_, ?_⟩
  · exact consistent.order.trans ((List.take_sublist _ _).map _)
  · rw [← run.handled_eq]
    exact consistent.keeper
  · intro event later step settles changes
    obtain ⟨settled, seen⟩ := consistent.settles step settles
    apply (step.consistent consistent).durable settled seen
    have submitted := run.submitted_ne_nil.mpr changes
    cases settles <;> cases step
    · simpa [Service.receive] using submitted
    · exact submitted
    · exact submitted

def fries : Product := { id := "3", name := "French Fries", price := 60, available := false }

theorem writes_follow_cart_refused :
    ∃ service later, Run (.ok none)
        [.receive (.ok none) (.change (.add fries)), .take,
          .receive (.ok none) (.change (.increase "3")),
          .receive (.ok none) (.change (.increase "3")),
          .receive (.ok none) .flush,
          .finish (Snapshot.encode [{ fries with qty := 1 }]) (.error (.refused "full")) (.ok none),
          .take,
          .finish (Snapshot.encode [{ fries with qty := 3 }]) (.ok ())
            (.ok (some (Snapshot.encode [{ fries with qty := 3 }])))] service ∧
      Step service .answer later ∧ later.handed.length = 2 ∧
      later.stored = .ok (some (Snapshot.encode [{ fries with qty := 3 }])) := by
  have opened : Run (.ok none) [] _ := .start
  have first := (opened.next (.receive _ (.ok none) (.change (.add fries)) rfl rfl)).next
    (.take _ rfl)
  have second := (first.next (.receive _ (.ok none) (.change (.increase "3")) rfl rfl)).next
    (.receive _ (.ok none) (.change (.increase "3")) rfl rfl)
  have waiting := second.next (.receive _ (.ok none) .flush rfl rfl)
  have refused := waiting.next (.finish _ (List.mem_singleton_self _) (by intro kept; cases kept) :
    Step _ (.finish _ (.error (.refused "full")) (.ok none)) _)
  have stored := (refused.next (.take _ rfl)).next
    (.finish _ (List.mem_singleton_self _) (fun _ => rfl) : Step _ (.finish _ (.ok ()) _) _)
  refine ⟨_, _, stored, .answer _ rfl, rfl, ?_⟩
  obtain ⟨-, -, result, ended, durable⟩ :=
    (writes_follow_cart stored).2.2.2.2 (.answer _ rfl) .answered ⟨_, _, List.mem_cons_self⟩
  obtain ⟨-, rfl⟩ := Prod.mk.inj (Option.some.inj ended)
  exact (durable rfl).1

end Canteen.Cart.Service
