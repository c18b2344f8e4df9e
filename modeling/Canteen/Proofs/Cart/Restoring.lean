import Canteen.Proofs.Cart.Holding
import Canteen.Proofs.Cart.Persistence

set_option autoImplicit false

namespace Canteen.Cart

variable {keeper : Keeper} {served before after : List (Lookup × Request)} {lines : List Line}
  {change : Change}

def Request.change? : Request → Option Change
  | .change asked => some asked
  | .view | .hydrate | .flush => none

def changes (served : List (Lookup × Request)) : List Change :=
  served.filterMap (·.2.change?)

def Unhydrated (served : List (Lookup × Request)) : Prop :=
  ∀ entry ∈ served, entry.2 ≠ .hydrate

theorem changes_cons (stored : Lookup) (request : Request) (served : List (Lookup × Request)) :
    changes ((stored, request) :: served) = request.change?.toList ++ changes served := by
  cases request <;> rfl

-- What the cart was before everything that has been changed in it.
def base : List (Lookup × Request) → List Line
  | [] => []
  | (_, .change _) :: _ => []
  | (stored, .hydrate) :: _ => restored stored
  | (_, .view) :: rest => base rest
  | (_, .flush) :: rest => base rest

theorem base_of_unhydrated (early : Unhydrated served) : base served = [] := by
  induction served with
  | nil => rfl
  | cons first rest ih =>
    obtain ⟨stored, request⟩ := first
    have later := ih (List.forall_mem_cons.mp early).2
    cases request with
    | change change => rfl
    | hydrate => exact absurd rfl (List.forall_mem_cons.mp early).1
    | view => exact later
    | flush => exact later

theorem base_of_first_hydrate (early : Unhydrated before) (stored : Lookup)
    (after : List (Lookup × Request)) :
    base (before ++ (stored, .hydrate) :: after) =
      if changes before = [] then restored stored else [] := by
  induction before with
  | nil => rfl
  | cons first rest ih =>
    obtain ⟨found, request⟩ := first
    have later := ih (List.forall_mem_cons.mp early).2
    cases request with
    | change change => simp [base, changes_cons, Request.change?]
    | hydrate => exact absurd rfl (List.forall_mem_cons.mp early).1
    | view => simpa [base, changes_cons, Request.change?] using later
    | flush => simpa [base, changes_cons, Request.change?] using later

namespace Keeper

theorem hydrate_of_settled (settled : keeper.asksStore = false) (stored : Lookup) :
    keeper.hydrate stored = { keeper with hydrated := true } := by
  simp [hydrate, settled]

theorem handle_settled (settled : keeper.asksStore = false) (stored : Lookup) (request : Request) :
    (keeper.handle stored request).1.asksStore = false := by
  cases request with
  | change change => simp [handle, Keeper.change, asksStore]
  | view => exact settled
  | hydrate =>
    change (keeper.hydrate stored).asksStore = false
    simp [asksStore, hydrate_hydrated]
  | flush => exact settled

-- A keeper that no longer asks the store only ever makes the changes.
theorem lines_of_settled (settled : keeper.asksStore = false)
    (served : List (Lookup × Request)) :
    (keeper.handleAll served).lines = (changes served).foldl Change.apply keeper.lines := by
  induction served generalizing keeper with
  | nil => rfl
  | cons first rest ih =>
    obtain ⟨stored, request⟩ := first
    change ((keeper.handle stored request).1.handleAll rest).lines = _
    rw [ih (handle_settled settled stored request), changes_cons]
    cases request with
    | hydrate => simp [handle, hydrate_of_settled settled, Request.change?]
    | _ => rfl

theorem lines_eq_foldl (served : List (Lookup × Request)) :
    (({} : Keeper).handleAll served).lines =
      (changes served).foldl Change.apply (base served) := by
  induction served with
  | nil => rfl
  | cons first rest ih =>
    obtain ⟨stored, request⟩ := first
    change ((({} : Keeper).handle stored request).1.handleAll rest).lines = _
    rw [changes_cons]
    cases request with
    | change change => exact lines_of_settled rfl rest
    | view => exact ih
    | hydrate => exact lines_of_settled rfl rest
    | flush => exact ih

theorem handleAll_hydrated (keeper : Keeper) (served : List (Lookup × Request)) :
    (keeper.handleAll served).hydrated = true ↔
      keeper.hydrated = true ∨ ∃ stored, (stored, Request.hydrate) ∈ served := by
  induction served generalizing keeper with
  | nil => simp [handleAll]
  | cons first rest ih =>
    obtain ⟨stored, request⟩ := first
    change ((keeper.handle stored request).1.handleAll rest).hydrated = true ↔ _
    rw [ih]
    cases request with
    | hydrate =>
      refine iff_of_true (.inl ?_) (.inr ⟨stored, List.mem_cons_self⟩)
      exact keeper.hydrate_hydrated stored
    | _ => simp [handle, Keeper.change]

end Keeper

namespace Service

variable {initial : Lookup} {events : List Event} {service : Service}

theorem receive_keeper (service : Service) (found : Lookup) (request : Request) :
    (service.receive found request).desk.keeper =
      (service.desk.keeper.handle found request).1 :=
  service.desk.receive_keeper found request

theorem Run.keeper_eq (run : Run initial events service) :
    service.desk.keeper = ({} : Keeper).handleAll (events.filterMap Event.request?) := by
  rw [← run.handled_eq]
  exact run.consistent.keeper

/-- However requests, reads and writes come about: the cart is what all changes so far make of one
base, which is the stored cart if the first request to restore it came before them, and nothing
otherwise. -/
theorem changes_survive_hydrate (run : Run initial events service) :
    (∃ base, service.desk.keeper.lines =
        (changes (events.filterMap Event.request?)).foldl Change.apply base ∧
      (Unhydrated (events.filterMap Event.request?) → base = []) ∧
      ∀ before stored after,
        events.filterMap Event.request? = before ++ (stored, .hydrate) :: after →
          Unhydrated before → base = if changes before = [] then restored stored else []) ∧
    (service.desk.keeper.hydrated = true ↔
      ∃ stored, (stored, .hydrate) ∈ events.filterMap Event.request?) ∧
    (∀ found change, (service.desk.receive found (.change change)).2 =
      some (service.receive found (.change change)).desk.keeper.lines) ∧
    (∀ found, (service.desk.receive found .hydrate).2 =
      some (service.receive found .hydrate).desk.keeper.lines) ∧
    (service.desk.keeper.hydrated = true → ∀ found,
      (service.receive found .hydrate).desk.keeper.lines = service.desk.keeper.lines) := by
  refine ⟨?_, ?_, fun _ _ => rfl, fun _ => rfl, fun hydrated found => ?_⟩
  · refine ⟨base (events.filterMap Event.request?), ?_, base_of_unhydrated, ?_⟩
    · rw [run.keeper_eq]
      exact Keeper.lines_eq_foldl _
    · intro before stored after split early
      rw [split]
      exact base_of_first_hydrate early stored after
  · rw [run.keeper_eq, Keeper.handleAll_hydrated]
    simp
  · have settled : service.desk.keeper.asksStore = false := by simp [Keeper.asksStore, hydrated]
    rw [receive_keeper]
    change (service.desk.keeper.hydrate found).lines = _
    rw [Keeper.hydrate_of_settled settled]

-- A cart as other programs may have left it.
def leftover : String := "[\x7b\"id\":\"5\",\"qty\":2\x7d]"

def nameless : Product := { id := "5", name := "", price := 0, available := true }

theorem decode_leftover : Snapshot.decode leftover = [{ nameless with qty := 2 }] := by
  decide +kernel

theorem restored_leftover : restored (.ok (some leftover)) = [{ nameless with qty := 2 }] :=
  decode_leftover

theorem changes_survive_hydrate_again :
    ∃ service, Run (.ok (some leftover))
        [.receive (.ok (some leftover)) .hydrate,
          .receive (.ok (some leftover)) (.change (.decrease "5")),
          .receive (.error (.refused "gone")) .hydrate] service ∧
      service.desk.keeper.lines = [{ nameless with qty := 1 }] := by
  have opened : Run (.ok (some leftover)) [] _ := .start
  have run := ((opened.next (.receive _ (.ok (some leftover)) .hydrate rfl rfl)).next
    (.receive _ (.ok (some leftover)) (.change (.decrease "5")) rfl rfl)).next
    (.receive _ (.error (.refused "gone")) .hydrate rfl rfl)
  refine ⟨_, run, ?_⟩
  obtain ⟨⟨base, made, -, first⟩, -⟩ := changes_survive_hydrate run
  have untouched : changes [] = [] := rfl
  have same := first [] _ _ rfl (by simp [Unhydrated])
  rw [if_pos untouched, restored_leftover] at same
  rw [made, same]
  decide

end Service

/-- The change names only products that are not in the cart. -/
def Idle (lines : List Line) : Change → Prop
  | .add _ | .clear => False
  | .increase id | .decrease id => id ∉ lines.map (·.id)
  | .removeOrdered order => ∀ entry ∈ order.items, entry.id ∉ lines.map (·.id)

theorem deduct_of_untouched (positive : ∀ line ∈ lines, 0 < line.qty) {units : String → Nat}
    (zero : ∀ line ∈ lines, units line.id = 0) : deduct units lines = lines := by
  induction lines with
  | nil => rfl
  | cons line rest ih =>
    have filled : 0 < line.qty.toNat :=
      UInt32.lt_iff_toNat_lt.mp (positive line List.mem_cons_self)
    rw [deduct_cons, zero line List.mem_cons_self, if_neg (by omega), Line.withdraw_zero,
      ih (fun other member => positive other (List.mem_cons_of_mem _ member))
        fun other member => zero other (List.mem_cons_of_mem _ member)]

theorem apply_of_idle (positive : ∀ line ∈ lines, 0 < line.qty) (idle : Idle lines change) :
    change.apply lines = lines := by
  cases change with
  | add product => exact idle.elim
  | increase id =>
    change increase lines id = lines
    have other (line : Line) (member : line ∈ lines) : line.id ≠ id := by
      rintro rfl
      exact idle (List.mem_map_of_mem member)
    exact (List.map_congr_left fun line member => if_neg (other line member)).trans
      (List.map_id lines)
  | decrease id =>
    change decrease lines id = lines
    rw [decrease_eq_deduct]
    refine deduct_of_untouched positive fun line member => if_neg ?_
    rintro rfl
    exact idle (List.mem_map_of_mem member)
  | clear => exact idle.elim
  | removeOrdered order =>
    change removeOrdered lines order = lines
    rw [removeOrdered_eq_deduct]
    refine deduct_of_untouched positive fun line member => ?_
    apply Order.Request.units_of_absent
    rintro entry present same
    exact idle entry present (same ▸ List.mem_map_of_mem member)

namespace Service

variable {initial : Lookup} {events : List Event} {event : Event} {service : Service}
  {raw : String}

-- No change so far has found anything to change.
def Idling (events : List Event) : Prop :=
  ∀ before found change after, events = before ++ .receive found (.change change) :: after →
    Idle (({} : Keeper).handleAll (before.filterMap Event.request?)).lines change

theorem idling_append : Idling (events ++ [event]) ↔ Idling events ∧
    ∀ found change, event = .receive found (.change change) →
      Idle (({} : Keeper).handleAll (events.filterMap Event.request?)).lines change := by
  constructor
  · intro idling
    refine ⟨fun before found change after split => ?_, fun found change last => ?_⟩
    · exact idling before found change (after ++ [event]) (by rw [split]; simp)
    · exact idling events found change [] (by rw [last])
  · rintro ⟨idling, last⟩ before found change after split
    obtain rfl | ⟨earlier, final, rfl⟩ := List.eq_nil_or_concat' after
    · obtain ⟨rfl, same⟩ := List.append_inj' split rfl
      exact last found change (List.cons.inj same).1
    · rw [← List.cons_append, ← List.append_assoc] at split
      exact idling before found change earlier (List.append_inj' split rfl).1

theorem Run.idle_lines (run : Run initial events service)
    (early : Unhydrated (events.filterMap Event.request?)) (idling : Idling events) :
    service.desk.keeper.lines = [] ∧ ∀ lines ∈ service.submitted, lines = [] := by
  induction run with
  | start => exact ⟨rfl, by simp⟩
  | @next events event service later before step earlier =>
    obtain ⟨idling, last⟩ := idling_append.mp idling
    rw [List.filterMap_append, Unhydrated, List.forall_mem_append] at early
    obtain ⟨empty, submitted⟩ := earlier early.1 idling
    cases step with
    | receive found request serving free =>
      cases request with
      | change change =>
        have idle := last found change rfl
        rw [← before.keeper_eq, empty] at idle
        have same : change.apply service.desk.keeper.lines = [] := by
          rw [empty]
          exact apply_of_idle (by simp) idle
        refine ⟨same, ?_⟩
        intro lines member
        rcases List.mem_append.mp member with old | new
        · exact submitted lines old
        · rw [List.mem_singleton.mp new, same]
      | hydrate => exact absurd rfl (early.2 (found, .hydrate) (by simp [Event.request?]))
      | _ =>
        rw [receive_keeper]
        exact ⟨empty, by simpa [Service.receive] using submitted⟩
    | answer released =>
      have keeper := (Desk.settled_of_release? released).2.1
      exact ⟨(congrArg Keeper.lines keeper).trans empty, submitted⟩
    | take taken =>
      obtain ⟨-, -, -, rfl⟩ := Desk.take?_eq_some taken
      exact ⟨empty, submitted⟩
    | _ => exact ⟨empty, submitted⟩

theorem changes_eq_nil_iff (events : List Event) :
    changes (events.filterMap Event.request?) = [] ↔ ¬Changes events := by
  simp only [changes, List.filterMap_filterMap, List.filterMap_eq_nil_iff, Changes, not_exists]
  constructor
  · intro silent found change member
    cases silent _ member
  · intro unchanged event member
    cases event with
    | receive found request =>
      cases request with
      | change change => exact absurd member (unchanged found change)
      | _ => rfl
    | _ => rfl

theorem Run.lines_of_hydrate (run : Run initial events service)
    (early : Unhydrated (events.filterMap Event.request?)) (found : Lookup) :
    (¬Changes events → (service.receive found .hydrate).desk.keeper.lines = restored found) ∧
      (Changes events →
        (service.receive found .hydrate).desk.keeper.lines = service.desk.keeper.lines) := by
  have lines : (service.receive found .hydrate).desk.keeper.lines =
      (({} : Keeper).handleAll
        (events.filterMap Event.request? ++ [(found, .hydrate)])).lines := by
    rw [receive_keeper, run.keeper_eq, Keeper.handleAll_append]
    rfl
  rw [lines, Keeper.lines_eq_foldl, base_of_first_hydrate early, run.keeper_eq,
    Keeper.lines_eq_foldl, base_of_unhydrated early]
  have silent : changes (events.filterMap Event.request? ++ [(found, .hydrate)]) =
      changes (events.filterMap Event.request?) := by
    simp [changes, Request.change?]
  rw [silent]
  constructor
  · intro unchanged
    have none := (changes_eq_nil_iff events).mpr unchanged
    rw [if_pos none, none]
    rfl
  · intro changed
    rw [if_neg (mt (changes_eq_nil_iff events).mp (not_not_intro changed))]

theorem Consistent.underway_nil (consistent : Consistent service)
    (unhanded : service.handed = []) : service.underway = [] := by
  rcases Nat.eq_or_lt_of_le consistent.written with settled | writing
  · exact consistent.idle settled
  · obtain ⟨text, newest, -⟩ := consistent.busy writing
    simp [unhanded] at newest

theorem Run.stored_of_unhanded (run : Run initial events service)
    (unhanded : service.handed = []) : service.stored = initial := by
  induction run with
  | start => rfl
  | next before step earlier =>
    cases step with
    | take taken => simp [Service.handOver] at unhanded
    | finish begun kept =>
      -- There is no write that could end.
      rw [before.consistent.underway_nil unhanded] at begun
      cases begun
    | _ => exact earlier unhanded

theorem Run.emptied (run : Run initial events service)
    (early : Unhydrated (events.filterMap Event.request?)) (idling : Idling events)
    (changed : Changes events) (settled : service.desk.writer.isSettled = true) :
    ∃ result, service.ended.getLast? = some ("[]", result) ∧
      (result = .ok () → service.stored = .ok (some "[]")) := by
  have consistent := run.consistent
  have least := consistent.taken
  have behind := consistent.written
  simp only [Writer.isSettled, decide_eq_true_eq] at settled
  rw [← consistent.count] at least
  obtain ⟨-, -, result, ended, stored⟩ := consistent.durable (by omega) (by omega)
    (run.submitted_ne_nil.mpr changed)
  have empty : Snapshot.encode [] = "[]" := by decide
  rw [(run.idle_lines early idling).1, empty] at ended stored
  exact ⟨result, ended, fun succeeded => (stored succeeded).1⟩

/-- Requests that find nothing to change do no harm as long as there are none: the first of them
keeps the stored cart from being restored, and has the store overwritten with an empty one. -/
theorem restored_iff_unchanged (run : Run (.ok (some raw)) events service)
    (early : Unhydrated (events.filterMap Event.request?)) (idling : Idling events) :
    ((service.receive service.stored .hydrate).desk.keeper.lines = Snapshot.decode raw ↔
        ¬Changes events ∨ Snapshot.decode raw = []) ∧
      (¬Changes events → service.handed = [] ∧ service.stored = .ok (some raw)) ∧
      (Changes events → service.desk.writer.isSettled = true →
        ∃ result, service.ended.getLast? = some ("[]", result) ∧
          (result = .ok () → service.stored = .ok (some "[]"))) := by
  obtain ⟨restores, keeps⟩ := run.lines_of_hydrate early service.stored
  have kept (unchanged : ¬Changes events) : service.stored = .ok (some raw) :=
    run.stored_of_unhanded (run.handed_nil unchanged)
  refine ⟨?_, fun unchanged => ⟨run.handed_nil unchanged, kept unchanged⟩,
    run.emptied early idling⟩
  by_cases changed : Changes events
  · rw [keeps changed, (run.idle_lines early idling).1, eq_comm (a := [])]
    exact ⟨.inr, fun lost => lost.resolve_left (not_not_intro changed)⟩
  · rw [restores changed, kept changed]
    exact iff_of_true rfl (.inl changed)

-- The button of a product that is not in the cart is pressed before the cart is restored.
def pressed : List Event :=
  [.receive (.ok (some leftover)) (.change (.increase "9")), .take,
    .finish "[]" (.ok ()) (.ok (some "[]"))]

theorem pressed_run : ∃ service, Run (.ok (some leftover)) pressed service ∧
    service.stored = .ok (some "[]") := by
  have opened : Run (.ok (some leftover)) [] _ := .start
  have taken := (opened.next
    (.receive _ (.ok (some leftover)) (.change (.increase "9")) rfl rfl)).next (.take _ rfl)
  exact ⟨_, taken.next (.finish _ (List.mem_singleton_self _) (fun _ => rfl) :
    Step _ (.finish _ (.ok ()) _) _), rfl⟩

theorem pressed_unhydrated : Unhydrated (pressed.filterMap Event.request?) := by
  simp [Unhydrated, pressed, Event.request?]

theorem pressed_changes : Changes pressed := ⟨_, _, List.mem_cons_self⟩

theorem idling_pressed : Idling pressed := by
  have opened : Idling [] := by
    intro before found change after split
    simp at split
  have first : Idling ([] ++ [.receive (.ok (some leftover)) (.change (.increase "9"))]) := by
    refine idling_append.mpr ⟨opened, ?_⟩
    rintro found change ⟨⟩
    simp [Idle, Keeper.handleAll]
  have second : Idling ([.receive (.ok (some leftover)) (.change (.increase "9"))] ++ [.take]) := by
    refine idling_append.mpr ⟨first, ?_⟩
    rintro found change ⟨⟩
  refine idling_append.mpr ⟨second, ?_⟩
  rintro found change ⟨⟩

theorem restored_iff_unchanged_pressed :
    ∃ service, Run (.ok (some leftover)) pressed service ∧
      (service.receive service.stored .hydrate).desk.keeper.lines ≠ Snapshot.decode leftover ∧
      service.stored = .ok (some "[]") := by
  obtain ⟨service, run, overwritten⟩ := pressed_run
  refine ⟨service, run, fun same => ?_, overwritten⟩
  rcases (restored_iff_unchanged run pressed_unhydrated idling_pressed).1.mp same with
    unchanged | empty
  · exact unchanged pressed_changes
  · rw [decode_leftover] at empty
    cases empty

theorem leftover_lost :
    ¬∀ {raw : String} {events : List Event} {service : Service},
      Run (.ok (some raw)) events service →
        Unhydrated (events.filterMap Event.request?) → Idling events →
        (service.receive service.stored .hydrate).desk.keeper.lines = Snapshot.decode raw ∧
          service.stored = .ok (some raw) := by
  intro restores
  obtain ⟨service, run, -⟩ := pressed_run
  have same := (restores run pressed_unhydrated idling_pressed).1
  rw [(run.lines_of_hydrate pressed_unhydrated service.stored).2 pressed_changes,
    (run.idle_lines pressed_unhydrated idling_pressed).1, decode_leftover] at same
  cases same

end Service

end Canteen.Cart
