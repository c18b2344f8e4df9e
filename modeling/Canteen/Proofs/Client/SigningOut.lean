import Canteen.Client.Shop
import Canteen.Proofs.Cart.Restoring
import Canteen.Proofs.Client.Placement
import Canteen.Proofs.Flow.Stored

set_option autoImplicit false

namespace Canteen.Client

open Cart (Keeper Line Change changes)
open Canteen.Flow (Event Happening Runs Kept events heldAfter asked performed requests)

def verdict : Except CartError (List Line) → Except StoreError Unit → Except StoreError Unit →
    Except Failure Unit
  | _, .error reason, _ => .error (.session (.store reason))
  | _, .ok (), .error reason => .error (.session (.store reason))
  | .error error, .ok (), .ok () => .error (.cart error)
  | .ok _, .ok (), .ok () => .ok ()

theorem signOut_eq :
    signOut = .perform (.ask (.change .clear)) fun cleared =>
      .perform (.erase tokenKey) fun token => .perform (.erase userKey) fun user =>
        .done (verdict cleared token user) := by
  change Flow.perform (.ask (.change .clear)) _ = _
  congr
  funext cleared
  change Flow.perform (.erase tokenKey) _ = _
  congr
  funext token
  change Flow.perform (.erase userKey) _ = _
  congr
  funext user
  cases token <;> cases user <;> cases cleared <;> rfl

def farewell : List Effect := [.ask (.change .clear), .erase tokenKey, .erase userKey]

variable {keeper final : Keeper} {later : Flow (Except Failure Unit)}

theorem signOut_performs {events : List Event} (run : Runs signOut keeper events later final) :
    (performed events).map (·.1) <+: farewell ∧
      ((∃ result, later = .done result) ↔ (performed events).map (·.1) = farewell) ∧
      ∀ result, later = .done result → ∃ cleared token user,
        performed events = [⟨.ask (.change .clear), cleared⟩, ⟨.erase tokenKey, token⟩,
          ⟨.erase userKey, user⟩] ∧ result = verdict cleared token user := by
  rw [signOut_eq] at run
  obtain ⟨none, rfl⟩ | ⟨cleared, keeper, rest, first, run⟩ := Flow.performed_perform run
  · rw [none]
    simp [farewell]
  rw [first]
  obtain ⟨none, rfl⟩ | ⟨token, keeper, rest, second, run⟩ := Flow.performed_perform run
  · rw [none]
    simp [farewell]
  rw [second]
  obtain ⟨none, rfl⟩ | ⟨user, keeper, rest, third, run⟩ := Flow.performed_perform run
  · rw [none]
    simp [farewell]
  obtain ⟨rfl, -, served⟩ := Flow.runs_done run
  rw [third, served, Flow.performed_others]
  simp [farewell]

theorem performs_farewell {events : List Event} {effect : Effect} {reply : effect.Reply}
    (course : (performed events).map (·.1) <+: farewell) (member : .own effect reply ∈ events) :
    effect ∈ farewell :=
  course.subset (List.mem_map_of_mem (Flow.mem_performed.mpr member))

-- The cart is not asked again once it has been asked to be empty.
theorem unasked_since {before since : List Event} {cleared : Except CartError (List Line)}
    (course : (performed (before ++ .own (.ask (.change .clear)) cleared :: since)).map (·.1) <+:
      farewell) : asked since = [] := by
  have once := (course.filterMap Effect.request?).length_le
  rw [← Flow.asked_eq_performed] at once
  simp only [Flow.asked_append, Flow.asked_cons, List.length_append] at once
  have all : (farewell.filterMap Effect.request?).length = 1 := rfl
  have clear : (Event.own (.ask (.change .clear)) cleared).asked?.toList.length = 1 := rfl
  exact List.length_eq_zero_iff.mp (by omega)

theorem foldl_apply_nil {changes : List Change} (silent : ∀ product, .add product ∉ changes) :
    changes.foldl Change.apply [] = [] := by
  induction changes with
  | nil => rfl
  | cons change rest ih =>
    have none : change.apply [] = [] := by
      cases change with
      | add product => exact absurd List.mem_cons_self (silent product)
      | _ => rfl
    rw [List.foldl_cons, none]
    exact ih fun product member => silent product (List.mem_cons_of_mem _ member)

variable {happenings : List Happening}

/-- Whatever fails, both keys are tried, and the cart is emptied for good: nothing of what was in
it, or is stored, comes back. -/
theorem signOut_forgets (run : Runs signOut keeper (events happenings) later final) :
    ((performed (events happenings)).map (·.1) <+: farewell ∧
      ((∃ result, later = .done result) ↔
        (performed (events happenings)).map (·.1) = farewell)) ∧
    (∀ result, later = .done result → ∃ cleared token user,
      performed (events happenings) = [⟨.ask (.change .clear), cleared⟩,
        ⟨.erase tokenKey, token⟩, ⟨.erase userKey, user⟩] ∧
      (∀ lines, cleared = .ok lines → (result = .ok () ↔ token = .ok () ∧ user = .ok ())) ∧
      (∀ reason, token = .error reason → result = .error (.session (.store reason))) ∧
      (∀ reason, token = .ok () → user = .error reason →
        result = .error (.session (.store reason)))) ∧
    (∀ before key since, happenings = before ++ .here (.own (.erase key) (.ok ())) :: since →
      (∀ value, .elsewhere key (some value) ∉ since) →
        (∀ held, heldAfter held happenings key = none) ∧
        ∀ store after, store.Sound → Kept store happenings after → after.content key = none) ∧
    (∀ before lines since,
      happenings = before ++ .here (.own (.ask (.change .clear)) (.ok lines)) :: since →
        lines = [] ∧ ∀ more,
          (final.handleAll more).lines =
            (changes (requests (events since) ++ more)).foldl Change.apply [] ∧
          ((∀ product, .add product ∉ changes (requests (events since) ++ more)) →
            (final.handleAll more).lines = [])) := by
  obtain ⟨course, whole, ended⟩ := signOut_performs run
  refine ⟨⟨course, whole⟩, ?_, ?_, ?_⟩
  · intro result stopped
    obtain ⟨cleared, token, user, all, rfl⟩ := ended result stopped
    refine ⟨cleared, token, user, all, ?_, ?_, ?_⟩
    · rintro lines rfl
      cases token <;> cases user <;> simp [verdict]
    · rintro reason rfl
      rfl
    · rintro reason rfl rfl
      rfl
  · intro before key since split unstored
    have gone (held : String → Option String) : heldAfter held happenings key = none := by
      rw [split, Flow.heldAfter_append]
      change heldAfter (Function.update _ key none) since key = none
      refine Flow.heldAfter_of_sets (P := (· = none)) (Function.update_self ..) ?_
      intro happening member value sets
      cases value with
      | none => rfl
      | some text =>
        obtain rfl | rfl := sets.some_cases
        · exact absurd member (unstored text)
        · have here : .here (.own (.write key text) (.ok ())) ∈ happenings := by
            simp [split, member]
          have wrote := performs_farewell course (Flow.mem_events.mpr here)
          simp [farewell] at wrote
    refine ⟨gone, fun store after sound kept => ?_⟩
    rw [kept.content sound]
    exact gone store.content
  · intro before lines since split
    rw [split, Flow.events_append, Flow.events_here] at run course
    obtain ⟨next, middle, after, -, ⟨stored, handled⟩, rest⟩ := run.split
    obtain ⟨rfl, rfl⟩ := Prod.mk.inj handled
    refine ⟨rfl, fun more => ?_⟩
    have emptied : (final.handleAll more).lines =
        (changes (requests (events since) ++ more)).foldl Change.apply [] := by
      rw [rest.unasked (unasked_since course), ← Keeper.handleAll_append]
      exact Keeper.lines_of_settled (by simp [Keeper.change, Keeper.asksStore]) _
    refine ⟨emptied, fun silent => ?_⟩
    rw [emptied, foldl_apply_nil silent]

def departure : List Happening :=
  [.here (.own (.ask (.change .clear)) (.ok [])),
    .here (.other (.ok (some Cart.Service.leftover)) .hydrate),
    .here (.own (.erase tokenKey) (.error (.refused "busy"))),
    .here (.other (.ok none) (.change (.removeOrdered { items := [⟨"1", 1⟩, ⟨"5", 2⟩] }))),
    .here (.own (.erase userKey) (.ok ()))]

theorem departure_runs :
    ∃ final, Runs signOut (({} : Keeper).handleAll [(.ok none, .change (.add burger))])
      (events departure) (.done (.error (.session (.store (.refused "busy"))))) final := by
  rw [signOut_eq]
  exact ⟨_, .own _ ⟨.ok none, rfl⟩ (.other _ _ (.own _ rfl (.other _ _ (.own _ rfl (.stay _ _)))))⟩

theorem signOut_forgets_departure :
    ∃ final, Runs signOut (({} : Keeper).handleAll [(.ok none, .change (.add burger))])
        (events departure) (.done (.error (.session (.store (.refused "busy"))))) final ∧
      heldAfter (fun _ => some "old") departure userKey = none ∧
      (final.handleAll [(.ok (some Cart.Service.leftover), .hydrate),
        (.ok none, .change (.increase "1"))]).lines = [] := by
  obtain ⟨final, run⟩ := departure_runs
  obtain ⟨-, -, erased, emptied⟩ := signOut_forgets run
  refine ⟨final, run, (erased (departure.take 4) userKey [] rfl (by simp)).1 _, ?_⟩
  refine ((emptied [] [] (departure.drop 1) rfl).2 _).2 fun product added => ?_
  revert added
  simp [departure, changes, requests, events, Happening.event?, Event.request?,
    Cart.Request.change?]

end Canteen.Client
