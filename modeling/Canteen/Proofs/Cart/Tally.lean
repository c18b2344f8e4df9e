import Mathlib.Data.List.Sort
import Canteen.Proofs.Cart.Holding

set_option autoImplicit false

namespace Canteen.Cart

variable {lines : List Line} {id : String}

-- What a change makes of the number of units of one product.
def Change.count (id : String) (n : Nat) : Change → Nat
  | .add product => if product.id = id then min (n + 1) (UInt32.size - 1) else n
  | .increase other => if other = id ∧ 0 < n then min (n + 1) (UInt32.size - 1) else n
  | .decrease other => if other = id then n - 1 else n
  | .clear => 0
  | .removeOrdered order => n - order.units id

theorem held_increase (positive : ∀ line ∈ lines, 0 < line.qty) (id other : String) :
    held (increase lines other) id = (Change.increase other).count id (held lines id) := by
  induction lines with
  | nil => simp [increase, held_nil, Change.count]
  | cons line rest ih =>
    have filled : 0 < line.qty.toNat :=
      UInt32.lt_iff_toNat_lt.mp (positive line List.mem_cons_self)
    have others := ih fun line member => positive line (List.mem_cons_of_mem _ member)
    change held (_ :: increase rest other) id = _
    rw [held_cons, held_cons, others]
    by_cases raised : line.id = other
    · subst raised
      by_cases same : line.id = id <;>
        simp [same, filled, Change.count, Line.raise, toNat_capped32]
    · by_cases same : line.id = id
      · subst same
        simp [raised, Change.count, Ne.symm raised]
      · simp [raised, same]

theorem held_append_new (line : Line) (absent : line.id ∉ lines.map (·.id)) :
    held (lines ++ [line]) id = if line.id = id then line.qty.toNat else held lines id := by
  induction lines with
  | nil => simp [held_cons]
  | cons first rest ih =>
    simp only [List.map_cons, List.mem_cons, not_or] at absent
    rw [List.cons_append, held_cons, held_cons, ih absent.2]
    by_cases same : line.id = id
    · simp [same, Ne.symm (same ▸ absent.1)]
    · simp [same]

theorem any_id_iff (lines : List Line) (id : String) :
    lines.any (·.id = id) = true ↔ id ∈ lines.map (·.id) := by
  simp

theorem held_apply (proper : Proper lines) (change : Change) (id : String) :
    held (change.apply lines) id = change.count id (held lines id) := by
  cases change with
  | add product =>
    change held (add lines product) id = _
    by_cases present : product.id ∈ lines.map (·.id)
    · have filled := (held_pos_iff proper.positive _).mpr present
      rw [add, if_pos ((any_id_iff _ _).mpr present), held_increase proper.positive]
      by_cases same : product.id = id
      · subst same
        simp [Change.count, filled]
      · simp [Change.count, same]
    · rw [add, if_neg (mt (any_id_iff _ _).mp present), held_append_new _ present]
      by_cases same : product.id = id
      · subst same
        simp [Change.count, held_of_absent present]
      · simp [Change.count, same]
  | increase other => exact held_increase proper.positive id other
  | decrease other =>
    change held (decrease lines other) id = _
    rw [decrease_eq_deduct, held_deduct proper.distinct]
    by_cases same : other = id
    · subst same
      simp [Change.count]
    · simp [Change.count, same, Ne.symm same]
  | clear => rfl
  | removeOrdered order =>
    change held (removeOrdered lines order) id = _
    rw [removeOrdered_eq_deduct, held_deduct proper.distinct]
    rfl

-- Whatever is asked, lines lose or gain units where they stand, or one new line comes last.
theorem apply_cases (lines : List Line) (change : Change) :
    (∃ f : Line → Option Line, change.apply lines = lines.filterMap f ∧
      ∀ line left, f line = some left → left.toProduct = line.toProduct) ∨
    ∃ product, change = .add product ∧ product.id ∉ lines.map (·.id) ∧
      change.apply lines = lines ++ [{ product with qty := 1 }] := by
  have raised (other : String) : ∃ f : Line → Option Line,
      increase lines other = lines.filterMap f ∧
        ∀ line left, f line = some left → left.toProduct = line.toProduct := by
    refine ⟨fun line => some (if line.id = other then line.raise else line), ?_, ?_⟩
    · simp [increase]
    · rintro line left ⟨⟩
      split <;> rfl
  have deducted (units : String → Nat) : ∃ f : Line → Option Line,
      deduct units lines = lines.filterMap f ∧
        ∀ line left, f line = some left → left.toProduct = line.toProduct := by
    refine ⟨_, rfl, fun line left became => ?_⟩
    obtain ⟨-, same⟩ := Option.ite_none_left_eq_some.mp became
    rw [← Option.some.inj same]
  cases change with
  | add product =>
    by_cases present : product.id ∈ lines.map (·.id)
    · left
      change ∃ f, add lines product = _ ∧ _
      rw [add, if_pos ((any_id_iff _ _).mpr present)]
      exact raised product.id
    · refine .inr ⟨product, rfl, present, ?_⟩
      change add lines product = _
      rw [add, if_neg (mt (any_id_iff _ _).mp present)]
  | increase other => exact .inl (raised other)
  | decrease other =>
    left
    change ∃ f, decrease lines other = _ ∧ _
    rw [decrease_eq_deduct]
    exact deducted _
  | clear => exact .inl ⟨fun _ => none, by simp [Change.apply], by simp⟩
  | removeOrdered order =>
    left
    change ∃ f, removeOrdered lines order = _ ∧ _
    rw [removeOrdered_eq_deduct]
    exact deducted _

/-- One product by itself: its units, the turn in which they last came up from none, and what was
put in on that turn. -/
structure Counter where
  count : Nat := 0
  since : Nat := 0
  product : Option Product := none
deriving DecidableEq, Repr

def Counter.step (turn : Nat) (id : String) (counter : Counter) (change : Change) : Counter :=
  let count := change.count id counter.count
  match change with
  | .add product =>
      if counter.count = 0 ∧ product.id = id then { count, since := turn, product := some product }
      else { counter with count }
  | _ => { counter with count }

theorem Counter.step_count (counter : Counter) (turn : Nat) (id : String) (change : Change) :
    (counter.step turn id change).count = change.count id counter.count := by
  cases change with
  | add product =>
    simp only [step]
    split <;> rfl
  | _ => rfl

theorem Counter.step_of_pos {counter : Counter} (positive : 0 < counter.count) (turn : Nat)
    (id : String) (change : Change) :
    (counter.step turn id change).since = counter.since ∧
      (counter.step turn id change).product = counter.product := by
  cases change with
  | add product => simp [step, Nat.pos_iff_ne_zero.mp positive]
  | _ => exact ⟨rfl, rfl⟩

theorem Counter.step_of_new {counter : Counter} (empty : counter.count = 0) (turn : Nat)
    (product : Product) :
    (counter.step turn product.id (.add product)).since = turn ∧
      (counter.step turn product.id (.add product)).product = some product := by
  simp [step, empty]

structure Tally where
  turn : Nat
  counters : String → Counter

namespace Tally

def step (tally : Tally) (change : Change) : Tally :=
  { turn := tally.turn + 1
    counters := fun id => (tally.counters id).step tally.turn id change }

/-- The lines are the products with units, in the order of their turns, as they were put in. -/
structure Shows (tally : Tally) (lines : List Line) : Prop where
  ids : ∀ id, id ∈ lines.map (·.id) ↔ 0 < (tally.counters id).count
  entries : ∀ line ∈ lines, line.qty.toNat = (tally.counters line.id).count ∧
    some line.toProduct = (tally.counters line.id).product
  order : lines.Pairwise fun first second =>
    (tally.counters first.id).since < (tally.counters second.id).since

theorem Shows.subset {tally : Tally} {lines others : List Line} (shown : tally.Shows lines)
    (other : tally.Shows others) : lines ⊆ others := by
  intro line member
  have present : line.id ∈ others.map (·.id) := by
    rw [other.ids, ← shown.ids]
    exact List.mem_map_of_mem member
  obtain ⟨twin, found, same⟩ := List.mem_map.mp present
  have quantity := (other.entries twin found).1
  have product := (other.entries twin found).2
  rw [same, ← (shown.entries line member).1] at quantity
  rw [same, ← (shown.entries line member).2] at product
  obtain rfl : twin = line := by
    cases twin
    cases line
    simpa using ⟨Option.some.inj product, UInt32.toNat_inj.mp quantity⟩
  exact found

theorem Shows.unique {tally : Tally} {lines others : List Line} (shown : tally.Shows lines)
    (other : tally.Shows others) : lines = others := by
  let earlier := fun first second : Line =>
    (tally.counters first.id).since < (tally.counters second.id).since
  have irreflexive : Std.Irrefl earlier := ⟨fun line => Nat.lt_irrefl _⟩
  have antisymmetric : Std.Antisymm earlier :=
    ⟨fun first second less more => absurd less (Nat.lt_asymm more)⟩
  exact List.Subset.antisymm_of_pairwise shown.order other.order (shown.subset other)
    (other.subset shown)

-- The invariant of a tally kept beside a cart.
structure Agrees (tally : Tally) (lines : List Line) : Prop where
  counts : ∀ id, held lines id = (tally.counters id).count
  products : ∀ line ∈ lines, some line.toProduct = (tally.counters line.id).product
  order : lines.Pairwise fun first second =>
    (tally.counters first.id).since < (tally.counters second.id).since
  fresh : ∀ line ∈ lines, (tally.counters line.id).since < tally.turn

theorem find?_of_mem (distinct : (lines.map (·.id)).Nodup) {line : Line} (member : line ∈ lines) :
    lines.find? (·.id = line.id) = some line := by
  induction lines with
  | nil => cases member
  | cons first rest ih =>
    rw [List.map_cons, List.nodup_cons] at distinct
    rcases List.mem_cons.mp member with rfl | later
    · simp
    · have other : first.id ≠ line.id := by
        intro same
        exact distinct.1 (same ▸ List.mem_map_of_mem later)
      simp [other, ih distinct.2 later]

theorem Agrees.shows {tally : Tally} (agrees : tally.Agrees lines) (proper : Proper lines) :
    tally.Shows lines := by
  refine ⟨fun id => ?_, fun line member => ⟨?_, agrees.products line member⟩, agrees.order⟩
  · rw [← agrees.counts, held_pos_iff proper.positive]
  · rw [← agrees.counts, held, find?_of_mem proper.distinct member]
    rfl

-- What is known of a product in the cart does not change as long as it stays in.
def Keeps (tally later : Tally) (lines : List Line) : Prop :=
  ∀ line ∈ lines, (later.counters line.id).since = (tally.counters line.id).since ∧
    (later.counters line.id).product = (tally.counters line.id).product

theorem Agrees.filterMap {tally later : Tally} (agrees : tally.Agrees lines)
    (keeps : tally.Keeps later lines) (turn : tally.turn ≤ later.turn) {f : Line → Option Line}
    (same : ∀ line left, f line = some left → left.toProduct = line.toProduct)
    (counts : ∀ id, held (lines.filterMap f) id = (later.counters id).count) :
    later.Agrees (lines.filterMap f) := by
  refine ⟨counts, fun left member => ?_, ?_, fun left member => ?_⟩
  · obtain ⟨line, present, became⟩ := List.mem_filterMap.mp member
    rw [same line left became, (keeps line present).2]
    exact agrees.products line present
  · have order := agrees.order.imp_of_mem (S := fun first second =>
      (later.counters first.id).since < (later.counters second.id).since)
      fun first second less => by rwa [(keeps _ first).1, (keeps _ second).1]
    refine order.filterMap f fun first second less left became right turned => ?_
    rwa [same first left became, same second right turned]
  · obtain ⟨line, present, became⟩ := List.mem_filterMap.mp member
    rw [same line left became, (keeps line present).1]
    exact (agrees.fresh line present).trans_le turn

theorem Agrees.append {tally later : Tally} (agrees : tally.Agrees lines)
    (keeps : tally.Keeps later lines) (turn : tally.turn < later.turn) {line : Line}
    (since : (later.counters line.id).since = tally.turn)
    (product : (later.counters line.id).product = some line.toProduct)
    (counts : ∀ id, held (lines ++ [line]) id = (later.counters id).count) :
    later.Agrees (lines ++ [line]) := by
  refine ⟨counts, fun other member => ?_, ?_, fun other member => ?_⟩
  · rcases List.mem_append.mp member with old | new
    · rw [(keeps other old).2]
      exact agrees.products other old
    · obtain rfl := List.mem_singleton.mp new
      exact product.symm
  · rw [List.pairwise_append]
    refine ⟨?_, List.pairwise_singleton _ _, fun old member new last => ?_⟩
    · exact agrees.order.imp_of_mem fun first second less => by
        rwa [(keeps _ first).1, (keeps _ second).1]
    · obtain rfl := List.mem_singleton.mp last
      rw [since, (keeps old member).1]
      exact agrees.fresh old member
  · rcases List.mem_append.mp member with old | new
    · rw [(keeps other old).1]
      exact (agrees.fresh other old).trans turn
    · obtain rfl := List.mem_singleton.mp new
      rwa [since]

theorem Agrees.step {tally : Tally} (agrees : tally.Agrees lines) (proper : Proper lines)
    (change : Change) : (tally.step change).Agrees (change.apply lines) := by
  have keeps : tally.Keeps (tally.step change) lines := by
    intro line member
    apply Counter.step_of_pos
    rw [← agrees.counts, held_pos_iff proper.positive]
    exact List.mem_map_of_mem member
  have counts (id : String) :
      held (change.apply lines) id = ((tally.step change).counters id).count := by
    rw [held_apply proper, agrees.counts]
    exact (Counter.step_count _ _ _ _).symm
  rcases apply_cases lines change with ⟨f, became, same⟩ | ⟨product, rfl, absent, became⟩
  · rw [became] at counts ⊢
    exact agrees.filterMap keeps (Nat.le_succ _) same counts
  · have empty : (tally.counters product.id).count = 0 := by
      rw [← agrees.counts, held_of_absent absent]
    obtain ⟨since, brought⟩ := Counter.step_of_new empty tally.turn product
    rw [became] at counts ⊢
    exact agrees.append keeps (Nat.lt_succ_self _) since brought counts

def tea : Product := { id := "5", name := "Tea", price := 15, available := true }
end Tally

end Canteen.Cart
