import Mathlib.Data.List.Nodup
import Canteen.Proofs.Cart.Proper

set_option autoImplicit false

namespace Canteen.Cart

/-- How many units of a product a cart holds. -/
def held (lines : List Line) (id : String) : Nat :=
  ((lines.find? (·.id = id)).map (·.qty.toNat)).getD 0

/-- Some units of each product taken out: what is used up goes, all else stays as and where it is. -/
def deduct (units : String → Nat) (lines : List Line) : List Line :=
  lines.filterMap fun line =>
    if line.qty.toNat ≤ units line.id then none
    else some { line with qty := UInt32.ofNat (line.qty.toNat - units line.id) }

theorem held_nil (id : String) : held [] id = 0 := rfl

theorem held_cons (line : Line) (rest : List Line) (id : String) :
    held (line :: rest) id = if line.id = id then line.qty.toNat else held rest id := by
  by_cases same : line.id = id <;> simp [held, same]

theorem held_of_absent {lines : List Line} {id : String} (absent : id ∉ lines.map (·.id)) :
    held lines id = 0 := by
  induction lines with
  | nil => rfl
  | cons line rest ih =>
    simp only [List.map_cons, List.mem_cons, not_or] at absent
    rw [held_cons, if_neg (Ne.symm absent.1), ih absent.2]

theorem held_pos_iff {lines : List Line} (positive : ∀ line ∈ lines, 0 < line.qty) (id : String) :
    0 < held lines id ↔ id ∈ lines.map (·.id) := by
  induction lines with
  | nil => simp [held_nil]
  | cons line rest ih =>
    have filled : 0 < line.qty.toNat :=
      UInt32.lt_iff_toNat_lt.mp (positive line List.mem_cons_self)
    rw [held_cons, List.map_cons, List.mem_cons,
      ← ih fun other member => positive other (List.mem_cons_of_mem _ member)]
    by_cases same : line.id = id
    · simp [same, filled]
    · simp [same, Ne.symm same]

theorem held_lt_size (lines : List Line) (id : String) : held lines id < UInt32.size := by
  induction lines with
  | nil =>
    rw [held_nil]
    decide
  | cons line rest ih =>
    rw [held_cons]
    split
    · exact line.qty.toNat_lt_size
    · exact ih

theorem units_cons (entry : Order.Entry) (rest : List Order.Entry) (id : String) :
    Order.Request.units ⟨entry :: rest⟩ id =
      (if entry.id = id then entry.qty.toNat else 0) + Order.Request.units ⟨rest⟩ id := by
  by_cases same : entry.id = id <;> simp [Order.Request.units, same]

theorem units_orderRequest {lines : List Line} (distinct : (lines.map (·.id)).Nodup)
    (id : String) : (orderRequest lines).units id = held lines id := by
  induction lines with
  | nil => rfl
  | cons line rest ih =>
    rw [List.map_cons, List.nodup_cons] at distinct
    have others : (orderRequest rest).units id = held rest id := ih distinct.2
    rw [held_cons]
    change Order.Request.units ⟨_ :: (orderRequest rest).items⟩ id = _
    rw [units_cons, others]
    split
    · rename_i same
      -- No other line has this id, so nothing is added up.
      rw [held_of_absent (same ▸ distinct.1), Nat.add_zero]
    · exact Nat.zero_add _

theorem Line.withdraw_id (line : Line) (units : Nat) : (line.withdraw units).id = line.id := rfl

theorem deduct_cons (units : String → Nat) (line : Line) (rest : List Line) :
    deduct units (line :: rest) =
      if line.qty.toNat ≤ units line.id then deduct units rest
      else line.withdraw (units line.id) :: deduct units rest := by
  by_cases used : line.qty.toNat ≤ units line.id <;>
    simp [deduct, Line.withdraw, used]

theorem dropEmpty_withdraw (lines : List Line) (units : String → Nat) :
    dropEmpty (lines.map fun line => line.withdraw (units line.id)) = deduct units lines := by
  induction lines with
  | nil => rfl
  | cons line rest ih =>
    have filled : 0 < (line.withdraw (units line.id)).qty ↔ ¬ line.qty.toNat ≤ units line.id := by
      rw [UInt32.lt_iff_toNat_lt, Line.qty_withdraw, UInt32.toNat_zero]
      omega
    rw [deduct_cons, ← ih]
    by_cases used : line.qty.toNat ≤ units line.id
    · rw [if_pos used]
      simp [dropEmpty, filled, used]
    · rw [if_neg used]
      simp [dropEmpty, filled, used]

theorem removeOrdered_eq_deduct (lines : List Line) (order : Order.Request) :
    removeOrdered lines order = deduct order.units lines :=
  dropEmpty_withdraw lines order.units

theorem decrease_eq_deduct (lines : List Line) (id : String) :
    decrease lines id = deduct (fun other => if other = id then 1 else 0) lines := by
  rw [← dropEmpty_withdraw, decrease]
  congr 2
  funext line
  by_cases same : line.id = id <;> simp [same, Line.withdraw_zero]

theorem mem_deduct_iff {lines : List Line} (proper : Proper lines) (units : String → Nat)
    {line : Line} (member : line ∈ lines) : line ∈ deduct units lines ↔ units line.id = 0 := by
  have filled : 0 < line.qty.toNat := UInt32.lt_iff_toNat_lt.mp (proper.positive line member)
  rw [deduct, List.mem_filterMap]
  constructor
  · rintro ⟨old, present, became⟩
    obtain ⟨left, same⟩ := Option.ite_none_left_eq_some.mp became
    have origin : old = line :=
      List.inj_on_of_nodup_map proper.distinct present member
        (congrArg (·.id) (Option.some.inj same))
    subst origin
    have count := congrArg (·.qty.toNat) (Option.some.inj same)
    change (old.withdraw (units old.id)).qty.toNat = _ at count
    rw [Line.qty_withdraw] at count
    omega
  · intro zero
    refine ⟨line, member, ?_⟩
    change (if line.qty.toNat ≤ units line.id then none
      else some (line.withdraw (units line.id))) = _
    rw [zero, if_neg (by omega), Line.withdraw_zero]

theorem held_deduct {lines : List Line} (distinct : (lines.map (·.id)).Nodup)
    (units : String → Nat) (id : String) :
    held (deduct units lines) id = held lines id - units id := by
  induction lines with
  | nil => simp [deduct, held_nil]
  | cons line rest ih =>
    rw [List.map_cons, List.nodup_cons] at distinct
    have others := ih distinct.2
    rw [deduct_cons, held_cons]
    by_cases same : line.id = id
    · subst same
      rw [held_of_absent distinct.1, Nat.zero_sub] at others
      split
      · rw [others, if_pos rfl]
        omega
      · rw [held_cons, Line.withdraw_id, if_pos rfl, if_pos rfl, Line.qty_withdraw]
    · rw [if_neg same]
      split
      · exact others
      · rw [held_cons, Line.withdraw_id, if_neg same]
        exact others

end Canteen.Cart
