import Canteen.Cart.Keeper

set_option autoImplicit false

namespace Canteen.Cart

/-- A cart has one line for each product in it, and no line without units. -/
structure Proper (lines : List Line) : Prop where
  distinct : (lines.map (·.id)).Nodup
  positive : ∀ line ∈ lines, 0 < line.qty

theorem proper_nil : Proper [] := ⟨List.nodup_nil, by simp⟩

theorem map_id_of_same {lines : List Line} (f : Line → Line)
    (same : ∀ line, (f line).id = line.id) :
    (lines.map f).map (·.id) = lines.map (·.id) := by
  rw [List.map_map]
  exact List.map_congr_left fun line _ => same line

theorem proper_dropEmpty {lines : List Line} (distinct : (lines.map (·.id)).Nodup) :
    Proper (dropEmpty lines) := by
  constructor
  · exact (List.filter_sublist.map _).nodup distinct
  · intro line member
    exact (mem_dropEmpty.mp member).2

theorem Proper.map {lines : List Line} (proper : Proper lines) (f : Line → Line)
    (same : ∀ line, (f line).id = line.id) (grows : ∀ line, 0 < line.qty → 0 < (f line).qty) :
    Proper (lines.map f) := by
  constructor
  · rw [map_id_of_same f same]
    exact proper.distinct
  · intro line member
    obtain ⟨old, present, rfl⟩ := List.mem_map.mp member
    exact grows old (proper.positive old present)

theorem Proper.append {lines : List Line} (proper : Proper lines) (line : Line)
    (absent : ∀ old ∈ lines, old.id ≠ line.id) (positive : 0 < line.qty) :
    Proper (lines ++ [line]) := by
  constructor
  · rw [List.map_append, List.nodup_append]
    refine ⟨proper.distinct, by simp, ?_⟩
    intro id present other last
    obtain ⟨old, member, rfl⟩ := List.mem_map.mp present
    obtain rfl : other = line.id := by simpa using last
    exact absent old member
  · intro other member
    rcases List.mem_append.mp member with present | last
    · exact proper.positive other present
    · obtain rfl : other = line := by simpa using last
      exact positive

theorem capped32_pos {n : Nat} (positive : 0 < n) : 0 < capped32 n := by
  rw [UInt32.lt_iff_toNat_lt, toNat_capped32, UInt32.toNat_zero, UInt32.size]
  omega

theorem Proper.increase {lines : List Line} (proper : Proper lines) (id : String) :
    Proper (increase lines id) := by
  apply proper.map
  · intro line
    split <;> rfl
  · intro line positive
    split
    · exact capped32_pos (Nat.succ_pos _)
    · exact positive

theorem Proper.add {lines : List Line} (proper : Proper lines) (product : Product) :
    Proper (add lines product) := by
  unfold Cart.add
  split
  · exact proper.increase product.id
  · rename_i missing
    apply proper.append
    · intro old member same
      exact missing (List.any_eq_true.mpr ⟨old, member, decide_eq_true same⟩)
    · change (0 : UInt32) < 1
      decide

-- Both ways of taking units out keep the ids and then drop what became empty.
theorem Proper.decrease {lines : List Line} (proper : Proper lines) (id : String) :
    Proper (decrease lines id) := by
  apply proper_dropEmpty
  rw [map_id_of_same]
  · exact proper.distinct
  · intro line
    split <;> rfl

theorem Proper.removeOrdered {lines : List Line} (proper : Proper lines) (order : Order.Request) :
    Proper (removeOrdered lines order) := by
  apply proper_dropEmpty
  rw [map_id_of_same]
  · exact proper.distinct
  · intro line
    rfl

theorem Proper.apply {lines : List Line} (proper : Proper lines) (change : Change) :
    Proper (change.apply lines) := by
  cases change with
  | add product => exact proper.add product
  | increase id => exact proper.increase id
  | decrease id => exact proper.decrease id
  | clear => exact proper_nil
  | removeOrdered order => exact proper.removeOrdered order

namespace Snapshot

theorem proper_merge {lines : List Line} (proper : Proper lines) (line : Line) :
    Proper (merge lines line) := by
  unfold merge
  split
  · exact proper
  · rename_i filled
    have positive : 0 < line.qty := by
      rw [UInt32.lt_iff_toNat_lt]
      exact Nat.pos_of_ne_zero fun zero => filled (UInt32.toNat_inj.mp zero)
    split
    · apply proper.map
      · intro old
        split <;> rfl
      · intro old present
        split
        · apply capped32_pos
          rw [UInt32.lt_iff_toNat_lt] at present
          exact Nat.lt_of_lt_of_le present (Nat.le_add_right _ _)
        · exact present
    · rename_i missing
      apply proper.append line _ positive
      intro old member same
      exact missing (List.any_eq_true.mpr ⟨old, member, decide_eq_true same⟩)

theorem proper_foldl_merge (entries : List Line) {lines : List Line} (proper : Proper lines) :
    Proper (entries.foldl merge lines) := by
  induction entries generalizing lines with
  | nil => exact proper
  | cons entry rest ih => exact ih (proper_merge proper entry)

theorem proper_decode (raw : String) : Proper (decode raw) := by
  unfold decode
  split
  · rename_i entries _
    unfold ofEntries?
    cases entries.mapM line? with
    | none => exact proper_nil
    | some lines => exact proper_foldl_merge lines proper_nil
  · exact proper_nil

end Snapshot

theorem proper_restored (stored : Lookup) : Proper (restored stored) := by
  match stored with
  | .ok (some raw) => exact Snapshot.proper_decode raw
  | .ok none => exact proper_nil
  | .error _ => exact proper_nil

namespace Keeper

def handleAll (keeper : Keeper) (requests : List (Lookup × Request)) : Keeper :=
  requests.foldl (fun keeper (stored, request) => (keeper.handle stored request).1) keeper

theorem handleAll_append (keeper : Keeper) (first second : List (Lookup × Request)) :
    keeper.handleAll (first ++ second) = (keeper.handleAll first).handleAll second :=
  List.foldl_append

theorem handle_proper {keeper : Keeper} (proper : Proper keeper.lines) (stored : Lookup)
    (request : Request) : Proper (keeper.handle stored request).1.lines := by
  cases request with
  | change change => exact proper.apply change
  | view => exact proper
  | hydrate =>
    change Proper (keeper.hydrate stored).lines
    unfold hydrate
    split
    · exact proper_restored stored
    · exact proper
  | flush => exact proper

theorem handleAll_proper {keeper : Keeper} (proper : Proper keeper.lines)
    (requests : List (Lookup × Request)) : Proper (keeper.handleAll requests).lines := by
  induction requests generalizing keeper with
  | nil => exact proper
  | cons first rest ih => exact ih (handle_proper proper first.1 first.2)

/-- Whatever the store answers and whatever is asked. An order is summed here exactly, as the
program does while the units it asks of one id stay below `2 ^ 32`; beyond that its own sum
overflows. -/
theorem reached_proper (requests : List (Lookup × Request)) :
    Proper (({} : Keeper).handleAll requests).lines :=
  handleAll_proper proper_nil requests

end Keeper

end Canteen.Cart
