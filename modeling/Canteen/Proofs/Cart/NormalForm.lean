import Mathlib.Data.List.Induction
import Canteen.Proofs.Cart.Tally

set_option autoImplicit false

namespace Canteen.Cart

variable {lines : List Line} {line : Line} {id : String}

def firsts : List Line → List Line
  | [] => []
  | line :: rest => line :: (firsts rest).filter (·.id ≠ line.id)

/-- Without empty lines, and for each id the first line alone, with the units of all its lines. -/
def normalForm (lines : List Line) : List Line :=
  (firsts (dropEmpty lines)).map fun line =>
    { line with qty := capped32 ((orderRequest lines).units line.id) }

theorem mem_ids_firsts (lines : List Line) (id : String) :
    id ∈ (firsts lines).map (·.id) ↔ id ∈ lines.map (·.id) := by
  induction lines with
  | nil => rfl
  | cons line rest ih =>
    simp only [firsts, List.map_cons, List.mem_cons, ← ih, List.mem_map, List.mem_filter,
      decide_eq_true_eq]
    by_cases same : id = line.id
    · simp [same]
    · refine or_congr_right ⟨?_, ?_⟩
      · rintro ⟨other, ⟨member, -⟩, rfl⟩
        exact ⟨other, member, rfl⟩
      · rintro ⟨other, member, rfl⟩
        exact ⟨other, ⟨member, same⟩, rfl⟩

theorem firsts_concat (lines : List Line) (line : Line) :
    firsts (lines ++ [line]) =
      if line.id ∈ lines.map (·.id) then firsts lines else firsts lines ++ [line] := by
  induction lines with
  | nil => rfl
  | cons first rest ih =>
    rw [List.cons_append, firsts, ih, List.map_cons]
    by_cases later : line.id ∈ rest.map (·.id)
    · rw [if_pos later, if_pos (List.mem_cons_of_mem _ later)]
      rfl
    · rw [if_neg later, List.filter_append]
      by_cases same : line.id = first.id
      · rw [if_pos (same ▸ List.mem_cons_self)]
        simp [same, firsts]
      · rw [if_neg (by simpa [same] using later)]
        simp [same, firsts]

theorem firsts_of_distinct (distinct : (lines.map (·.id)).Nodup) : firsts lines = lines := by
  induction lines with
  | nil => rfl
  | cons line rest ih =>
    rw [List.map_cons, List.nodup_cons] at distinct
    rw [firsts, ih distinct.2, List.filter_eq_self.mpr]
    intro other member
    have differ : other.id ≠ line.id := by
      intro same
      exact distinct.1 (same ▸ List.mem_map_of_mem member)
    simpa using differ

theorem mem_of_mem_firsts (member : line ∈ firsts lines) : line ∈ lines := by
  induction lines with
  | nil => exact member
  | cons first rest ih =>
    rcases List.mem_cons.mp member with rfl | later
    · exact List.mem_cons_self
    · exact List.mem_cons_of_mem _ (ih (List.mem_of_mem_filter later))

theorem dropEmpty_of_positive (positive : ∀ line ∈ lines, 0 < line.qty) :
    dropEmpty lines = lines := by
  simpa [dropEmpty] using positive

theorem dropEmpty_concat (lines : List Line) (line : Line) :
    dropEmpty (lines ++ [line]) =
      if line.qty = 0 then dropEmpty lines else dropEmpty lines ++ [line] := by
  by_cases empty : line.qty = 0
  · simp [dropEmpty, empty]
  · simp [dropEmpty, empty, UInt32.pos_iff_ne_zero]

theorem units_concat (lines : List Line) (line : Line) (id : String) :
    (orderRequest (lines ++ [line])).units id =
      (orderRequest lines).units id + if line.id = id then line.qty.toNat else 0 := by
  induction lines with
  | nil => exact (units_cons _ [] id).trans (Nat.add_comm _ _)
  | cons first rest ih =>
    change Order.Request.units ⟨_ :: (orderRequest (rest ++ [line])).items⟩ id =
      Order.Request.units ⟨_ :: (orderRequest rest).items⟩ id + _
    rw [units_cons, units_cons, ih, Nat.add_assoc]

theorem units_dropEmpty (lines : List Line) (id : String) :
    (orderRequest (dropEmpty lines)).units id = (orderRequest lines).units id := by
  induction lines using List.reverseRecOn with
  | nil => rfl
  | append_singleton lines line ih =>
    rw [dropEmpty_concat, units_concat]
    split
    · rename_i empty
      simp [ih, empty]
    · rw [units_concat, ih]

theorem units_of_unfilled (unfilled : id ∉ (dropEmpty lines).map (·.id)) :
    (orderRequest lines).units id = 0 := by
  rw [← units_dropEmpty]
  apply Order.Request.units_of_absent
  intro entry member same
  obtain ⟨line, filled, rfl⟩ := List.mem_map.mp member
  exact unfilled (same ▸ List.mem_map_of_mem filled)

theorem capped32_add (n m : Nat) : capped32 ((capped32 n).toNat + m) = capped32 (n + m) := by
  apply UInt32.toNat_inj.mp
  simp only [toNat_capped32]
  omega

theorem ids_normalForm (lines : List Line) (id : String) :
    id ∈ (normalForm lines).map (·.id) ↔ id ∈ (dropEmpty lines).map (·.id) := by
  rw [normalForm, List.map_map]
  exact mem_ids_firsts _ _

theorem merge_normalForm (lines : List Line) (line : Line) :
    Snapshot.merge (normalForm lines) line = normalForm (lines ++ [line]) := by
  unfold Snapshot.merge
  by_cases empty : line.qty = 0
  · rw [if_pos empty]
    simp only [normalForm, dropEmpty_concat, units_concat, empty, UInt32.toNat_zero, ite_self,
      Nat.add_zero, if_true]
  rw [if_neg empty]
  by_cases present : line.id ∈ (dropEmpty lines).map (·.id)
  · rw [if_pos (by rwa [any_id_iff, ids_normalForm])]
    simp only [normalForm, dropEmpty_concat, if_neg empty, firsts_concat, if_pos present,
      List.map_map, units_concat]
    apply List.map_congr_left
    intro old _
    by_cases same : old.id = line.id
    · simp [same, capped32_add]
    · simp [same, Ne.symm same]
  · -- The first filled line of its id goes last, and no other line has more units by it.
    rw [if_neg (by rwa [any_id_iff, ids_normalForm])]
    simp only [normalForm, dropEmpty_concat, if_neg empty, firsts_concat, if_neg present,
      List.map_append, units_concat]
    congr 1
    · apply List.map_congr_left
      intro old member
      have differ : line.id ≠ old.id := by
        intro same
        exact present (same ▸ List.mem_map_of_mem (mem_of_mem_firsts member))
      simp [differ]
    · simp [units_of_unfilled present, capped32_toNat]

theorem foldl_merge (lines : List Line) : lines.foldl Snapshot.merge [] = normalForm lines := by
  induction lines using List.reverseRecOn with
  | nil => rfl
  | append_singleton lines line ih =>
    rw [List.foldl_append, ih]
    exact merge_normalForm lines line

theorem normalForm_of_proper (proper : Proper lines) : normalForm lines = lines := by
  rw [normalForm, dropEmpty_of_positive proper.positive, firsts_of_distinct proper.distinct]
  conv_rhs => rw [← List.map_id lines]
  apply List.map_congr_left
  intro line member
  rw [units_orderRequest proper.distinct, held, Tally.find?_of_mem proper.distinct member]
  simp [capped32_toNat]

end Canteen.Cart
