import Canteen.Cart.Line

set_option autoImplicit false

namespace Canteen

theorem capped64_add (n m : Nat) :
    capped64 ((capped64 n).toNat + (capped64 m).toNat) = capped64 (n + m) := by
  apply UInt64.toNat_inj.mp
  simp only [toNat_capped64]
  omega

namespace Cart

def exactTotal (lines : List Line) : Nat :=
  lines.foldr (fun line rest => line.price.toNat * line.qty.toNat + rest) 0

-- The sum so far is one that was cut off, too: that is what the next line is added to.
theorem foldl_subtotal (sum : Nat) (lines : List Line) :
    lines.foldl (fun sum line => capped64 (sum.toNat + line.subtotal.toNat)) (capped64 sum) =
      capped64 (sum + exactTotal lines) := by
  induction lines generalizing sum with
  | nil => rfl
  | cons line rest ih =>
    have step : capped64 ((capped64 sum).toNat + line.subtotal.toNat) =
        capped64 (sum + line.price.toNat * line.qty.toNat) := capped64_add _ _
    rw [List.foldl_cons, step, ih, Nat.add_assoc]
    rfl

theorem total_eq_capped (lines : List Line) : total lines = capped64 (exactTotal lines) := by
  have sum := foldl_subtotal 0 lines
  rwa [Nat.zero_add] at sum

theorem exactTotal_perm {lines others : List Line} (reordered : lines.Perm others) :
    exactTotal lines = exactTotal others := by
  induction reordered with
  | nil => rfl
  | cons line _ ih => exact congrArg (line.price.toNat * line.qty.toNat + ·) ih
  | swap line other rest => exact Nat.add_left_comm _ _ _
  | trans _ _ first second => exact first.trans second

/-- However often something is cut off at the largest word, the total is the exact one cut off
once, and so it is the same in whatever order the lines stand. -/
theorem total_cut_once (lines : List Line) :
    (total lines).toNat = min (UInt64.size - 1) (exactTotal lines) ∧
      ∀ others, lines.Perm others → total others = total lines := by
  constructor
  · rw [total_eq_capped, toNat_capped64, Nat.min_comm]
  · intro others reordered
    rw [total_eq_capped, total_eq_capped, exactTotal_perm reordered]

-- The first line is past the largest word by itself.
def buffet : List Line := [
  { id := "1", name := "Wedding", price := 9223372036854775808, available := true, qty := 2 },
  { id := "4", name := "Water", price := 20, available := true, qty := 3 },
  { id := "4", name := "Water", price := 20, available := true, qty := 1 }]

theorem total_cut_once_buffet :
    buffet.Perm buffet.reverse ∧ total buffet.reverse = total buffet ∧
      (total buffet).toNat = 18446744073709551615 := by
  have reordered := (List.reverse_perm buffet).symm
  obtain ⟨cut, same⟩ := total_cut_once buffet
  refine ⟨reordered, same _ reordered, ?_⟩
  rw [cut]
  decide

end Cart

end Canteen
