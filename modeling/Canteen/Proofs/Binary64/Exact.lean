import Mathlib.Algebra.Order.Field.Power
import Mathlib.Algebra.Order.Floor.Semifield
import Mathlib.Data.Rat.Floor
import Mathlib.Tactic.Linarith
import Mathlib.Tactic.Positivity
import Mathlib.Tactic.Ring
import Canteen.Binary64

set_option autoImplicit false

namespace Canteen

theorem roundHalfEven_mul (n : Nat) {den : Nat} (positive : 0 < den) :
    roundHalfEven (n * den) den = n := by
  simp [roundHalfEven, Nat.mul_div_cancel n positive, positive]

theorem roundHalfEven_le {num den bound : Nat} (positive : 0 < den) (below : num ≤ bound * den) :
    roundHalfEven num den ≤ bound := by
  have whole := Nat.div_add_mod num den
  have rest := Nat.mod_lt num positive
  have under : num / den ≤ bound := Nat.div_le_of_le_mul (by rwa [Nat.mul_comm])
  rcases Nat.eq_or_lt_of_le under with equal | less
  · have exact : num % den = 0 := by
      rw [equal, Nat.mul_comm] at whole
      omega
    simp [roundHalfEven, exact, equal, positive]
  · unfold roundHalfEven
    dsimp only
    split
    · omega
    split
    · omega
    · omega

namespace Binary64

theorem shift_lt_iff (num den bits : Nat) (place : Int) :
    num <<< (-place).toNat < den <<< (place.toNat + bits) ↔
      (num : ℚ) < den * (2 : ℚ) ^ (place + bits) := by
  rw [Nat.shiftLeft_eq, Nat.shiftLeft_eq, pow_add, ← mul_assoc, zpow_add₀ (by decide), zpow_natCast,
    ← mul_assoc]
  rcases Int.le_total 0 place with whole | fraction
  · obtain ⟨k, rfl⟩ := Int.eq_ofNat_of_zero_le whole
    simp only [Int.toNat_neg_natCast, Int.toNat_natCast, pow_zero, mul_one, zpow_natCast]
    exact_mod_cast Iff.rfl
  · obtain ⟨k, rfl⟩ := Int.exists_eq_neg_ofNat fraction
    rw [neg_neg, Int.toNat_natCast, Int.toNat_neg_natCast, pow_zero, mul_one, zpow_neg,
      zpow_natCast, mul_right_comm, ← div_eq_mul_inv, lt_div_iff₀ (by positivity)]
    exact_mod_cast Iff.rfl

theorem lt_lastPlace (num : Nat) {den : Nat} (positive : 0 < den) :
    (num : ℚ) < den * (2 : ℚ) ^ (lastPlace num den + 53) := by
  have raise {low high : Int} (le : low ≤ high) (below : (num : ℚ) < den * (2 : ℚ) ^ low) :
      (num : ℚ) < den * (2 : ℚ) ^ high := by
    refine below.trans_le (mul_le_mul_of_nonneg_left ?_ (Nat.cast_nonneg _))
    exact zpow_le_zpow_right₀ (by norm_num) le
  unfold lastPlace
  dsimp only
  -- The logarithms leave two places to choose from.
  split
  · rename_i short
    refine raise ?_ ((shift_lt_iff _ _ _ _).mp short)
    push_cast
    omega
  · have above : (num : ℚ) < 2 ^ (num.log2 + 1) := by exact_mod_cast Nat.lt_log2_self
    have below : (2 : ℚ) ^ den.log2 ≤ den := by exact_mod_cast Nat.log2_self_le positive.ne'
    have guess : (num : ℚ) < den * (2 : ℚ) ^ ((num.log2 + 1 : Int) - den.log2) := by
      calc (num : ℚ) < 2 ^ (num.log2 + 1) := above
        _ = 2 ^ den.log2 * (2 : ℚ) ^ ((num.log2 + 1 : Int) - den.log2) := by
          rw [← zpow_natCast, ← zpow_natCast, ← zpow_add₀ (by decide)]
          push_cast
          congr 1
          omega
        _ ≤ den * (2 : ℚ) ^ ((num.log2 + 1 : Int) - den.log2) := by gcongr
    refine raise ?_ guess
    omega

theorem nearest?_eq (negative : Bool) {num : Nat} (den : Nat) (nonzero : num ≠ 0) :
    nearest? negative num den =
      let place := lastPlace num den
      if scaled num den place = 1 <<< 53 then
        if largestExponent < place + 1 then none else some ⟨negative, 1 <<< 52, place + 1⟩
      else if largestExponent < place then none
      else some ⟨negative, scaled num den place, place⟩ := by
  rw [nearest?, if_neg nonzero]
  dsimp only
  split <;> rfl

theorem nearest?_significand_lt {negative : Bool} {num den : Nat} {x : Binary64}
    (positive : 0 < den) (found : nearest? negative num den = some x) :
    x.significand < 2 ^ 53 := by
  have room : scaled num den (lastPlace num den) ≤ 1 <<< 53 := by
    have below := (shift_lt_iff num den 53 (lastPlace num den)).mpr (lt_lastPlace num positive)
    apply roundHalfEven_le
    · simp [Nat.shiftLeft_eq, positive]
    · rw [Nat.shiftLeft_add] at below
      simp only [Nat.shiftLeft_eq] at below ⊢
      omega
  rcases Nat.eq_zero_or_pos num with rfl | nonzero
  · rw [nearest?_zero] at found
    cases found
    exact Nat.two_pow_pos _
  · rw [nearest?_eq negative den nonzero.ne'] at found
    dsimp only at found
    split at found
    · obtain ⟨-, ⟨⟩⟩ := Option.ite_none_left_eq_some.mp found
      change 1 <<< 52 < 2 ^ 53
      decide
    · rename_i full
      obtain ⟨-, ⟨⟩⟩ := Option.ite_none_left_eq_some.mp found
      exact Nat.lt_of_le_of_ne room full

def spacing (n : Nat) : Nat := 2 ^ (n.log2 - 52)

def nearestWhole (n : Nat) : Nat := roundHalfEven n (spacing n) * spacing n

def IsDouble (n : Nat) : Prop :=
  ∃ significand exponent, significand < 2 ^ 53 ∧ n = significand * 2 ^ exponent

theorem isDouble_iff_dvd (n : Nat) : IsDouble n ↔ spacing n ∣ n := by
  constructor
  · rintro ⟨significand, exponent, bound, rfl⟩
    rcases Nat.eq_zero_or_pos (significand * 2 ^ exponent) with zero | positive
    · rw [zero]
      exact Nat.dvd_zero _
    · have high : significand * 2 ^ exponent < 2 ^ (53 + exponent) := by
        rw [pow_add]
        exact Nat.mul_lt_mul_of_pos_right bound (Nat.two_pow_pos _)
      have log := (Nat.log2_lt positive.ne').mpr high
      exact (Nat.pow_dvd_pow 2 (by omega)).trans (Nat.dvd_mul_left _ _)
  · intro divides
    refine ⟨n / spacing n, n.log2 - 52, ?_, (Nat.div_mul_cancel divides).symm⟩
    apply Nat.div_lt_of_lt_mul
    refine (Nat.lt_log2_self (n := n)).trans_le ?_
    rw [spacing, ← pow_add]
    exact Nat.pow_le_pow_right (by decide) (by omega)

theorem spacing_pos (n : Nat) : 0 < spacing n := Nat.two_pow_pos _

theorem nearestWhole_eq_iff (n : Nat) : nearestWhole n = n ↔ IsDouble n := by
  rw [isDouble_iff_dvd]
  constructor
  · exact Dvd.intro_left _
  · rintro ⟨quotient, whole⟩
    have rounded := roundHalfEven_mul quotient (spacing_pos n)
    rw [Nat.mul_comm, ← whole] at rounded
    rw [nearestWhole, rounded, Nat.mul_comm]
    exact whole.symm

theorem isDouble_of_lt {n : Nat} (small : n < 2 ^ 53) : IsDouble n := ⟨n, 0, small, by simp⟩

theorem lastPlace_one {n : Nat} (positive : 0 < n) : lastPlace n 1 = (n.log2 : Int) - 52 := by
  have log : (1 : Nat).log2 = 0 := by decide
  have long : ¬n <<< (-((n.log2 : Int) - 52)).toNat < 1 <<< (((n.log2 : Int) - 52).toNat + 52) := by
    have low := Nat.log2_self_le positive.ne'
    simp only [Nat.shiftLeft_eq, Nat.not_lt, one_mul]
    calc 2 ^ (((n.log2 : Int) - 52).toNat + 52)
        = 2 ^ n.log2 * 2 ^ (-((n.log2 : Int) - 52)).toNat := by
          rw [← pow_add]
          congr 1
          omega
      _ ≤ n * 2 ^ (-((n.log2 : Int) - 52)).toNat := Nat.mul_le_mul_right _ low
  simp only [lastPlace, log, Int.natCast_zero, Int.sub_zero, if_neg long]
  simp only [smallestExponent]
  omega

def IsWhole (x : Binary64) (n : Nat) : Prop := x.num = n * x.den

theorem IsWhole.floor_eq {x : Binary64} {n : Nat} (whole : IsWhole x n) : x.floor = n := by
  rw [floor, whole]
  exact Nat.mul_div_cancel n x.den_pos

theorem IsWhole.round_eq {x : Binary64} {n : Nat} (whole : IsWhole x n) : x.round = n := by
  have positive := x.den_pos
  have shape : 2 * x.num + x.den = x.den + n * (2 * x.den) := by
    rw [whole]
    ring
  rw [round, shape, Nat.add_mul_div_right _ _ (by omega), Nat.div_eq_of_lt (by omega), Nat.zero_add]

theorem num_mk (negative : Bool) (significand : Nat) (exponent : Int) :
    num ⟨negative, significand, exponent⟩ = significand * 2 ^ exponent.toNat :=
  Nat.shiftLeft_eq _ _

theorem den_mk (negative : Bool) (significand : Nat) (exponent : Int) :
    den ⟨negative, significand, exponent⟩ = 2 ^ (-exponent).toNat :=
  Nat.one_shiftLeft _

-- Half the significand and twice the last place are the same number.
theorem IsWhole.carry {negative : Bool} {exponent : Int} {n : Nat}
    (whole : IsWhole ⟨negative, 1 <<< 53, exponent⟩ n) :
    IsWhole ⟨negative, 1 <<< 52, exponent + 1⟩ n := by
  simp only [IsWhole, num_mk, den_mk, Nat.one_shiftLeft] at whole ⊢
  rcases lt_or_ge exponent 0 with fraction | large
  · have down : (-exponent).toNat = (-(exponent + 1)).toNat + 1 := by omega
    have up : exponent.toNat = 0 ∧ (exponent + 1).toNat = 0 := by omega
    rw [down, up.1, pow_succ 2 (-(exponent + 1)).toNat, ← mul_assoc] at whole
    rw [up.2]
    omega
  · have down : (-exponent).toNat = 0 ∧ (-(exponent + 1)).toNat = 0 := by omega
    have up : (exponent + 1).toNat = exponent.toNat + 1 := by omega
    rw [down.1] at whole
    rw [down.2, up, ← whole]
    ring

theorem isWhole_scaled (negative : Bool) (n : Nat) :
    IsWhole ⟨negative, scaled n 1 ((n.log2 : Int) - 52), (n.log2 : Int) - 52⟩ (nearestWhole n) := by
  have up : ((n.log2 : Int) - 52).toNat = n.log2 - 52 := by omega
  have down : (-((n.log2 : Int) - 52)).toNat = 52 - n.log2 := by omega
  rw [IsWhole, num_mk, den_mk, scaled, up, down, Nat.one_shiftLeft, Nat.shiftLeft_eq, nearestWhole,
    spacing]
  rcases Nat.le_total n.log2 52 with small | large
  · rw [Nat.sub_eq_zero_of_le small, pow_zero, mul_one, mul_one]
    have unrounded (m : Nat) : roundHalfEven m 1 = m := by
      simpa using roundHalfEven_mul m Nat.one_pos
    rw [unrounded, unrounded]
  · rw [Nat.sub_eq_zero_of_le large, pow_zero, mul_one, mul_one]

theorem ofNat?_isWhole (negative : Bool) {n : Nat} (bound : n < UInt64.size) :
    ∃ x, ofNat? negative n = some x ∧ x.negative = negative ∧ IsWhole x (nearestWhole n) := by
  rcases Nat.eq_zero_or_pos n with rfl | positive
  · refine ⟨zero negative, nearest?_zero negative 1, rfl, ?_⟩
    simp [IsWhole, zero, num_mk, nearestWhole, roundHalfEven]
  · have log : n.log2 < 64 := (Nat.log2_lt positive.ne').mpr bound
    have fits : ¬largestExponent < (n.log2 : Int) - 52 ∧
        ¬largestExponent < (n.log2 : Int) - 52 + 1 := by
      simp only [largestExponent]
      omega
    have whole := isWhole_scaled negative n
    rw [ofNat?, nearest?_eq negative 1 positive.ne', lastPlace_one positive]
    dsimp only
    rw [if_neg fits.1, if_neg fits.2]
    split
    · rename_i full
      rw [full] at whole
      exact ⟨_, rfl, rfl, whole.carry⟩
    · exact ⟨_, rfl, rfl, whole⟩

theorem isDouble_round {x : Binary64} (short : x.significand < 2 ^ 53) : IsDouble x.round := by
  obtain ⟨negative, significand, exponent⟩ := x
  rcases lt_or_ge exponent 0 with fraction | large
  · apply isDouble_of_lt
    have up : exponent.toNat = 0 := by omega
    have half : 2 ≤ den ⟨negative, significand, exponent⟩ := by
      rw [den_mk]
      calc 2 = 2 ^ 1 := rfl
        _ ≤ 2 ^ (-exponent).toNat := Nat.pow_le_pow_right (by decide) (by omega)
    rw [round, num_mk, up, pow_zero, mul_one]
    generalize den ⟨negative, significand, exponent⟩ = den at half ⊢
    apply Nat.div_lt_of_lt_mul
    change significand < 2 ^ 53 at short
    nlinarith
  · have whole : IsWhole ⟨negative, significand, exponent⟩ (significand * 2 ^ exponent.toNat) := by
      have down : (-exponent).toNat = 0 := by omega
      rw [IsWhole, num_mk, den_mk, down, pow_zero, mul_one]
    rw [whole.round_eq]
    exact ⟨significand, exponent.toNat, short, rfl⟩

-- Both zeros stand for none.
def toRat (x : Binary64) : ℚ :=
  (if x.negative then -1 else 1) * (x.significand * 2 ^ x.exponent)

theorem num_div_den (x : Binary64) : (x.num : ℚ) / x.den = x.significand * 2 ^ x.exponent := by
  rw [num, den, Nat.shiftLeft_eq, Nat.one_shiftLeft]
  rcases Int.le_total 0 x.exponent with whole | fraction
  · obtain ⟨k, same⟩ := Int.eq_ofNat_of_zero_le whole
    simp [same]
  · obtain ⟨k, same⟩ := Int.exists_eq_neg_ofNat fraction
    simp [same, div_eq_mul_inv]

theorem magnitude_nonneg (x : Binary64) : 0 ≤ (x.significand : ℚ) * 2 ^ x.exponent := by
  positivity

theorem isBelowZero_iff (x : Binary64) : x.isBelowZero = true ↔ x.toRat < 0 := by
  have scale : (0 : ℚ) < 2 ^ x.exponent := by positivity
  cases sign : x.negative <;>
    simp [isBelowZero, isZero, toRat, sign, scale, Nat.pos_iff_ne_zero]

theorem isBelowZero_eq_false_iff (x : Binary64) : x.isBelowZero = false ↔ 0 ≤ x.toRat := by
  rw [← Bool.not_eq_true, isBelowZero_iff, not_lt]

theorem toRat_of_nonneg {x : Binary64} (unsigned : 0 ≤ x.toRat) :
    x.toRat = (x.num : ℚ) / x.den := by
  rw [num_div_den]
  have positive := x.magnitude_nonneg
  cases sign : x.negative with
  | false => simp [toRat, sign]
  | true =>
    simp only [toRat, sign, if_true] at unsigned ⊢
    linarith

theorem floor_eq {x : Binary64} (unsigned : 0 ≤ x.toRat) : x.floor = ⌊x.toRat⌋₊ := by
  rw [toRat_of_nonneg unsigned, Nat.floor_div_natCast, Nat.floor_natCast]
  rfl

theorem round_eq {x : Binary64} (unsigned : 0 ≤ x.toRat) : x.round = ⌊x.toRat + 1 / 2⌋₊ := by
  have positive : (x.den : ℚ) ≠ 0 := by exact_mod_cast x.den_pos.ne'
  have shape : x.toRat + 1 / 2 = ((2 * x.num + x.den : Nat) : ℚ) / (2 * x.den : Nat) := by
    rw [toRat_of_nonneg unsigned]
    push_cast
    field_simp
  rw [shape, Nat.floor_div_natCast, Nat.floor_natCast]
  rfl

end Binary64

end Canteen
