import Canteen.Proofs.Binary64.Exact
import Canteen.Proofs.Json.RoundTrip

set_option autoImplicit false

namespace Canteen

namespace Binary64

def Short (x : Binary64) : Prop := x.significand < 2 ^ 53

theorem short_zero (negative : Bool) : Short (zero negative) := Nat.two_pow_pos _

theorem short_ofNat? {negative : Bool} {n : Nat} {x : Binary64}
    (found : ofNat? negative n = some x) : Short x :=
  nearest?_significand_lt Nat.one_pos found

theorem num_pos {x : Binary64} (filled : ¬x.isZero) : 0 < x.num := by
  rw [num, Nat.shiftLeft_eq]
  apply Nat.mul_pos (Nat.pos_of_ne_zero _) (Nat.two_pow_pos _)
  simpa [isZero] using filled

theorem short_mul? {x y z : Binary64} (found : x.mul? y = some z) : Short z :=
  nearest?_significand_lt (Nat.mul_pos x.den_pos y.den_pos) found

theorem short_div? {x y z : Binary64} (found : x.div? y = some z) : Short z := by
  obtain ⟨filled, found⟩ := Option.ite_none_left_eq_some.mp found
  exact nearest?_significand_lt (Nat.mul_pos x.den_pos (num_pos filled)) found

end Binary64

namespace Json

open Binary64 (Short nearestWhole)

theorem short_shrink? {fuel : Nat} {x z : Binary64} {n : Nat} (short : Short x)
    (found : shrink? fuel x n = some z) : Short z := by
  induction fuel generalizing x n with
  | zero =>
    cases found
    exact short
  | succ fuel ih =>
    rw [shrink?] at found
    split at found
    · cases found
      exact short
    split at found
    · exact Binary64.short_div? found
    · simp only [Option.bind_eq_bind, Option.bind_eq_some_iff] at found
      obtain ⟨power, -, y, divided, rest⟩ := found
      exact ih (Binary64.short_div? divided) rest

theorem short_scale? {significand : Nat} {exponent : Int} {z : Binary64}
    (found : scale? significand exponent = some z) : Short z := by
  simp only [scale?, Option.bind_eq_bind, Option.bind_eq_some_iff] at found
  obtain ⟨x, start, found⟩ := found
  have short := Binary64.short_ofNat? start
  split at found
  · cases found
    exact short
  split at found
  · obtain ⟨power, -, product⟩ := Option.bind_eq_some_iff.mp found
    exact Binary64.short_mul? product
  · exact short_shrink? short found

theorem Numeral.short_double? {n : Numeral} {x : Binary64} (found : n.double? = some x) :
    Short x := by
  simp only [double?, Option.bind_eq_bind, Option.bind_eq_some_iff] at found
  obtain ⟨y, scaled, ⟨⟩⟩ := found
  -- The sign is set afterwards and leaves the significand alone.
  have short : Short y := short_scale? scaled
  exact short

theorem Number.short_toDouble_integer (n : Int) : Short (Number.integer n).toDouble := by
  rw [toDouble]
  cases found : Binary64.ofNat? (n < 0) n.natAbs with
  | none => exact Binary64.short_zero false
  | some x => exact Binary64.short_ofNat? found

theorem Number.toDouble_nat {n : Nat} (bound : n < UInt64.size) :
    (Number.integer n).toDouble.isBelowZero = false ∧
      (Number.integer n).toDouble.IsWhole (nearestWhole n) := by
  obtain ⟨x, found, positive, whole⟩ := Binary64.ofNat?_isWhole false bound
  have sign : decide ((n : Int) < 0) = false := by simp
  rw [toDouble, sign, Int.natAbs_natCast, found]
  exact ⟨by simp [Binary64.isBelowZero, positive], whole⟩

theorem Numeral.value?_cases {n : Numeral} {number : Number} (found : n.value? = some number) :
    (∃ k, number = .integer k) ∨ ∃ x, n.double? = some x ∧ number = .double x := by
  have double (found : n.double?.map .double = some number) :
      ∃ x, n.double? = some x ∧ number = .double x := by
    obtain ⟨x, read, same⟩ := Option.map_eq_some_iff.mp found
    exact ⟨x, read, same.symm⟩
  unfold value? at found
  dsimp only at found
  split at found
  · exact .inr (double found)
  split at found <;> split at found
  · exact .inl ⟨_, (Option.some.inj found).symm⟩
  · exact .inr (double found)
  · exact .inl ⟨_, (Option.some.inj found).symm⟩
  · exact .inr (double found)

theorem Numeral.short_value? {n : Numeral} {number : Number} (found : n.value? = some number) :
    Short number.toDouble := by
  rcases value?_cases found with ⟨k, rfl⟩ | ⟨x, read, rfl⟩
  · exact Number.short_toDouble_integer k
  · exact short_double? read

inductive Value.Short : Value → Prop where
  | null : Short .null
  | bool (b : Bool) : Short (.bool b)
  | number {n : Number} (short : Binary64.Short n.toDouble) : Short (.number n)
  | string (s : String) : Short (.string s)
  | array {items : List Value} (each : ∀ item ∈ items, Short item) : Short (.array items)
  | object {fields : Fields} (each : ∀ field ∈ fields, Short field.2) : Short (.object fields)

mutual

theorem Written.short_value? {depth : Nat} :
    ∀ {tree : Written} {value : Value}, tree.value? depth = some value → value.Short
  | .null, _, rfl => .null
  | .bool b, _, rfl => .bool b
  | .number n, value, found => by
    obtain ⟨number, read, rfl⟩ := Option.map_eq_some_iff.mp found
    exact .number (Numeral.short_value? read)
  | .string glyphs, value, found => by
    obtain ⟨s, -, rfl⟩ := Option.map_eq_some_iff.mp found
    exact .string s
  | .array items, value, found => by
    obtain ⟨-, found⟩ := Option.ite_none_left_eq_some.mp found
    obtain ⟨values, read, rfl⟩ := Option.map_eq_some_iff.mp found
    exact .array (short_valuesOf? read)
  | .object members, value, found => by
    obtain ⟨-, found⟩ := Option.ite_none_left_eq_some.mp found
    obtain ⟨fields, read, rfl⟩ := Option.map_eq_some_iff.mp found
    exact .object (short_fieldsOf? (by simp) read)

theorem short_valuesOf? {depth : Nat} : ∀ {trees : List Written} {values : List Value},
    valuesOf? depth trees = some values → ∀ value ∈ values, value.Short
  | [], _, rfl => by simp
  | tree :: rest, values, found => by
    simp only [valuesOf?, Option.bind_eq_bind, Option.bind_eq_some_iff] at found
    obtain ⟨value, read, others, more, ⟨⟩⟩ := found
    exact List.forall_mem_cons.mpr ⟨Written.short_value? read, short_valuesOf? more⟩

theorem short_fieldsOf? {depth : Nat} : ∀ {members : List (List Glyph × Written)}
    {known fields : Fields}, (∀ field ∈ known, field.2.Short) →
      fieldsOf? depth known members = some fields → ∀ field ∈ fields, field.2.Short
  | [], _, _, each, rfl => each
  | (name, tree) :: rest, known, fields, each, found => by
    simp only [fieldsOf?, Option.bind_eq_bind, Option.bind_eq_some_iff] at found
    obtain ⟨name, -, value, read, more⟩ := found
    refine short_fieldsOf? (fun field member => ?_) more
    rcases Fields.mem_insert member with rfl | earlier
    · exact Written.short_value? read
    · exact each field earlier

end

theorem Value.short_ofText? {text : String} {value : Value} (found : ofText? text = some value) :
    value.Short := by
  obtain ⟨tree, -, meaning⟩ := Option.bind_eq_some_iff.mp found
  exact Written.short_value? meaning

theorem Value.Short.field? {value inner : Value} {name : String} (short : value.Short)
    (found : value.field? name = some inner) : inner.Short := by
  cases short with
  | object each =>
    obtain ⟨before, after, rfl, -⟩ := List.lookup_eq_some_iff.mp found
    exact each (name, inner) (by simp)
  | _ => cases found

end Json

end Canteen
