import Canteen.Binary64
import Canteen.Json.Written

set_option autoImplicit false

namespace Canteen.Json

/-- An integer that fits a 64-bit word, signed or not, is exact; every other number is a double. -/
inductive Number where
  | integer (n : Int)
  | double (x : Binary64)
deriving DecidableEq, Repr

def Number.toDouble (n : Number) : Binary64 :=
  match n with
  | .integer n => (Binary64.ofNat? (n < 0) n.natAbs).getD (Binary64.zero false)
  | .double x => x

def largestWord : Nat := UInt64.size - 1

-- Digits are taken while the significand fits a word.
def absorb : Nat → List Char → Nat × Nat × Nat
  | significand, [] => (significand, 0, 0)
  | significand, c :: rest =>
      let next := significand * 10 + (c.toNat - '0'.toNat)
      if next ≤ largestWord then
        let (result, taken, left) := absorb next rest
        (result, taken + 1, left)
      else (significand, 0, rest.length + 1)

def powerOfTen? (n : Nat) : Option Binary64 :=
  if n ≤ 308 then Binary64.ofNat? false (tenTo n) else none

-- A power of ten too small for one division is reached in steps.
def shrink? : Nat → Binary64 → Nat → Option Binary64
  | 0, x, _ => some x
  | fuel + 1, x, n =>
      if x.isZero then some x
      else
        match powerOfTen? n with
        | some power => x.div? power
        | none => do
            let x ← x.div? (← powerOfTen? 308)
            shrink? fuel x (n - 308)

-- Rounds the significand first, and its product with the power of ten once more.
def scale? (significand : Nat) (exponent : Int) : Option Binary64 := do
  let x ← Binary64.ofNat? false significand
  if x.isZero then return x
  if 0 ≤ exponent then x.mul? (← powerOfTen? exponent.toNat)
  else shrink? 4 x exponent.natAbs

def Numeral.exponentValue (n : Numeral) : Int :=
  match n.exponent with
  | none => 0
  | some e =>
      let size : Int := Nat.ofDigitChars 10 e.digits 0
      if e.negative then -size else size

def Numeral.double? (n : Numeral) : Option Binary64 := do
  let (significand, _, left) := absorb 0 n.whole
  let (significand, taken, _) := absorb significand n.fraction
  let x ← scale? significand (left - taken + n.exponentValue)
  return { x with negative := n.negative }

def Numeral.isInteger (n : Numeral) : Bool := n.fraction.isEmpty && n.exponent.isNone

def Numeral.value? (n : Numeral) : Option Number :=
  let size := Nat.ofDigitChars 10 n.whole 0
  if !n.isInteger then n.double?.map .double
  else if n.negative then
    if size ≠ 0 ∧ Int64.minValue.toInt ≤ -size then some (.integer (-size)) else n.double?.map .double
  else if size ≤ largestWord then some (.integer size)
  else n.double?.map .double

end Canteen.Json
