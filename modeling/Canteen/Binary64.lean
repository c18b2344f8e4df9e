set_option autoImplicit false

namespace Canteen

def tenTo (n : Nat) : Nat := Nat.pow 10 n

def roundHalfEven (num den : Nat) : Nat :=
  let whole := num / den
  let twice := 2 * (num % den)
  if twice < den then whole
  else if den < twice then whole + 1
  else whole + whole % 2

/-- A finite double: `significand * 2 ^ exponent` with its sign, so that zero has two signs. -/
structure Binary64 where
  negative : Bool
  significand : Nat
  exponent : Int
deriving DecidableEq, Repr

namespace Binary64

def smallestExponent : Int := -1074
def largestExponent : Int := 971

def zero (negative : Bool) : Binary64 := ⟨negative, 0, smallestExponent⟩

def isZero (x : Binary64) : Bool := x.significand == 0

-- The magnitude as a quotient of natural numbers.
def num (x : Binary64) : Nat := x.significand <<< x.exponent.toNat
def den (x : Binary64) : Nat := 1 <<< (-x.exponent).toNat

theorem den_pos (x : Binary64) : 0 < x.den := by
  rw [den, Nat.shiftLeft_eq, Nat.one_mul]
  exact Nat.two_pow_pos _

def scaled (num den : Nat) (exponent : Int) : Nat :=
  roundHalfEven (num <<< (-exponent).toNat) (den <<< exponent.toNat)

-- The last place that leaves 53 bits, or the smallest place there is.
def lastPlace (num den : Nat) : Int :=
  let guess : Int := (num.log2 : Int) - den.log2 - 52
  let short := num <<< (-guess).toNat < den <<< (guess.toNat + 52)
  max (if short then guess - 1 else guess) smallestExponent

-- A tie goes to the even significand; there is none past the largest double.
def nearest? (negative : Bool) (num den : Nat) : Option Binary64 :=
  if num = 0 then some (zero negative)
  else
    let place := lastPlace num den
    let significand := scaled num den place
    let (significand, place) :=
      if significand = 1 <<< 53 then (1 <<< 52, place + 1) else (significand, place)
    if largestExponent < place then none else some ⟨negative, significand, place⟩

def ofNat? (negative : Bool) (n : Nat) : Option Binary64 := nearest? negative n 1

def mul? (x y : Binary64) : Option Binary64 :=
  nearest? (x.negative != y.negative) (x.num * y.num) (x.den * y.den)

def div? (x y : Binary64) : Option Binary64 :=
  if y.isZero then none
  else nearest? (x.negative != y.negative) (x.num * y.den) (x.den * y.num)

-- Both act on the magnitude.
def floor (x : Binary64) : Nat := x.num / x.den
def round (x : Binary64) : Nat := (2 * x.num + x.den) / (2 * x.den)

def isBelowZero (x : Binary64) : Bool := x.negative && !x.isZero

theorem nearest?_zero (negative : Bool) (den : Nat) :
    nearest? negative 0 den = some (zero negative) := by simp [nearest?]

structure Scientific where
  digits : Nat
  place : Int
deriving DecidableEq, Repr

namespace Scientific

def num (d : Scientific) : Nat := d.digits * tenTo d.place.toNat
def den (d : Scientific) : Nat := tenTo (-d.place).toNat

end Scientific

-- A quotient of natural numbers, compared by cross multiplication.
structure Ratio where
  num : Nat
  den : Nat

namespace Ratio

def lt (a b : Ratio) : Bool := a.num * b.den < b.num * a.den
def le (a b : Ratio) : Bool := a.num * b.den ≤ b.num * a.den

def distance (a b : Ratio) : Ratio :=
  let left := a.num * b.den
  let right := b.num * a.den
  ⟨(left - right) + (right - left), a.den * b.den⟩

end Ratio

def ratio (x : Binary64) : Ratio := ⟨x.num, x.den⟩

-- Doubles lie twice as dense under a power of two.
def lowerEdge (x : Binary64) : Ratio :=
  if x.significand = 1 <<< 52 ∧ smallestExponent < x.exponent then
    ⟨(4 * x.significand - 1) <<< x.exponent.toNat, 4 * x.den⟩
  else ⟨(2 * x.significand - 1) <<< x.exponent.toNat, 2 * x.den⟩

def upperEdge (x : Binary64) : Ratio :=
  ⟨(2 * x.significand + 1) <<< x.exponent.toNat, 2 * x.den⟩

-- The edges belong to the even significand.
def covers (x : Binary64) (d : Scientific) : Bool :=
  let point : Ratio := ⟨d.num, d.den⟩
  if x.significand % 2 = 0 then x.lowerEdge.le point && point.le x.upperEdge
  else x.lowerEdge.lt point && point.lt x.upperEdge

def neighbours (x : Binary64) (place : Int) : Scientific × Scientific :=
  let below := (x.num * tenTo (-place).toNat) / (x.den * tenTo place.toNat)
  (⟨below, place⟩, ⟨below + 1, place⟩)

def onGrid? (x : Binary64) (place : Int) : Option Scientific :=
  let (below, above) := x.neighbours place
  let nearer :=
    let down := x.ratio.distance ⟨below.num, below.den⟩
    let up := x.ratio.distance ⟨above.num, above.den⟩
    if down.lt up then below
    else if up.lt down then above
    else if below.digits % 2 = 0 then below else above
  match x.covers below, x.covers above with
  | true, true => some nearer
  | true, false => some below
  | false, true => some above
  | false, false => none

-- The place of the leading digit: 10 ^ place ≤ x < 10 ^ (place + 1).
def leadingPlace (x : Binary64) : Int :=
  if 0 < x.floor then (Nat.toDigits 10 x.floor).length - 1
  else
    match (List.range 330).find? fun k => x.den ≤ x.num * tenTo k with
    | some shift => -(shift : Int)
    | none => -330

def trimZeros : Nat → Scientific → Scientific
  | 0, d => d
  | fuel + 1, d =>
      if d.digits ≠ 0 ∧ d.digits % 10 = 0 then trimZeros fuel ⟨d.digits / 10, d.place + 1⟩ else d

/-- The fewest digits that read back as `x`, and of those the nearest to it. -/
def shortest (x : Binary64) : Scientific :=
  if x.isZero then ⟨0, 0⟩
  else
    let top := x.leadingPlace
    let grids := (List.range 17).map fun k : Nat => top - k
    match grids.findSome? x.onGrid? with
    | some d => trimZeros 20 d
    | none => ⟨x.significand, 0⟩

def positional (d : Scientific) : List Char :=
  let digits := Nat.toDigits 10 d.digits
  if 0 ≤ d.place then digits ++ List.replicate d.place.toNat '0' ++ ['.', '0']
  else
    let fraction := (-d.place).toNat
    let whole := digits.length - fraction
    let padded := List.replicate (fraction - digits.length) '0'
    (if whole = 0 then ['0'] else digits.take whole) ++ '.' :: padded ++ digits.drop whole

def exponential (d : Scientific) : List Char :=
  let digits := Nat.toDigits 10 d.digits
  let exponent := d.place + (digits.length - 1 : Nat)
  let mantissa :=
    match digits with
    | [] => []
    | [single] => [single]
    | first :: rest => first :: '.' :: rest
  let sign := if exponent < 0 then '-' else '+'
  mantissa ++ 'e' :: sign :: Nat.toDigits 10 exponent.natAbs

def signed (x : Binary64) (text : List Char) : List Char :=
  if x.negative then '-' :: text else text

-- Positional from 1e-5 up to 1e16, with an exponent beyond.
def dataText (x : Binary64) : List Char :=
  let d := x.shortest
  let point := d.place + (Nat.toDigits 10 d.digits).length
  x.signed (if -5 < point ∧ point ≤ 16 then positional d else exponential d)

def plainText (x : Binary64) : List Char := x.signed (positional x.shortest)

end Binary64

end Canteen
