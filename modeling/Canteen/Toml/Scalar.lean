import Canteen.Toml.Value

set_option autoImplicit false

namespace Canteen.Toml

-- Single underscores between the digits are left out.
def digits? (isDigit : Char → Bool) (cs : List Char) : Option (List Char) :=
  let groups := cs.splitOn '_'
  if groups.all fun group => !group.isEmpty && group.all isDigit then some groups.flatten else none

def noLeadingZero : List Char → Bool
  | '0' :: _ :: _ => false
  | _ => true

def decimal? (cs : List Char) : Option (List Char) := do
  let digits ← digits? Char.isDigit cs
  if noLeadingZero digits then some digits else none

def isDigitOf (base : Nat) (c : Char) : Bool :=
  c.isDigit && c.toNat - '0'.toNat < base ||
    base = 16 && ('a' ≤ c && c ≤ 'f' || 'A' ≤ c && c ≤ 'F')

def digitValue (c : Char) : Nat :=
  if c.isDigit then c.toNat - '0'.toNat
  else if 'a' ≤ c then c.toNat - 'a'.toNat + 10
  else c.toNat - 'A'.toNat + 10

def ofBase (base : Nat) (digits : List Char) : Nat :=
  digits.foldl (fun n c => n * base + digitValue c) 0

structure Sign where
  negative : Bool

def sign : List Char → Sign × List Char
  | '-' :: rest => (⟨true⟩, rest)
  | '+' :: rest => (⟨false⟩, rest)
  | cs => (⟨false⟩, cs)

def magnitude? : List Char → Option Nat
  | '0' :: 'x' :: rest => (digits? (isDigitOf 16) rest).map (ofBase 16)
  | '0' :: 'o' :: rest => (digits? (isDigitOf 8) rest).map (ofBase 8)
  | '0' :: 'b' :: rest => (digits? (isDigitOf 2) rest).map (ofBase 2)
  | cs => (decimal? cs).map (ofBase 10)

def isSigned : List Char → Bool
  | '-' :: _ => true
  | '+' :: _ => true
  | _ => false

def isBased : List Char → Bool
  | '0' :: c :: _ => c = 'x' || c = 'o' || c = 'b'
  | _ => false

def integer? (cs : List Char) : Option Int := do
  let (sign, rest) := sign cs
  if isSigned cs ∧ isBased rest then none
  else
    let size ← magnitude? rest
    let n : Int := if sign.negative then -size else size
    if Int64.minValue.toInt ≤ n ∧ n < UInt64.size then some n else none

-- Far beyond the range of doubles the power of ten is not worked out.
def double? (negative : Bool) (digits : List Char) (place : Int) : Option Binary64 :=
  let digits := digits.dropWhile (· == '0')
  let point := place + digits.length
  if digits.isEmpty ∨ point < -400 then some (Binary64.zero negative)
  else if 400 < point then none
  else
    Binary64.nearest? negative (ofBase 10 digits * tenTo place.toNat) (tenTo (-place).toNat)

def exponent? (cs : List Char) : Option Int := do
  let (sign, rest) := sign cs
  let size : Int := ofBase 10 (← digits? Char.isDigit rest)
  return if sign.negative then -size else size

def splitAt? (marks : Char → Bool) (cs : List Char) : List Char × Option (List Char) :=
  match cs.dropWhile fun c => !marks c with
  | [] => (cs, none)
  | _ :: rest => (cs.takeWhile fun c => !marks c, some rest)

def isExponentMark (c : Char) : Bool := c == 'e' || c == 'E'

def number? (negative : Bool) (cs : List Char) : Option Float := do
  let (mantissa, power) := splitAt? isExponentMark cs
  let (whole, fraction) := splitAt? (· == '.') mantissa
  if power.isNone ∧ fraction.isNone then none
  else
    let whole ← decimal? whole
    let fraction ← match fraction with
      | some fraction => digits? Char.isDigit fraction
      | none => some []
    let power ← match power with
      | some power => exponent? power
      | none => some 0
    (double? negative (whole ++ fraction) (power - fraction.length)).map .finite

def float? (cs : List Char) : Option Float :=
  let (sign, rest) := sign cs
  match rest with
  | ['i', 'n', 'f'] => some (.infinite sign.negative)
  | ['n', 'a', 'n'] => some .nan
  | _ => number? sign.negative rest

def two? : List Char → Option (Nat × List Char)
  | a :: b :: rest =>
      if a.isDigit ∧ b.isDigit then some (ofBase 10 [a, b], rest) else none
  | _ => none

def exactly? (c : Char) : List Char → Option (List Char)
  | [] => none
  | d :: rest => if c = d then some rest else none

def isLeap (year : Nat) : Bool := year % 4 = 0 && (year % 100 ≠ 0 || year % 400 = 0)

def daysIn (year month : Nat) : Nat :=
  if month = 2 then (if isLeap year then 29 else 28)
  else if month = 4 ∨ month = 6 ∨ month = 9 ∨ month = 11 then 30
  else 31

def date? (cs : List Char) : Option (List Char) := do
  let (century, rest) ← two? cs
  let (year, rest) ← two? rest
  let (month, rest) ← two? (← exactly? '-' rest)
  let (day, rest) ← two? (← exactly? '-' rest)
  let year := century * 100 + year
  if 1 ≤ month ∧ month ≤ 12 ∧ 1 ≤ day ∧ day ≤ daysIn year month then some rest else none

def fractionOfSecond? : List Char → Option (List Char)
  | '.' :: rest =>
      if (rest.takeWhile Char.isDigit).isEmpty then none else some (rest.dropWhile Char.isDigit)
  | rest => some rest

def seconds? : List Char → Option (List Char)
  | ':' :: rest => do
      let (second, rest) ← two? rest
      if second ≤ 60 then fractionOfSecond? rest else none
  | rest => some rest

def time? (cs : List Char) : Option (List Char) := do
  let (hour, rest) ← two? cs
  let (minute, rest) ← two? (← exactly? ':' rest)
  if hour < 24 ∧ minute < 60 then seconds? rest else none

def offset? : List Char → Option (List Char)
  | [] => some []
  | 'Z' :: rest => some rest
  | 'z' :: rest => some rest
  | c :: rest =>
      if c = '+' ∨ c = '-' then do
        let (hour, rest) ← two? rest
        let (minute, rest) ← two? (← exactly? ':' rest)
        if hour < 24 ∧ minute < 60 then some rest else none
      else none

def isDateTimeMark (c : Char) : Bool := c == 'T' || c == 't' || c == ' '

def isDateTime (cs : List Char) : Bool :=
  match date? cs with
  | some [] => true
  | some (c :: rest) => isDateTimeMark c && ((time? rest).bind offset?) == some []
  | none => time? cs == some []

def scalar? (cs : List Char) : Option Value :=
  if cs = ['t', 'r', 'u', 'e'] then some (.bool true)
  else if cs = ['f', 'a', 'l', 's', 'e'] then some (.bool false)
  else if isDateTime cs then some .datetime
  else
    match integer? cs with
    | some n => some (.integer n)
    | none => (float? cs).map .float

end Canteen.Toml
