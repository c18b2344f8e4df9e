import Canteen.Binary64
import Canteen.Json.Value

set_option autoImplicit false

namespace Canteen.Json

def hexDigit (n : Nat) : Char := Nat.digitChar (n % 16)

def escapeChar (c : Char) : List Char :=
  if c = '"' then ['\\', '"']
  else if c = '\\' then ['\\', '\\']
  else if c = '\x08' then ['\\', 'b']
  else if c = '\x0c' then ['\\', 'f']
  else if c = '\n' then ['\\', 'n']
  else if c = '\r' then ['\\', 'r']
  else if c = '\t' then ['\\', 't']
  else if c < ' ' then ['\\', 'u', '0', '0', hexDigit (c.toNat / 16), hexDigit c.toNat]
  else [c]

def printString (s : String) : List Char :=
  '"' :: (s.toList.flatMap escapeChar ++ ['"'])

def printInteger (n : Int) : List Char :=
  if n < 0 then '-' :: Nat.toDigits 10 n.natAbs else Nat.toDigits 10 n.natAbs

def Number.print : Number → List Char
  | .integer n => printInteger n
  | .double x => x.dataText

mutual

def Value.print : Value → List Char
  | .null => ['n', 'u', 'l', 'l']
  | .bool true => ['t', 'r', 'u', 'e']
  | .bool false => ['f', 'a', 'l', 's', 'e']
  | .number n => n.print
  | .string s => printString s
  | .array [] => ['[', ']']
  | .array (item :: rest) => '[' :: (item.print ++ printItems rest)
  | .object [] => ['\x7b', '\x7d']
  | .object ((name, value) :: rest) =>
      '\x7b' :: (printString name ++ ':' :: (value.print ++ printFields rest))

-- What follows the first element, up to the closing bracket.
def printItems : List Value → List Char
  | [] => [']']
  | item :: rest => ',' :: (item.print ++ printItems rest)

def printFields : List (String × Value) → List Char
  | [] => ['\x7d']
  | (name, value) :: rest =>
      ',' :: (printString name ++ ':' :: (value.print ++ printFields rest))

end

def Value.text (value : Value) : String := String.ofList value.print

end Canteen.Json
