import Canteen.Toml.Scalar
import Canteen.Toml.Table
import Canteen.Toml.Text

set_option autoImplicit false

namespace Canteen.Toml

def isBare (c : Char) : Bool := c.isAlphanum || c == '_' || c == '-'

def simpleKey? (fuel : Nat) : List Char → Option (List Char × List Char)
  | '"' :: rest => basic? fuel rest
  | '\'' :: rest => literal? rest
  | cs =>
      let name := cs.takeWhile isBare
      if name.isEmpty then none else some (name, cs.drop name.length)

def key? : Nat → List Char → Option (Key × List Char)
  | 0, _ => none
  | fuel + 1, cs => do
      let (name, rest) ← simpleKey? fuel (skipBlanks cs)
      let name := String.ofList name
      match skipBlanks rest with
      | '.' :: rest =>
          let (key, rest) ← key? fuel rest
          return ({ key with path := name :: key.path }, rest)
      | rest => return (⟨[], name⟩, rest)

def isScalarChar (c : Char) : Bool :=
  c.isAlphanum || c == '+' || c == '-' || c == '.' || c == ':' || c == '_'

-- A blank may stand between a date and a time.
def scalarChars (cs : List Char) : List Char :=
  let first := cs.takeWhile isScalarChar
  match date? first, cs.drop first.length with
  | some [], ' ' :: rest =>
      match rest with
      | c :: _ => if c.isDigit then first ++ ' ' :: rest.takeWhile isScalarChar else first
      | [] => first
  | _, _ => first

def deepest : Nat := 80

mutual

def value? : Nat → Nat → List Char → Option (Value × List Char)
  | 0, _, _ => none
  | fuel + 1, depth, cs =>
      match cs with
      | '"' :: _ => (string? fuel cs).map fun (s, rest) => (.string (String.ofList s), rest)
      | '\'' :: _ => (string? fuel cs).map fun (s, rest) => (.string (String.ofList s), rest)
      | '[' :: rest =>
          if depth = 0 then none
          else (items? fuel (depth - 1) rest).map fun (items, rest) => (.array items, rest)
      | '\x7b' :: rest =>
          if depth = 0 then none
          else do
            let (pairs, rest) ← pairs? fuel (depth - 1) rest
            let fields ← Fields.inline? pairs []
            return (.table .inline fields, rest)
      | cs =>
          let chars := scalarChars cs
          (scalar? chars).map fun value => (value, cs.drop chars.length)

def items? : Nat → Nat → List Char → Option (List Value × List Char)
  | 0, _, _ => none
  | fuel + 1, depth, cs =>
      match skipLines fuel cs with
      | ']' :: rest => some ([], rest)
      | cs => do
          let (item, rest) ← value? fuel depth cs
          match skipLines fuel rest with
          | ']' :: rest => return ([item], rest)
          | ',' :: rest =>
              let (items, rest) ← items? fuel depth rest
              return (item :: items, rest)
          | _ => none

def pairs? : Nat → Nat → List Char → Option (List (Key × Value) × List Char)
  | 0, _, _ => none
  | fuel + 1, depth, cs =>
      match skipLines fuel cs with
      | '\x7d' :: rest => some ([], rest)
      | cs => do
          let (pair, rest) ← pair? fuel depth cs
          match skipLines fuel rest with
          | '\x7d' :: rest => return ([pair], rest)
          | ',' :: rest =>
              let (pairs, rest) ← pairs? fuel depth rest
              return (pair :: pairs, rest)
          | _ => none

def pair? : Nat → Nat → List Char → Option ((Key × Value) × List Char)
  | 0, _, _ => none
  | fuel + 1, depth, cs => do
      let (key, rest) ← key? fuel cs
      match rest with
      | '=' :: rest =>
          let (value, rest) ← value? fuel depth (skipBlanks rest)
          return ((key, value), rest)
      | _ => none

end

def statement? (fuel : Nat) : List Char → Option (Statement × List Char)
  | '[' :: '[' :: rest => do
      let (key, rest) ← key? fuel rest
      match rest with
      | ']' :: ']' :: rest => return (.openElement key, rest)
      | _ => none
  | '[' :: rest => do
      let (key, rest) ← key? fuel rest
      match rest with
      | ']' :: rest => return (.openTable key, rest)
      | _ => none
  | cs => do
      let ((key, value), rest) ← pair? fuel deepest cs
      return (.assign key value, rest)

def statements? : Nat → List Char → Option (List Statement)
  | 0, _ => none
  | fuel + 1, cs =>
      match skipLines fuel cs with
      | [] => some []
      | cs => do
          let (statement, rest) ← statement? fuel cs
          let rest ← endOfLine? rest
          let statements ← statements? fuel rest
          return statement :: statements

def dropByteOrderMark : List Char → List Char
  | c :: rest => if c = '\ufeff' then rest else c :: rest
  | [] => []

-- Every step but the last takes a character, so the length is fuel enough.
def ofText? (text : String) : Option Fields :=
  let cs := dropByteOrderMark text.toList
  (statements? (4 * cs.length + 8) cs).bind assemble?

end Canteen.Toml
