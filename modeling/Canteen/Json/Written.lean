set_option autoImplicit false

namespace Canteen.Json

/-- One character of a string as written: itself, or the number of a UTF-16 unit. -/
inductive Glyph where
  | plain (c : Char)
  | unit (code : Nat)
deriving DecidableEq, Repr

structure Exponent where
  negative : Bool
  digits : List Char
deriving DecidableEq, Repr

structure Numeral where
  negative : Bool
  whole : List Char
  fraction : List Char
  exponent : Option Exponent
deriving DecidableEq, Repr

/-- A JSON text as written: repeated names, their order, and every numeral are still there. -/
inductive Written where
  | null
  | bool (b : Bool)
  | number (n : Numeral)
  | string (glyphs : List Glyph)
  | array (items : List Written)
  | object (members : List (List Glyph × Written))
deriving Repr

def isSpace (c : Char) : Bool := c = ' ' || c = '\t' || c = '\n' || c = '\r'

def skipSpace (cs : List Char) : List Char := cs.dropWhile isSpace

def hexValue? (c : Char) : Option Nat :=
  if c.isDigit then some (c.toNat - '0'.toNat)
  else if 'a' ≤ c ∧ c ≤ 'f' then some (c.toNat - 'a'.toNat + 10)
  else if 'A' ≤ c ∧ c ≤ 'F' then some (c.toNat - 'A'.toNat + 10)
  else none

def escaped? : Char → Option Char
  | '"' => some '"'
  | '\\' => some '\\'
  | '/' => some '/'
  | 'b' => some '\x08'
  | 'f' => some '\x0c'
  | 'n' => some '\n'
  | 'r' => some '\r'
  | 't' => some '\t'
  | _ => none

def glyphs? : List Char → Option (List Glyph × List Char)
  | [] => none
  | '"' :: rest => some ([], rest)
  | '\\' :: 'u' :: a :: b :: c :: d :: rest => do
      let high := (← hexValue? a) * 16 + (← hexValue? b)
      let low := (← hexValue? c) * 16 + (← hexValue? d)
      let (glyphs, rest) ← glyphs? rest
      return (.unit (high * 256 + low) :: glyphs, rest)
  | '\\' :: c :: rest => do
      let plain ← escaped? c
      let (glyphs, rest) ← glyphs? rest
      return (.plain plain :: glyphs, rest)
  | c :: rest =>
      if c < ' ' ∨ c = '\\' then none
      else do
        let (glyphs, rest) ← glyphs? rest
        return (.plain c :: glyphs, rest)

def digits? (cs : List Char) : Option (List Char × List Char) :=
  let digits := cs.takeWhile Char.isDigit
  if digits.isEmpty then none else some (digits, cs.dropWhile Char.isDigit)

def whole? (cs : List Char) : Option (List Char × List Char) :=
  match digits? cs with
  | some ('0' :: _ :: _, _) => none
  | found => found

def fraction? : List Char → Option (List Char × List Char)
  | '.' :: rest => digits? rest
  | rest => some ([], rest)

def exponent? : List Char → Option (Option Exponent × List Char)
  | c :: rest =>
      if c = 'e' ∨ c = 'E' then
        let (negative, rest) :=
          match rest with
          | '-' :: rest => (true, rest)
          | '+' :: rest => (false, rest)
          | rest => (false, rest)
        (digits? rest).map fun (digits, rest) => (some ⟨negative, digits⟩, rest)
      else some (none, c :: rest)
  | [] => some (none, [])

def numeral? (cs : List Char) : Option (Numeral × List Char) := do
  let (negative, cs) :=
    match cs with
    | '-' :: rest => (true, rest)
    | cs => (false, cs)
  let (whole, cs) ← whole? cs
  let (fraction, cs) ← fraction? cs
  let (exponent, cs) ← exponent? cs
  return (⟨negative, whole, fraction, exponent⟩, cs)

mutual

def written? : Nat → List Char → Option (Written × List Char)
  | 0, _ => none
  | fuel + 1, cs =>
      match skipSpace cs with
      | 'n' :: 'u' :: 'l' :: 'l' :: rest => some (.null, rest)
      | 't' :: 'r' :: 'u' :: 'e' :: rest => some (.bool true, rest)
      | 'f' :: 'a' :: 'l' :: 's' :: 'e' :: rest => some (.bool false, rest)
      | '"' :: rest => (glyphs? rest).map fun (glyphs, rest) => (.string glyphs, rest)
      | '[' :: rest =>
          match skipSpace rest with
          | ']' :: rest => some (.array [], rest)
          | _ => (items? fuel rest).map fun (items, rest) => (.array items, rest)
      | '\x7b' :: rest =>
          match skipSpace rest with
          | '\x7d' :: rest => some (.object [], rest)
          | _ => (members? fuel rest).map fun (members, rest) => (.object members, rest)
      | cs => (numeral? cs).map fun (n, rest) => (.number n, rest)

def items? : Nat → List Char → Option (List Written × List Char)
  | 0, _ => none
  | fuel + 1, cs => do
      let (item, rest) ← written? fuel cs
      match skipSpace rest with
      | ']' :: rest => return ([item], rest)
      | ',' :: rest =>
          let (items, rest) ← items? fuel rest
          return (item :: items, rest)
      | _ => none

def members? : Nat → List Char → Option (List (List Glyph × Written) × List Char)
  | 0, _ => none
  | fuel + 1, cs => do
      let (name, rest) ←
        match skipSpace cs with
        | '"' :: rest => glyphs? rest
        | _ => none
      let (item, rest) ←
        match skipSpace rest with
        | ':' :: rest => written? fuel rest
        | _ => none
      match skipSpace rest with
      | '\x7d' :: rest => return ([(name, item)], rest)
      | ',' :: rest =>
          let (members, rest) ← members? fuel rest
          return ((name, item) :: members, rest)
      | _ => none

end

-- A step that takes no character is followed by one that does: twice the length is fuel enough.
def Written.ofText? (text : String) : Option Written :=
  let cs := text.toList
  match written? (2 * cs.length + 2) cs with
  | some (tree, rest) => if (skipSpace rest).isEmpty then some tree else none
  | none => none

end Canteen.Json
