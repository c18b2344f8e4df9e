set_option autoImplicit false

namespace Canteen.Toml

-- Of the controls only the tab may stand as itself.
def isPlain (c : Char) : Bool := c == '\t' || (' ' ≤ c && c != '\x7f')

def isBlank (c : Char) : Bool := c == ' ' || c == '\t'

def skipBlanks (cs : List Char) : List Char := cs.dropWhile isBlank

def newline? : List Char → Option (List Char)
  | '\n' :: rest => some rest
  | '\r' :: '\n' :: rest => some rest
  | _ => none

def skipComment : List Char → List Char
  | '#' :: rest => rest.dropWhile isPlain
  | cs => cs

def endOfLine? (cs : List Char) : Option (List Char) :=
  match skipComment (skipBlanks cs) with
  | [] => some []
  | rest => newline? rest

-- A comment has to end with its line.
def skipLines : Nat → List Char → List Char
  | 0, cs => cs
  | fuel + 1, cs =>
      let rest := skipComment (skipBlanks cs)
      match newline? rest with
      | some rest => skipLines fuel rest
      | none => rest

def hexValue? (c : Char) : Option Nat :=
  if c.isDigit then some (c.toNat - '0'.toNat)
  else if 'a' ≤ c ∧ c ≤ 'f' then some (c.toNat - 'a'.toNat + 10)
  else if 'A' ≤ c ∧ c ≤ 'F' then some (c.toNat - 'A'.toNat + 10)
  else none

def character? (count : Nat) (cs : List Char) : Option (Char × List Char) := do
  let digits := cs.take count
  if digits.length < count then none
  else
    let n ← digits.foldlM (fun n c => (hexValue? c).map (n * 16 + ·)) 0
    if n.isValidChar then some (Char.ofNat n, cs.drop count) else none

def escape? : List Char → Option (Char × List Char)
  | 'b' :: rest => some ('\x08', rest)
  | 't' :: rest => some ('\t', rest)
  | 'n' :: rest => some ('\n', rest)
  | 'f' :: rest => some ('\x0c', rest)
  | 'r' :: rest => some ('\r', rest)
  | 'e' :: rest => some ('\x1b', rest)
  | '"' :: rest => some ('"', rest)
  | '\\' :: rest => some ('\\', rest)
  | 'x' :: rest => character? 2 rest
  | 'u' :: rest => character? 4 rest
  | 'U' :: rest => character? 8 rest
  | _ => none

def basic? : Nat → List Char → Option (List Char × List Char)
  | 0, _ => none
  | _, [] => none
  | _, '"' :: rest => some ([], rest)
  | fuel + 1, '\\' :: rest => do
      let (c, rest) ← escape? rest
      let (text, rest) ← basic? fuel rest
      return (c :: text, rest)
  | fuel + 1, c :: rest =>
      if isPlain c then do
        let (text, rest) ← basic? fuel rest
        return (c :: text, rest)
      else none

def literal? (cs : List Char) : Option (List Char × List Char) :=
  let text := cs.takeWhile fun c => isPlain c && c != '\''
  match cs.drop text.length with
  | '\'' :: rest => some (text, rest)
  | _ => none

-- Up to two more quotes just before the closing three belong to the string.
def closing? (quote : Char) (cs : List Char) : Option (List Char × List Char) :=
  let run := min (cs.takeWhile (· == quote)).length 5
  if run < 3 then none else some (List.replicate (run - 3) quote, cs.drop run)

def dropNewline (cs : List Char) : List Char := (newline? cs).getD cs

def continuation? (cs : List Char) : Option (List Char) :=
  (newline? (skipBlanks cs)).map fun rest => rest.dropWhile fun c => isBlank c || c == '\n' || c == '\r'

def longBasic? : Nat → List Char → Option (List Char × List Char)
  | 0, _ => none
  | fuel + 1, cs =>
      match closing? '"' cs with
      | some ending => some ending
      | none =>
          match cs with
          | [] => none
          | '\\' :: rest =>
              match continuation? rest with
              | some rest => longBasic? fuel rest
              | none => do
                  let (c, rest) ← escape? rest
                  let (text, rest) ← longBasic? fuel rest
                  return (c :: text, rest)
          | '\r' :: '\n' :: rest => do
              let (text, rest) ← longBasic? fuel rest
              return ('\r' :: '\n' :: text, rest)
          | c :: rest =>
              if isPlain c ∨ c = '\n' then do
                let (text, rest) ← longBasic? fuel rest
                return (c :: text, rest)
              else none

def longLiteral? : Nat → List Char → Option (List Char × List Char)
  | 0, _ => none
  | fuel + 1, cs =>
      match closing? '\'' cs with
      | some ending => some ending
      | none =>
          match cs with
          | [] => none
          | '\r' :: '\n' :: rest => do
              let (text, rest) ← longLiteral? fuel rest
              return ('\r' :: '\n' :: text, rest)
          | c :: rest =>
              if isPlain c ∨ c = '\n' then do
                let (text, rest) ← longLiteral? fuel rest
                return (c :: text, rest)
              else none

def string? (fuel : Nat) : List Char → Option (List Char × List Char)
  | '"' :: '"' :: '"' :: rest => longBasic? fuel (dropNewline rest)
  | '\'' :: '\'' :: '\'' :: rest => longLiteral? fuel (dropNewline rest)
  | '"' :: rest => basic? fuel rest
  | '\'' :: rest => literal? rest
  | _ => none

end Canteen.Toml
