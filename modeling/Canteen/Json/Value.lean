import Canteen.Json.Number

set_option autoImplicit false

namespace Canteen.Json

/-- A JSON value. The fields of an object stand in the order of their names, each name once. -/
inductive Value where
  | null
  | bool (b : Bool)
  | number (n : Number)
  | string (s : String)
  | array (items : List Value)
  | object (fields : List (String × Value))
deriving Repr

abbrev Fields := List (String × Value)

namespace Fields

def insert (name : String) (value : Value) : Fields → Fields
  | [] => [(name, value)]
  | (other, old) :: rest =>
      if name = other then (name, value) :: rest
      else if name < other then (name, value) :: (other, old) :: rest
      else (other, old) :: insert name value rest

def ofList (members : List (String × Value)) : Fields :=
  members.foldl (fun fields (name, value) => insert name value fields) []

def get? (fields : Fields) (name : String) : Option Value := fields.lookup name

end Fields

def Value.ofFields (members : List (String × Value)) : Value := .object (Fields.ofList members)

def Value.nat (n : Nat) : Value := .number (.integer n)

def Value.field? : Value → String → Option Value
  | .object fields, name => Fields.get? fields name
  | _, _ => none

def Value.string? : Value → Option String
  | .string s => some s
  | _ => none

def Value.bool? : Value → Option Bool
  | .bool b => some b
  | _ => none

def Value.number? : Value → Option Number
  | .number n => some n
  | _ => none

def Value.array? : Value → Option (List Value)
  | .array items => some items
  | _ => none

def isHighUnit (n : Nat) : Bool := 0xd800 ≤ n && n < 0xdc00
def isLowUnit (n : Nat) : Bool := 0xdc00 ≤ n && n < 0xe000

-- A character outside the basic plane is two units; one half alone is nothing.
def characters? : List Glyph → Option (List Char)
  | [] => some []
  | .plain c :: rest => (characters? rest).map (c :: ·)
  | .unit n :: .unit m :: rest =>
      if isHighUnit n then
        if isLowUnit m then
          (characters? rest).map
            (Char.ofNat (0x10000 + (n - 0xd800) * 0x400 + (m - 0xdc00)) :: ·)
        else none
      else if isLowUnit n then none
      else (characters? (.unit m :: rest)).map (Char.ofNat n :: ·)
  | .unit n :: rest =>
      if isHighUnit n || isLowUnit n then none
      else (characters? rest).map (Char.ofNat n :: ·)

def text? (glyphs : List Glyph) : Option String := (characters? glyphs).map String.ofList

mutual

-- Of a repeated name the last one counts.
def Written.value? (depth : Nat) : Written → Option Value
  | .null => some .null
  | .bool b => some (.bool b)
  | .number n => n.value?.map .number
  | .string glyphs => (text? glyphs).map .string
  | .array items =>
      if depth = 0 then none else (valuesOf? (depth - 1) items).map .array
  | .object members =>
      if depth = 0 then none else (fieldsOf? (depth - 1) [] members).map .object

def valuesOf? (depth : Nat) : List Written → Option (List Value)
  | [] => some []
  | item :: rest => do
      let value ← item.value? depth
      let values ← valuesOf? depth rest
      return value :: values

def fieldsOf? (depth : Nat) (fields : Fields) : List (List Glyph × Written) → Option Fields
  | [] => some fields
  | (name, item) :: rest => do
      let name ← text? name
      let value ← item.value? depth
      fieldsOf? depth (Fields.insert name value fields) rest

end

def deepest : Nat := 127

def Value.ofText? (text : String) : Option Value :=
  (Written.ofText? text).bind (Written.value? deepest)

def Value.ofBytes? (bytes : ByteArray) : Option Value :=
  (String.fromUTF8? bytes).bind Value.ofText?

theorem Value.ofBytes?_toUTF8 (text : String) : ofBytes? text.toUTF8 = ofText? text := by
  have valid : text.toUTF8.IsValidUTF8 := text.isValidUTF8
  simp only [ofBytes?, String.fromUTF8?, dif_pos valid]
  rfl

end Canteen.Json
