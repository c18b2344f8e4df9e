import Canteen.Binary64
import Canteen.Json.Value
import Canteen.Mismatch

set_option autoImplicit false

namespace Canteen.Json

def Number.found : Number → Found
  | .integer n => .integer n
  | .double x => .float (String.ofList x.dataText)

def Value.found : Value → Found
  | .null => .null
  | .bool b => .boolean b
  | .number n => n.found
  | .string s => .string s
  | .array _ => .sequence
  | .object _ => .map

abbrev Reader (α : Type) := Value → Except Mismatch α

namespace Reader

def string : Reader String
  | .string s => .ok s
  | value => .error (.wrongType value.found "a string")

def bool : Reader Bool
  | .bool b => .ok b
  | value => .error (.wrongType value.found "a boolean")

def natural (size : Nat) (wanted : String) : Reader Nat
  | .number (.integer n) =>
      if 0 ≤ n ∧ n.toNat < size then .ok n.toNat
      else .error (.wrongValue (.integer n) wanted)
  | value => .error (.wrongType value.found wanted)

def word32 : Reader UInt32 := fun value => do return UInt32.ofNat (← natural UInt32.size "u32" value)

def word64 : Reader UInt64 := fun value => do return UInt64.ofNat (← natural UInt64.size "u64" value)

def optional {α : Type} (read : Reader α) : Reader (Option α)
  | .null => .ok none
  | value => (read value).map some

def list {α : Type} (read : Reader α) : Reader (List α)
  | .array items => items.mapM read
  | value => .error (.wrongType value.found "a sequence")

def nothing : Reader Unit
  | .null => .ok ()
  | value => .error (.wrongType value.found "unit")

-- Alone, or as the only name of an object that says nothing about it.
def variant {α : Type} (ofName? : String → Option α) (known : List String) : Reader α
  | .string name => pick name
  | .object [(name, value)] => do
      let picked ← pick name
      nothing value
      return picked
  | .object _ => .error (.wrongValue .map "map with a single key")
  | value => .error (.wrongType value.found "string or map")
where
  pick (name : String) : Except Mismatch α :=
    match ofName? name with
    | some a => .ok a
    | none => .error (.unknownVariant name known)

end Reader

-- In an object by the names of the fields, in an array by their order.
structure Record where
  name : String
  size : Nat

namespace Record

def wanted (record : Record) : String := "struct " ++ record.name

def wantedArray (record : Record) : String :=
  record.wanted ++ " with " ++ toString record.size ++
    (if record.size = 1 then " element" else " elements")

variable {α : Type}

def item (record : Record) (items : List Value) (index : Nat) (read : Reader α) :
    Except Mismatch α :=
  match items[index]? with
  | some value => read value
  | none => .error (.wrongLength index record.wantedArray)

def itemOr (items : List Value) (index : Nat) (read : Reader α) (fallback : α) :
    Except Mismatch α :=
  match items[index]? with
  | some value => read value
  | none => .ok fallback

def noMore (record : Record) (items : List Value) : Except Mismatch Unit :=
  if record.size < items.length then .error (.wrongLength items.length "fewer elements in array")
  else .ok ()

def read (record : Record) (ofFields : Fields → Except Mismatch α)
    (ofItems : List Value → Except Mismatch α) : Reader α
  | .object fields => ofFields fields
  | .array items => do
      let a ← ofItems items
      record.noMore items
      return a
  | value => .error (.wrongType value.found record.wanted)

end Record

-- A field that is there is read at once; one that is not is missed only after all others are read.
def Fields.field? {α : Type} (fields : Fields) (name : String) (read : Reader α) :
    Except Mismatch (Option α) :=
  match fields.get? name with
  | some value => (read value).map some
  | none => .ok none

def required {α : Type} (name : String) : Option α → Except Mismatch α
  | some a => .ok a
  | none => .error (.missingField name)

end Canteen.Json
