import Canteen.Toml.Value

set_option autoImplicit false

namespace Canteen.Toml

abbrev Reader (α : Type) := Value → Except Mismatch α

namespace Reader

variable {α : Type}

def text (wanted : String) : Reader String
  | .string s => .ok s
  | value => .error (.wrongType value.found wanted)

def string : Reader String := text "a string"

def path : Reader String := text "path string"

def natural (size : Nat) (wanted : String) : Reader Nat
  | .integer n =>
      if 0 ≤ n ∧ n.toNat < size then .ok n.toNat
      else .error (.wrongValue (.integer n) wanted)
  | value => .error (.wrongType value.found wanted)

def word32 : Reader UInt32 := fun value => do return UInt32.ofNat (← natural UInt32.size "u32" value)

def word64 : Reader UInt64 := fun value => do return UInt64.ofNat (← natural UInt64.size "u64" value)

def nothing : Reader Unit
  | .array [] => .ok ()
  | .array _ => .error (.wrongShape "expected empty array" none)
  | .table _ [] => .ok ()
  | .table _ _ => .error (.wrongShape "expected empty table" none)
  | .tables [] => .ok ()
  | .tables _ => .error (.wrongShape "expected empty array" none)
  | value => .error (.wrongShape "expected table" (some value.kind))

def variant (ofName? : String → Option α) (known : List String) : Reader α
  | .string name => pick name
  | .table _ [] => .error (.wrongShape "wanted exactly 1 element" (some "0 elements"))
  | .table _ [(name, value)] => do
      let picked ← pick name
      nothing value
      return picked
  | .table _ _ => .error (.wrongShape "wanted exactly 1 element, more than 1 element" none)
  | _ => .error (.wrongShape "wanted string or table" none)
where
  pick (name : String) : Except Mismatch α :=
    match ofName? name with
    | some a => .ok a
    | none => .error (.unknownVariant name known)

end Reader

variable {α : Type}

def Fields.field (fields : Fields) (name : String) (read : Reader α) (fallback : α) :
    Except Mismatch α :=
  match fields.get? name with
  | some value => read value
  | none => .ok fallback

def item (items : List Value) (index : Nat) (read : Reader α) (fallback : α) :
    Except Mismatch α :=
  match items[index]? with
  | some value => read value
  | none => .ok fallback

-- By their names in a table, by their order in an array. A date has none of the fields.
def record (name : String) (ofFields : Fields → Except Mismatch α)
    (ofItems : List Value → Except Mismatch α) : Reader α
  | .table _ fields => ofFields fields
  | .datetime => ofFields []
  | .array items => ofItems items
  | .tables elements => ofItems (elements.map (.table .header))
  | value => .error (.wrongType value.found ("struct " ++ name))

end Canteen.Toml
