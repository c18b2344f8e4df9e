import Canteen.Binary64
import Canteen.Mismatch

set_option autoImplicit false

namespace Canteen.Toml

inductive Float where
  | finite (x : Binary64)
  | infinite (negative : Bool)
  | nan
deriving DecidableEq, Repr

def Float.text : Float → String
  | .finite x => String.ofList x.plainText
  | .infinite negative => if negative then "-inf" else "inf"
  | .nan => "NaN"

/-- How a table came about, which decides whether it may be added to: under a header of its own, on
the way to another header, by a dotted key, or written in one place. -/
inductive Origin where
  | header
  | passage
  | dotted
  | inline
deriving DecidableEq, Repr

-- What a date or a time says is not kept.
inductive Value where
  | string (s : String)
  | integer (n : Int)
  | float (x : Float)
  | bool (b : Bool)
  | datetime
  | array (items : List Value)
  | table (origin : Origin) (fields : List (String × Value))
  -- Grows by one table with every header in double brackets.
  | tables (elements : List (List (String × Value)))
deriving Repr

abbrev Fields := List (String × Value)

def Fields.get? (fields : Fields) (name : String) : Option Value := fields.lookup name

def Fields.replace (fields : Fields) (name : String) (value : Value) : Fields :=
  fields.map fun (other, old) => if other = name then (other, value) else (other, old)

def Value.kind : Value → String
  | .string _ => "string"
  | .integer _ => "integer"
  | .float _ => "float"
  | .bool _ => "boolean"
  | .datetime => "datetime"
  | .array _ => "array"
  | .table _ _ => "table"
  | .tables _ => "array"

def Value.found : Value → Found
  | .string s => .string s
  | .integer n => .integer n
  | .float x => .float x.text
  | .bool b => .boolean b
  | .datetime => .map
  | .array _ => .sequence
  | .table _ _ => .map
  | .tables _ => .sequence

end Canteen.Toml
