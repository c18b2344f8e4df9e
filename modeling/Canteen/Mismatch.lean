import Canteen.Text

set_option autoImplicit false

namespace Canteen

inductive Found where
  | null
  | boolean (b : Bool)
  | integer (n : Int)
  | float (text : String)
  | string (s : String)
  | sequence
  | map
deriving DecidableEq, Repr

def Found.text : Found → String
  | .null => "null"
  | .boolean b => "boolean `" ++ (if b then "true" else "false") ++ "`"
  | .integer n => "integer `" ++ toString n ++ "`"
  | .float text => "floating point `" ++ text ++ "`"
  | .string s => "string " ++ Text.quoted s
  | .sequence => "sequence"
  | .map => "map"

inductive Mismatch where
  | wrongType (found : Found) (wanted : String)
  | wrongValue (found : Found) (wanted : String)
  | wrongLength (found : Nat) (wanted : String)
  | missingField (name : String)
  | unknownVariant (name : String) (known : List String)
  | noAlternative (type : String)
  | wrongShape (what : String) (found : Option String)
deriving DecidableEq, Repr

def alternatives : List String → String
  | [] => "there are no variants"
  | [one] => "expected `" ++ one ++ "`"
  | [one, two] => "expected `" ++ one ++ "` or `" ++ two ++ "`"
  | many => "expected one of " ++ ", ".intercalate (many.map fun name => "`" ++ name ++ "`")

def Mismatch.message : Mismatch → String
  | .wrongType found wanted => "invalid type: " ++ found.text ++ ", expected " ++ wanted
  | .wrongValue found wanted => "invalid value: " ++ found.text ++ ", expected " ++ wanted
  | .wrongLength found wanted => "invalid length " ++ toString found ++ ", expected " ++ wanted
  | .missingField name => "missing field `" ++ name ++ "`"
  | .unknownVariant name known => "unknown variant `" ++ name ++ "`, " ++ alternatives known
  | .noAlternative type => "data did not match any variant of untagged enum " ++ type
  | .wrongShape what none => what
  | .wrongShape what (some found) => what ++ ", found " ++ found

variable {ε δ α β : Type}

theorem bind_eq_ok {x : Except ε α} {f : α → Except ε β} {b : β} :
    x >>= f = .ok b ↔ ∃ a, x = .ok a ∧ f a = .ok b := by
  cases x with
  | error problem => simp [bind, Except.bind]
  | ok a => simp [bind, Except.bind]

theorem map_eq_ok {x : Except ε α} {f : α → β} {b : β} :
    x.map f = .ok b ↔ ∃ a, x = .ok a ∧ f a = b := by
  cases x with
  | error problem => simp [Except.map]
  | ok a => simp [Except.map]

theorem mapError_eq_ok {x : Except ε α} {f : ε → δ} {a : α} :
    x.mapError f = .ok a ↔ x = .ok a := by
  cases x with
  | error cause =>
    change (.error (f cause) : Except δ α) = .ok a ↔ _
    simp
  | ok b =>
    change (.ok b : Except δ α) = .ok a ↔ _
    simp

theorem mapError_eq_error {x : Except ε α} {f : ε → δ} {problem : δ} :
    x.mapError f = .error problem ↔ ∃ cause, x = .error cause ∧ f cause = problem := by
  cases x with
  | error cause =>
    change (.error (f cause) : Except δ α) = .error problem ↔ _
    simp
  | ok a =>
    change (.ok a : Except δ α) = .error problem ↔ _
    simp

end Canteen
