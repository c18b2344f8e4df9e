import Canteen.Toml.Value

set_option autoImplicit false

namespace Canteen.Toml

structure Key where
  path : List String
  name : String
deriving DecidableEq, Repr

inductive Statement where
  | assign (key : Key) (value : Value)
  | openTable (key : Key)
  | openElement (key : Key)

namespace Fields

def add? (fields : Fields) (name : String) (value : Value) : Option Fields :=
  match fields.get? name with
  | none => some (fields ++ [(name, value)])
  | some _ => none

def within? (change : Fields → Option Fields) : List String → Fields → Option Fields
  | [], fields => change fields
  | name :: rest, fields =>
      match fields.get? name with
      | none => (within? change rest []).bind fun inner => fields.add? name (.table .passage inner)
      | some (.table .inline _) => none
      | some (.table origin inner) =>
          (within? change rest inner).map fun inner => fields.replace name (.table origin inner)
      | some (.tables elements) =>
          match elements.getLast? with
          | some last =>
              (within? change rest last).map fun last =>
                fields.replace name (.tables (elements.dropLast ++ [last]))
          | none => none
      | some _ => none

-- Only tables that dotted keys have made may be entered at the end of the path; no table with a
-- header of its own may be entered at all.
def assign? (name : String) (value : Value) : List String → Fields → Option Fields
  | [], fields => fields.add? name value
  | step :: rest, fields =>
      match fields.get? step with
      | none => (assign? name value rest []).bind fun inner => fields.add? step (.table .dotted inner)
      | some (.table .dotted inner) =>
          (assign? name value rest inner).map fun inner =>
            fields.replace step (.table .dotted inner)
      | some (.table .passage inner) =>
          if rest.isEmpty then none
          else
            (assign? name value rest inner).map fun inner =>
              fields.replace step (.table .passage inner)
      | some _ => none

def openTable? (name : String) (fields : Fields) : Option Fields :=
  match fields.get? name with
  | none => fields.add? name (.table .header [])
  | some (.table .passage inner) => some (fields.replace name (.table .header inner))
  | some _ => none

def openElement? (name : String) (fields : Fields) : Option Fields :=
  match fields.get? name with
  | none => fields.add? name (.tables [[]])
  | some (.tables elements) => some (fields.replace name (.tables (elements ++ [[]])))
  | some _ => none

def inline? : List (Key × Value) → Fields → Option Fields
  | [], fields => some fields
  | (key, value) :: rest, fields =>
      (assign? key.name value key.path fields).bind (inline? rest)

end Fields

structure Draft where
  root : Fields := []
  header : List String := []

def Draft.extend? (draft : Draft) : Statement → Option Draft
  | .assign key value =>
      (Fields.within? (Fields.assign? key.name value key.path) draft.header draft.root).map
        fun root => { draft with root }
  | .openTable key =>
      (Fields.within? (Fields.openTable? key.name) key.path draft.root).map
        fun root => { root, header := key.path ++ [key.name] }
  | .openElement key =>
      (Fields.within? (Fields.openElement? key.name) key.path draft.root).map
        fun root => { root, header := key.path ++ [key.name] }

def assemble? (statements : List Statement) : Option Fields :=
  (statements.foldlM Draft.extend? {}).map (·.root)

end Canteen.Toml
