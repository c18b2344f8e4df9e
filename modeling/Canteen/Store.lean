set_option autoImplicit false

namespace Canteen

inductive FileFault where
  | nameTooLong
  | isFolder
  | notText
deriving DecidableEq, Repr

inductive StoreError where
  | invalidKey (key : String)
  | refused (reason : String)
  | file (fault : FileFault)
deriving DecidableEq, Repr

def FileFault.text : FileFault → String
  | .nameTooLong => "File name too long"
  | .isFolder => "Is a directory"
  | .notText => "stream did not contain valid UTF-8"

def StoreError.message : StoreError → String
  | .invalidKey key => "Invalid key: " ++ key
  | .refused reason => "Storage backend error: " ++ reason
  | .file fault => "Storage backend error: " ++ fault.text

namespace Store

-- Every name stands at most once.
abbrev Table (V : Type) := List (String × V)

namespace Table

variable {V : Type}

def get? (table : Table V) (name : String) : Option V := table.lookup name

def erase (table : Table V) (name : String) : Table V := table.filter (·.1 ≠ name)

def insert (table : Table V) (name : String) (value : V) : Table V :=
  (name, value) :: table.erase name

theorem get?_nil (name : String) : get? ([] : Table V) name = none := rfl

theorem get?_cons (key : String) (value : V) (rest : Table V) (name : String) :
    get? ((key, value) :: rest) name = if name = key then some value else get? rest name := by
  by_cases same : name = key
  · simp [get?, same]
  · have differ : (name == key) = false := by simpa using same
    simp [get?, List.lookup_cons, differ, same]

theorem get?_erase (table : Table V) (key name : String) :
    (table.erase key).get? name = if name = key then none else table.get? name := by
  induction table with
  | nil => simp [erase, get?_nil]
  | cons head rest ih =>
    obtain ⟨other, value⟩ := head
    simp only [erase, List.filter_cons] at ih ⊢
    by_cases dropped : other = key
    · subst dropped
      by_cases same : name = other <;> simp_all [get?_cons]
    · by_cases same : name = key <;> by_cases here : name = other <;>
        simp_all [get?_cons]

theorem get?_insert (table : Table V) (key : String) (value : V) (name : String) :
    (table.insert key value).get? name = if name = key then some value else table.get? name := by
  by_cases same : name = key <;> simp [insert, get?_cons, get?_erase, same]

end Table

inductive Node where
  | text (content : String)
  | binary
  | folder
deriving DecidableEq, Repr

def Node.ofBytes (bytes : ByteArray) : Node :=
  match String.fromUTF8? bytes with
  | some content => .text content
  | none => .binary

/-- A directory that may not be there yet, with its files by their paths, and the number of the next
temporary file. -/
structure Directory where
  root : String
  created : Bool
  nodes : Table Node
  next : Nat

namespace Directory

def missing : Directory := { root := "state", created := false, nodes := [], next := 0 }

def longestName : Nat := 255

def isKeyChar (c : Char) : Bool := c.isAlphanum || c == '_' || c == '-' || c == '.'

/-- A key is the name of its file, so it has to stay in the directory and out of hiding. -/
def isKey (key : String) : Bool :=
  !key.isEmpty && key.toList.all isKeyChar && key.toList.head? != some '.'

def front (root : String) : String :=
  if root.toList.getLast?.all (· == '/') then root else root ++ "/"

-- An absolute name takes the place of the whole path.
def pathOf (root name : String) : String :=
  if name.toList.head? = some '/' then name else front root ++ name

def temporary (key : String) (n : Nat) : String :=
  "." ++ key ++ "." ++ toString n ++ ".tmp"

def isTemporary (name : String) : Bool :=
  name.toList.head? == some '.' && name.endsWith ".tmp"

def fits (name : String) : Bool := name.utf8ByteSize ≤ longestName

def node? (dir : Directory) (name : String) : Option Node := dir.nodes.get? (pathOf dir.root name)

def put (dir : Directory) (name : String) (node : Node) : Directory :=
  { dir with nodes := dir.nodes.insert (pathOf dir.root name) node }

def remove (dir : Directory) (name : String) : Directory :=
  { dir with nodes := dir.nodes.erase (pathOf dir.root name) }

-- Nothing is looked up in a directory that is not there, so no name is too long for it.
def get (dir : Directory) (key : String) : Except StoreError (Option String) :=
  if !isKey key then .error (.invalidKey key)
  else if !dir.created then .ok none
  else if !fits key then .error (.file .nameTooLong)
  else
    match dir.node? key with
    | none => .ok none
    | some (.text content) => .ok (some content)
    | some .binary => .error (.file .notText)
    | some .folder => .error (.file .isFolder)

-- Writes a temporary file and renames it, so that no reader sees half a value.
def set (dir : Directory) (key value : String) : Except StoreError Unit × Directory :=
  if !isKey key then (.error (.invalidKey key), dir)
  else
    let scratch := temporary key dir.next
    let dir := { dir with created := true, next := dir.next + 1 }
    if !fits scratch then (.error (.file .nameTooLong), dir)
    else
      match dir.node? scratch, dir.node? key with
      | some .folder, _ => (.error (.file .isFolder), dir)
      | _, some .folder => (.error (.file .isFolder), dir.put scratch (.text value))
      | _, _ => (.ok (), (dir.remove scratch).put key (.text value))

def delete (dir : Directory) (key : String) : Except StoreError Unit × Directory :=
  if !isKey key then (.error (.invalidKey key), dir)
  else if !dir.created then (.ok (), dir)
  else if !fits key then (.error (.file .nameTooLong), dir)
  else
    match dir.node? key with
    | some .folder => (.error (.file .isFolder), dir)
    | _ => (.ok (), dir.remove key)

-- What others do to the directory.
def place (dir : Directory) (name : String) (node : Node) : Directory :=
  { dir with created := true }.put name node

def names (dir : Directory) : List String :=
  let names := dir.nodes.map fun (path, _) =>
    String.ofList (path.toList.drop (front dir.root).length)
  (names.filter (!isTemporary ·)).mergeSort

end Directory

end Store

inductive Store where
  | memory (entries : Store.Table String)
  | files (dir : Store.Directory)
  | broken

namespace Store

def empty : Store := .memory []

def outage : StoreError := .refused "store unavailable"

def get (store : Store) (key : String) : Except StoreError (Option String) :=
  match store with
  | .memory entries => .ok (entries.get? key)
  | .files dir => dir.get key
  | .broken => .error outage

def set (store : Store) (key value : String) : Except StoreError Unit × Store :=
  match store with
  | .memory entries => (.ok (), .memory (entries.insert key value))
  | .files dir => let (result, dir) := dir.set key value; (result, .files dir)
  | .broken => (.error outage, .broken)

def delete (store : Store) (key : String) : Except StoreError Unit × Store :=
  match store with
  | .memory entries => (.ok (), .memory (entries.erase key))
  | .files dir => let (result, dir) := dir.delete key; (result, .files dir)
  | .broken => (.error outage, .broken)

end Store

end Canteen
