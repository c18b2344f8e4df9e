import Canteen.Proofs.Request.Address
import Canteen.Proofs.Store.Content

set_option autoImplicit false

namespace Canteen

namespace Store

namespace Directory

variable {dir before after : Directory} {root key other : String}

-- Whether the directory is there shows in the answer for a name that is too long, and nowhere else.
theorem get_created (sound : (files dir).Sound) (room : fits key) :
    dir.get key = { dir with created := true }.get key := by
  obtain ⟨root, created, nodes, next⟩ := dir
  cases created with
  | true => rfl
  | false =>
    obtain rfl : nodes = [] := sound rfl
    simp [get, room, node?, Table.get?_nil]

theorem set_eq_ok (valid : isKey key) (room : fits (temporary key dir.next))
    (unblocked : ∀ path, dir.nodes.get? path ≠ some .folder) (value : String) :
    (dir.set key value).1 = .ok () := by
  simp only [set, valid, room]
  split <;> simp_all [node?]

theorem delete_eq_ok (valid : isKey key) (room : fits key)
    (unblocked : ∀ path, dir.nodes.get? path ≠ some .folder) : (dir.delete key).1 = .ok () := by
  simp only [delete, valid, room]
  cases dir.created
  · rfl
  · split <;> simp_all [node?]

end Directory

inductive Call where
  | get (key : String)
  | set (key value : String)
  | delete (key : String)
deriving DecidableEq, Repr

inductive Answer where
  | found (value : Option String)
  | done
deriving DecidableEq, Repr

def Call.key : Call → String
  | .get key | .set key _ | .delete key => key

def perform (store : Store) : Call → Except StoreError Answer × Store
  | .get key => ((store.get key).map .found, store)
  | .set key value => ((store.set key value).1.map fun _ => .done, (store.set key value).2)
  | .delete key => ((store.delete key).1.map fun _ => .done, (store.delete key).2)

def answers : Store → List Call → List (Except StoreError Answer)
  | _, [] => []
  | store, call :: rest => (store.perform call).1 :: (store.perform call).2.answers rest

def Call.checked (call : Call) (answer : Except StoreError Answer) : Except StoreError Answer :=
  if Directory.isKey call.key then answer else .error (.invalidKey call.key)

def Fits : Store → Call → Prop
  | .files dir, .set key _ => Directory.fits (Directory.temporary key dir.next)
  | .files _, .get key | .files _, .delete key => Directory.fits key
  | .memory _, _ | .broken, _ => True

-- The name of a temporary file grows with its number, so a call is asked when its turn comes.
def Within : Store → List Call → Prop
  | _, [] => True
  | store, call :: rest =>
      (Directory.isKey call.key → store.Fits call) ∧ Within (store.perform call).2 rest

instance Fits.decidable : (store : Store) → (call : Call) → Decidable (store.Fits call)
  | .files dir, .set key _ =>
      inferInstanceAs (Decidable (Directory.fits (Directory.temporary key dir.next) = true))
  | .files _, .get key | .files _, .delete key =>
      inferInstanceAs (Decidable (Directory.fits key = true))
  | .memory _, _ | .broken, _ => .isTrue trivial

instance Within.decidable : (store : Store) → (calls : List Call) → Decidable (Within store calls)
  | _, [] => .isTrue trivial
  | store, call :: rest =>
      haveI := Within.decidable (store.perform call).2 rest
      inferInstanceAs (Decidable ((Directory.isKey call.key → store.Fits call) ∧
        Within (store.perform call).2 rest))

theorem perform_invalid (dir : Directory) {call : Call} (invalid : ¬Directory.isKey call.key) :
    (files dir).perform call = (.error (.invalidKey call.key), files dir) := by
  cases call <;> simp only [Call.key] at invalid <;>
    simp [perform, get, set, delete, Directory.get, Directory.set, Directory.delete, invalid,
      Call.key, Except.map]

/-- A directory beside a memory: a text for each entry whose key can be the name of a file, and no
folder. -/
inductive Mirrors : Store → Store → Prop where
  | intro {dir : Directory} {entries : Table String}
      (texts : ∀ key, Directory.isKey key → dir.node? key = (entries.get? key).map .text)
      (unblocked : ∀ path, dir.nodes.get? path ≠ some .folder)
      (sound : (files dir).Sound) : Mirrors (files dir) (memory entries)

section Mirroring

variable {dir : Directory} {entries : Table String} {key : String}

theorem Mirrors.get_eq (mirrors : Mirrors (files dir) (memory entries))
    (valid : Directory.isKey key) (room : Directory.fits key) :
    dir.get key = .ok (entries.get? key) := by
  obtain ⟨texts, -, sound⟩ := mirrors
  have text : Directory.node? { dir with created := true } key = _ := texts key valid
  rw [Directory.get_created sound room]
  simp only [Directory.get, valid, room, text]
  cases entries.get? key <;> rfl

theorem Mirrors.set (mirrors : Mirrors (files dir) (memory entries)) (valid : Directory.isKey key)
    (room : Directory.fits (Directory.temporary key dir.next)) (value : String) :
    (dir.set key value).1 = .ok () ∧
      Mirrors (files (dir.set key value).2) (memory (entries.insert key value)) := by
  obtain ⟨texts, unblocked, sound⟩ := mirrors
  have done := Directory.set_eq_ok valid room unblocked value
  obtain ⟨problem, after, failed, -⟩ | ⟨-, -, wrote⟩ :=
    Directory.set_cases dir key value
  · rw [failed] at done
    cases done
  refine ⟨done, ?_⟩
  rw [wrote]
  refine .intro (fun name named => ?_) (fun path => ?_) (fun missing => by cases missing)
  · rw [Directory.node?_put (Directory.relative_of_isKey valid) (Directory.relative_of_isKey named),
      Directory.node?_remove_temporary named, Table.get?_insert]
    split
    · rfl
    · exact texts name named
  · simp only [Directory.put, Directory.remove, Table.get?_insert, Table.get?_erase]
    split
    · simp
    split
    · simp
    · exact unblocked path

theorem Mirrors.delete (mirrors : Mirrors (files dir) (memory entries))
    (valid : Directory.isKey key) (room : Directory.fits key) :
    (dir.delete key).1 = .ok () ∧
      Mirrors (files (dir.delete key).2) (memory (entries.erase key)) := by
  obtain ⟨texts, unblocked, sound⟩ := mirrors
  have done := Directory.delete_eq_ok valid room unblocked
  obtain ⟨problem, failed⟩ | ⟨-, wiped⟩ := Directory.delete_cases sound key
  · rw [failed] at done
    cases done
  refine ⟨done, ?_⟩
  have later := sound_delete sound key
  change (files (dir.delete key).2).Sound at later
  rw [wiped] at later ⊢
  refine .intro (fun name named => ?_) (fun path => ?_) later
  · rw [Directory.node?_remove (Directory.relative_of_isKey valid)
      (Directory.relative_of_isKey named), Table.get?_erase]
    split
    · rfl
    · exact texts name named
  · simp only [Directory.remove, Table.get?_erase]
    split
    · simp
    · exact unblocked path

theorem Mirrors.congr {others : Table String} (mirrors : Mirrors (files dir) (memory entries))
    (same : ∀ name, Directory.isKey name → entries.get? name = others.get? name) :
    Mirrors (files dir) (memory others) := by
  obtain ⟨texts, unblocked, sound⟩ := mirrors
  refine .intro (fun name valid => ?_) unblocked sound
  rw [texts name valid, same name valid]

theorem Mirrors.perform_valid (mirrors : Mirrors (files dir) (memory entries)) {call : Call}
    (valid : Directory.isKey call.key) (room : (files dir).Fits call) :
    ((files dir).perform call).1 = ((memory entries).perform call).1 ∧
      Mirrors ((files dir).perform call).2 ((memory entries).perform call).2 := by
  cases call with
  | get key =>
    have found : dir.get key = .ok (entries.get? key) := mirrors.get_eq valid room
    exact ⟨congrArg (Except.map Answer.found) found, mirrors⟩
  | set key value =>
    have ⟨(done : (dir.set key value).1 = .ok ()), after⟩ := mirrors.set valid room value
    exact ⟨congrArg (Except.map fun _ => Answer.done) done, after⟩
  | delete key =>
    have ⟨(done : (dir.delete key).1 = .ok ()), after⟩ := mirrors.delete valid room
    exact ⟨congrArg (Except.map fun _ => Answer.done) done, after⟩

-- A memory takes any key, and one that is not the name of a file is out of sight of the rest.
theorem Mirrors.perform_invalid (mirrors : Mirrors (files dir) (memory entries)) {call : Call}
    (invalid : ¬Directory.isKey call.key) :
    Mirrors (files dir) ((memory entries).perform call).2 := by
  have differ {name : String} (valid : Directory.isKey name) : name ≠ call.key := by
    rintro rfl
    exact invalid valid
  cases call with
  | get key => exact mirrors
  | set key value =>
    refine mirrors.congr fun name valid => ?_
    exact ((Table.get?_insert entries key value name).trans (if_neg (differ valid))).symm
  | delete key =>
    refine mirrors.congr fun name valid => ?_
    exact ((Table.get?_erase entries key name).trans (if_neg (differ valid))).symm

theorem Mirrors.perform {store held : Store} (mirrors : Mirrors store held) {call : Call}
    (room : Directory.isKey call.key → store.Fits call) :
    (store.perform call).1 = call.checked (held.perform call).1 ∧
      Mirrors (store.perform call).2 (held.perform call).2 := by
  obtain @⟨dir, entries, texts, unblocked, sound⟩ := mirrors
  have mirrors : Mirrors (files dir) (memory entries) := .intro texts unblocked sound
  by_cases valid : Directory.isKey call.key
  · rw [Call.checked, if_pos valid]
    exact mirrors.perform_valid valid (room valid)
  · rw [Call.checked, if_neg valid, Store.perform_invalid dir valid]
    exact ⟨rfl, mirrors.perform_invalid valid⟩

end Mirroring

end Store

end Canteen
