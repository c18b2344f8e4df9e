import Mathlib.Logic.Function.Basic
import Canteen.Store

set_option autoImplicit false

namespace Canteen

namespace Store

def updated (held : String → Option String) (key : String) (value : Option String) :
    Except StoreError Unit → String → Option String
  | .ok () => Function.update held key value
  | .error _ => held

namespace Directory

variable {dir after : Directory} {root key name other value : String} {node : Node}

theorem pathOf_of_relative (relative : name.toList.head? ≠ some '/') :
    pathOf root name = front root ++ name :=
  if_neg relative

theorem pathOf_inj (relative : name.toList.head? ≠ some '/')
    (otherRelative : other.toList.head? ≠ some '/') :
    pathOf root name = pathOf root other ↔ name = other := by
  rw [pathOf_of_relative relative, pathOf_of_relative otherRelative, ← String.toList_inj,
    String.toList_append, String.toList_append, List.append_cancel_left_eq, String.toList_inj]

theorem slash_notMem_of_isKey (valid : isKey key) : '/' ∉ key.toList := by
  intro slash
  simp only [isKey, Bool.and_eq_true, List.all_eq_true] at valid
  exact absurd (valid.1.2 '/' slash) (by decide)

theorem relative_of_isKey (valid : isKey key) : key.toList.head? ≠ some '/' :=
  fun slash => slash_notMem_of_isKey valid (List.mem_of_mem_head? slash)

theorem relative_temporary (owner : String) (n : Nat) :
    (temporary owner n).toList.head? ≠ some '/' := by
  simp [temporary]

theorem ne_temporary (valid : isKey other) (n : Nat) : other ≠ temporary key n := by
  rintro rfl
  simp [isKey, temporary] at valid

theorem fits_of_temporary {n : Nat} (room : fits (temporary key n)) : fits key := by
  simp only [fits, temporary, String.utf8ByteSize_append, decide_eq_true_eq] at room ⊢
  omega

theorem node?_put (relative : name.toList.head? ≠ some '/')
    (otherRelative : other.toList.head? ≠ some '/') :
    (dir.put name node).node? other = if other = name then some node else dir.node? other := by
  simp only [node?, put, Table.get?_insert, pathOf_inj otherRelative relative]

theorem node?_remove (relative : name.toList.head? ≠ some '/')
    (otherRelative : other.toList.head? ≠ some '/') :
    (dir.remove name).node? other = if other = name then none else dir.node? other := by
  simp only [node?, remove, Table.get?_erase, pathOf_inj otherRelative relative]

-- Temporary files are not seen by any key.
theorem node?_put_temporary (valid : isKey key) (owner : String) (n : Nat) :
    (dir.put (temporary owner n) node).node? key = dir.node? key := by
  rw [node?_put (relative_temporary owner n) (relative_of_isKey valid), if_neg (ne_temporary valid n)]

theorem node?_remove_temporary (valid : isKey key) (owner : String) (n : Nat) :
    (dir.remove (temporary owner n)).node? key = dir.node? key := by
  rw [node?_remove (relative_temporary owner n) (relative_of_isKey valid),
    if_neg (ne_temporary valid n)]

def textAt (dir : Directory) (key : String) : Option String :=
  if isKey key ∧ fits key then
    match dir.node? key with
    | some (.text content) => some content
    | _ => none
  else none

theorem textAt_congr (same : ∀ key, isKey key → after.node? key = dir.node? key) :
    textAt after = textAt dir := by
  funext key
  by_cases valid : isKey key
  · simp [textAt, same key valid]
  · simp [textAt, valid]

theorem textAt_put (valid : isKey key) (room : fits key) :
    textAt (dir.put key (.text value)) = Function.update (textAt dir) key (some value) := by
  funext other
  by_cases same : other = key
  · subst same
    simp [textAt, valid, room, node?_put, relative_of_isKey valid]
  · by_cases otherValid : isKey other
    · simp [textAt, same, node?_put, relative_of_isKey valid, relative_of_isKey otherValid]
    · simp [textAt, same, otherValid]

theorem textAt_remove (valid : isKey key) :
    textAt (dir.remove key) = Function.update (textAt dir) key none := by
  funext other
  by_cases same : other = key
  · subst same
    simp [textAt, node?_remove, relative_of_isKey valid]
  · by_cases otherValid : isKey other
    · simp [textAt, same, node?_remove, relative_of_isKey valid, relative_of_isKey otherValid]
    · simp [textAt, same, otherValid]

theorem set_cases (dir : Directory) (key value : String) :
    (∃ problem after, dir.set key value = (.error problem, after) ∧ (after = dir ∨ after.created) ∧
      ∀ name, isKey name → after.node? name = dir.node? name) ∨
    (isKey key ∧ fits (temporary key dir.next) ∧ dir.set key value =
      (.ok (), ({ dir with created := true, next := dir.next + 1 }.remove
        (temporary key dir.next)).put key (.text value))) := by
  unfold set
  dsimp only
  split
  · exact .inl ⟨_, _, rfl, .inl rfl, fun _ _ => rfl⟩
  rename_i valid
  split
  · exact .inl ⟨_, _, rfl, .inr rfl, fun _ _ => rfl⟩
  rename_i room
  split
  · exact .inl ⟨_, _, rfl, .inr rfl, fun _ _ => rfl⟩
  · exact .inl ⟨_, _, rfl, .inr rfl, fun name valid => node?_put_temporary valid key dir.next⟩
  · exact .inr ⟨by simpa using valid, by simpa using room, rfl⟩

theorem delete_cases (sound : dir.created = false → dir.nodes = []) (key : String) :
    (∃ problem, dir.delete key = (.error problem, dir)) ∨
    (isKey key ∧ dir.delete key = (.ok (), dir.remove key)) := by
  unfold delete
  split
  · exact .inl ⟨_, rfl⟩
  rename_i valid
  rw [Bool.not_eq_true, Bool.not_eq_false'] at valid
  split
  · rename_i missing
    obtain ⟨root, created, nodes, next⟩ := dir
    obtain rfl : nodes = [] := sound (by simpa using missing)
    exact .inr ⟨valid, rfl⟩
  split
  · exact .inl ⟨_, rfl⟩
  split
  · exact .inl ⟨_, rfl⟩
  · exact .inr ⟨valid, rfl⟩

theorem textAt_set (dir : Directory) (key value : String) :
    textAt (dir.set key value).2 =
      updated (textAt dir) key (some value) (dir.set key value).1 := by
  obtain ⟨problem, after, failed, -, same⟩ | ⟨valid, room, wrote⟩ := set_cases dir key value
  · rw [failed]
    exact textAt_congr same
  · rw [wrote]
    dsimp only
    rw [textAt_put valid (fits_of_temporary room)]
    refine congrArg (Function.update · key (some value)) (textAt_congr fun other valid => ?_)
    exact node?_remove_temporary valid key dir.next

theorem textAt_delete (sound : dir.created = false → dir.nodes = []) (key : String) :
    textAt (dir.delete key).2 = updated (textAt dir) key none (dir.delete key).1 := by
  obtain ⟨problem, failed⟩ | ⟨valid, wiped⟩ := delete_cases sound key
  · rw [failed]
    rfl
  · rw [wiped]
    exact textAt_remove valid

end Directory

def content (store : Store) (key : String) : Option String :=
  match store.get key with
  | .ok value => value
  | .error _ => none

def Sound : Store → Prop
  | .files dir => dir.created = false → dir.nodes = []
  | .memory _ | .broken => True

variable {store : Store} {key value : String}

theorem content_files {dir : Directory} (sound : (files dir).Sound) :
    (files dir).content = Directory.textAt dir := by
  funext key
  obtain ⟨root, created, nodes, next⟩ := dir
  by_cases valid : Directory.isKey key
  · cases created with
    | false =>
      obtain rfl : nodes = [] := sound rfl
      simp [content, get, Directory.get, Directory.textAt, Directory.node?, valid, Table.get?_nil]
    | true =>
      by_cases room : Directory.fits key
      · simp only [content, get, Directory.get, Directory.textAt, valid, room]
        cases Directory.node? _ key with
        | none => rfl
        | some node => cases node <;> rfl
      · simp [content, get, Directory.get, Directory.textAt, valid, room]
  · simp [content, get, Directory.get, Directory.textAt, valid]

theorem sound_set (sound : store.Sound) (key value : String) :
    (store.set key value).2.Sound := by
  cases store with
  | memory entries => trivial
  | broken => trivial
  | files dir =>
    change (files (dir.set key value).2).Sound
    obtain ⟨problem, after, failed, kept | made, -⟩ | ⟨-, -, wrote⟩ :=
      Directory.set_cases dir key value
    · rw [failed, kept]
      exact sound
    · rw [failed]
      exact fun missing => absurd (made.symm.trans missing) (by decide)
    · rw [wrote]
      intro missing
      cases missing

theorem sound_delete (sound : store.Sound) (key : String) : (store.delete key).2.Sound := by
  cases store with
  | memory entries => trivial
  | broken => trivial
  | files dir =>
    change (files (dir.delete key).2).Sound
    obtain ⟨problem, failed⟩ | ⟨-, wiped⟩ := Directory.delete_cases sound key
    · rw [failed]
      exact sound
    · rw [wiped]
      intro missing
      exact congrArg (Table.erase · (Directory.pathOf dir.root key)) (sound missing)

theorem content_set (sound : store.Sound) (key value : String) :
    (store.set key value).2.content =
      updated store.content key (some value) (store.set key value).1 := by
  cases store with
  | broken => rfl
  | memory entries =>
    funext other
    by_cases same : other = key <;> simp [content, get, set, updated, Table.get?_insert, same]
  | files dir =>
    have after := sound_set sound key value
    change (files (dir.set key value).2).Sound at after
    change (files (dir.set key value).2).content = updated _ _ _ (dir.set key value).1
    rw [content_files sound, content_files after, Directory.textAt_set]

theorem content_delete (sound : store.Sound) (key : String) :
    (store.delete key).2.content = updated store.content key none (store.delete key).1 := by
  cases store with
  | broken => rfl
  | memory entries =>
    funext other
    by_cases same : other = key <;> simp [content, get, delete, updated, Table.get?_erase, same]
  | files dir =>
    have after := sound_delete sound key
    change (files (dir.delete key).2).Sound at after
    change (files (dir.delete key).2).content = updated _ _ _ (dir.delete key).1
    rw [content_files sound, content_files after, Directory.textAt_delete sound]

end Store

end Canteen
