import Mathlib.Data.List.Forall2
import Canteen.Json.Reader
import Canteen.Mismatch

set_option autoImplicit false

namespace Canteen.Json

def Value.slot? : Value → String → Nat → Option Value
  | .object fields, name, _ => Fields.get? fields name
  | .array items, _, index => items[index]?
  | _, _, _ => none

def Record.Suits (record : Record) : Value → Prop
  | .object _ => True
  | .array items => items.length ≤ record.size
  | _ => False

theorem Record.Suits.shape {record : Record} {value : Value} (suits : record.Suits value) :
    (∃ fields, value = .object fields) ∨ ∃ items, value = .array items := by
  cases value with
  | object fields => exact .inl ⟨fields, rfl⟩
  | array items => exact .inr ⟨items, rfl⟩
  | null | bool | number | string => cases suits

variable {α : Type}

/-- What is made of a slot: what the reader makes of it if it is filled, whatever the fallback, and
else the fallback, if there is one. -/
def Gets (read : Reader α) (fallback : Option α) (a : α) : Option Value → Prop
  | some value => read value = .ok a
  | none => fallback = some a

section

variable {read : Reader α} {fallback : Option α} {a : α} {slot : Option Value}

theorem Gets.orElse (gets : Gets read none a slot) : Gets read fallback a slot := by
  cases slot with
  | none => cases gets
  | some value => exact gets

theorem Gets.strictly (gets : Gets read fallback a slot) (filled : slot ≠ none) :
    Gets read none a slot := by
  cases slot with
  | none => exact absurd rfl filled
  | some value => exact gets

theorem Gets.eq_fallback {b : α} (gets : Gets read (some b) a none) : a = b :=
  (Option.some.inj gets).symm

end

variable {read : Reader α} {fields : Fields} {items : List Value} {name : String} {a b : α}

theorem field?_required :
    (∃ found, fields.field? name read = .ok found ∧ required name found = .ok a) ↔
      Gets read none a (fields.get? name) := by
  cases slot : fields.get? name with
  | none => simp [Fields.field?, slot, Gets, required]
  | some value =>
    cases result : read value <;> simp [Fields.field?, slot, Gets, result, required, Except.map]

theorem field?_getD :
    (∃ found, fields.field? name read = .ok found ∧ found.getD b = a) ↔
      Gets read (some b) a (fields.get? name) := by
  cases slot : fields.get? name with
  | none => simp [Fields.field?, slot, Gets]
  | some value => cases result : read value <;> simp [Fields.field?, slot, Gets, result, Except.map]

theorem field?_join {read : Reader (Option α)} {a : Option α} :
    (∃ found, fields.field? name read = .ok found ∧ found.join = a) ↔
      Gets read (some none) a (fields.get? name) := by
  cases slot : fields.get? name with
  | none => simp [Fields.field?, slot, Gets]
  | some value => cases result : read value <;> simp [Fields.field?, slot, Gets, result, Except.map]

theorem item_eq_ok {record : Record} {index : Nat} :
    record.item items index read = .ok a ↔ Gets read none a items[index]? := by
  cases slot : items[index]? <;> simp [Record.item, slot, Gets]

theorem itemOr_eq_ok {index : Nat} :
    Record.itemOr items index read b = .ok a ↔ Gets read (some b) a items[index]? := by
  cases slot : items[index]? <;> simp [Record.itemOr, slot, Gets]

theorem noMore_eq_ok {record : Record} :
    record.noMore items = .ok () ↔ items.length ≤ record.size := by
  by_cases surplus : record.size < items.length <;> simp [Record.noMore, surplus]
  omega

theorem Reader.list_eq_ok {as : List α} :
    list read (.array items) = .ok as ↔
      List.Forall₂ (fun item a => read item = .ok a) items as := by
  change items.mapM read = .ok as ↔ _
  induction items generalizing as with
  | nil => cases as <;> simp [pure, Except.pure]
  | cons item rest ih =>
    rw [List.mapM_cons]
    simp only [bind_eq_ok, ih]
    constructor
    · rintro ⟨a, first, others, later, ⟨⟩⟩
      exact .cons first later
    · intro each
      obtain ⟨a, others, first, later, rfl⟩ := List.forall₂_cons_left_iff.mp each
      exact ⟨a, first, others, later, rfl⟩

theorem Reader.list_eq_error :
    (∃ mismatch, list read (.array items) = .error mismatch) ↔
      ∃ item ∈ items, ∃ mismatch, read item = .error mismatch := by
  change (∃ mismatch, items.mapM read = .error mismatch) ↔ _
  induction items with
  | nil => simp [pure, Except.pure]
  | cons item rest ih =>
    rw [List.mapM_cons, List.exists_mem_cons_iff, ← ih]
    cases first : read item with
    | error mismatch => simp [bind, Except.bind]
    | ok a => cases rest.mapM read <;> simp [bind, Except.bind, pure, Except.pure]

theorem Record.read_eq_ok {record : Record} {ofFields : Fields → Except Mismatch α}
    {ofItems : List Value → Except Mismatch α} {value : Value}
    {Meets : (String → Nat → Option Value) → Prop}
    (named : ∀ fields, ofFields fields = .ok a ↔ Meets (Value.object fields).slot?)
    (placed : ∀ items, ofItems items = .ok a ↔ Meets (Value.array items).slot?) :
    record.read ofFields ofItems value = .ok a ↔ record.Suits value ∧ Meets value.slot? := by
  cases value with
  | object fields => simp [Record.read, Record.Suits, named]
  | array items =>
    simp only [Record.read, bind_eq_ok]
    constructor
    · rintro ⟨_, read, _, fits, ⟨⟩⟩
      exact ⟨noMore_eq_ok.mp fits, (placed items).mp read⟩
    · rintro ⟨suits, meets⟩
      exact ⟨_, (placed items).mpr meets, (), noMore_eq_ok.mpr suits, rfl⟩
  | null | bool | number | string => simp [Record.read, Record.Suits]

end Canteen.Json
