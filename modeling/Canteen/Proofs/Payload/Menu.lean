import Canteen.Payload.Menu
import Canteen.Proofs.Json.Reading

set_option autoImplicit false

namespace Canteen.Payload

open Json

def noMenu : Mismatch := .noAlternative "MenuResponse"

def readWrapped : Reader (List Product)
  | .object fields => do
      let items ← Fields.field? fields "items" (Reader.list readMenuItem)
      return items.getD []
  | _ => .error noMenu

def readBare : Reader (List Product) := Reader.list readMenuItem

theorem readMenu_eq_alternatives (value : Value) :
    readMenu value =
      ((readWrapped value).orElseLazy fun _ => readBare value).mapError fun _ => noMenu := by
  cases value with
  | object fields =>
    change (readWrapped (.object fields)).mapError _ = _
    cases readWrapped (.object fields) <;> rfl
  | null | bool | number | string | array => rfl

variable {fields : Fields} {items : List Value} {value : Value}

theorem readWrapped_of_items (found : fields.get? "items" = some (.array items)) :
    readWrapped (.object fields) = readBare (.array items) := by
  rw [readWrapped, Fields.field?, found]
  change ((readBare (.array items)).map some >>= _) = _
  cases readBare (.array items) <;> rfl

theorem readMenu_array (items : List Value) :
    readMenu (.array items) = (readBare (.array items)).mapError fun _ => noMenu :=
  readMenu_eq_alternatives (.array items)

theorem readMenu_of_items (found : fields.get? "items" = some (.array items)) :
    readMenu (.object fields) = readMenu (.array items) := by
  rw [readMenu_eq_alternatives, readWrapped_of_items found, readMenu_array]
  -- An object is of no other shape.
  cases readBare (.array items) <;> rfl

/-- Products in an object and bare ones are the same menu: each entry comes to one product, in the
same order, or one of them comes to none and then neither shape is a menu. Nothing else is one. -/
theorem menu_shapes_agree (items : List Value) :
    (∀ fields : Fields, fields.get? "items" = some (.array items) →
      readMenu (.object fields) = readMenu (.array items)) ∧
      (∀ products, readMenu (.array items) = .ok products ↔
        List.Forall₂ (fun item product => readMenuItem item = .ok product) items products) ∧
      (∀ mismatch, readMenu (.array items) = .error mismatch ↔
        (∃ item ∈ items, ∃ cause, readMenuItem item = .error cause) ∧ mismatch = noMenu) ∧
      ∀ value : Value, (∀ fields, value ≠ .object fields) → (∀ items, value ≠ .array items) →
        readMenu value = .error noMenu := by
  refine ⟨fun fields found => readMenu_of_items found, fun products => ?_, fun mismatch => ?_, ?_⟩
  · rw [readMenu_array, mapError_eq_ok]
    exact Reader.list_eq_ok
  · rw [readMenu_array, mapError_eq_error, ← Reader.list_eq_error, exists_and_right, eq_comm]
    rfl
  · intro value unwrapped filled
    rw [readMenu_eq_alternatives]
    cases value with
    | object fields => exact absurd rfl (unwrapped fields)
    | array items => exact absurd rfl (filled items)
    | null | bool | number | string => rfl

def drinks : List Value :=
  [.object [("id", .string "5"), ("name", .string "Tea"), ("price", .nat 15)],
    .array [.string "4", .string "Water", .nat 20, .bool false]]

def paged (items : List Value) : Fields := [("items", .array items), ("page", .nat 1)]

theorem menu_shapes_agree_paged :
    readMenu (.object (paged drinks)) = .ok [⟨"5", "Tea", 15, true⟩, ⟨"4", "Water", 20, false⟩] ∧
      readMenu (.array drinks) = .ok [⟨"5", "Tea", 15, true⟩, ⟨"4", "Water", 20, false⟩] ∧
      readMenu (.object (paged (drinks ++ [.null]))) = .error noMenu ∧
      readMenu (.array (drinks ++ [.null])) = .error noMenu ∧
      readMenu (.string "closed") = .error noMenu := by
  obtain ⟨wrapped, served, -, other⟩ := menu_shapes_agree drinks
  obtain ⟨torn, -, refused, -⟩ := menu_shapes_agree (drinks ++ [.null])
  have bare := (served [⟨"5", "Tea", 15, true⟩, ⟨"4", "Water", 20, false⟩]).mpr
    (.cons rfl (.cons rfl .nil))
  have failed := (refused noMenu).mpr ⟨⟨.null, by simp, _, rfl⟩, rfl⟩
  exact ⟨(wrapped _ rfl).trans bare, bare, (torn _ rfl).trans failed, failed,
    other _ (by simp) (by simp)⟩

end Canteen.Payload
