import Canteen.Payload.Order
import Canteen.Proofs.Json.RoundTrip
import Canteen.Request

set_option autoImplicit false

namespace Canteen.Response

open Json (Value Plain)

variable {status : UInt16} {value : Value}

theorem payload_json (plain : Plain Json.deepest value) :
    Value.ofBytes? (json status value).body = some value.sorted := by
  rw [json, Value.ofBytes?_toUTF8, Json.ofText?_text plain]

theorem interpret_json (plain : Plain Json.deepest value) (good : status < 400) :
    (json status value).interpret = .ok value.sorted := by
  have code : (json status value).status = status := rfl
  have authorized : status ≠ 401 := by
    rintro rfl
    exact absurd good (by decide)
  simp [interpret, payload_json plain, code, authorized, UInt16.not_le.mpr good]

theorem interpret_json_rejected (plain : Plain Json.deepest value) (bad : 400 ≤ status)
    (authorized : status ≠ 401) :
    (json status value).interpret = .error (.rejected status (errorMessage value.sorted)) := by
  have code : (json status value).status = status := rfl
  simp [interpret, payload_json plain, code, authorized, bad]

end Canteen.Response

namespace Canteen.Json

namespace Reader

theorem word32_nat (n : UInt32) : word32 (.nat n.toNat) = .ok n := by
  have read : natural UInt32.size "u32" (.nat n.toNat) = .ok n.toNat :=
    if_pos ⟨Int.natCast_nonneg _, n.toNat_lt_size⟩
  rw [word32, read]
  exact congrArg Except.ok UInt32.ofNat_toNat

theorem word64_nat (n : UInt64) : word64 (.nat n.toNat) = .ok n := by
  have read : natural UInt64.size "u64" (.nat n.toNat) = .ok n.toNat :=
    if_pos ⟨Int.natCast_nonneg _, n.toNat_lt_size⟩
  rw [word64, read]
  exact congrArg Except.ok UInt64.ofNat_toNat

theorem list_array {α : Type} {read : Reader α} {write : α → Value}
    (reads : ∀ a, read (write a) = .ok a) (items : List α) :
    list read (.array (items.map write)) = .ok items := by
  change (items.map write).mapM read = _
  induction items with
  | nil => rfl
  | cons first rest ih =>
    rw [List.map_cons, List.mapM_cons, reads, ih]
    rfl

end Reader

theorem Fields.field?_eq_ok {α : Type} {fields : Fields} {name : String} {read : Reader α}
    {value : Value} {a : α} (found : fields.get? name = some value) (reads : read value = .ok a) :
    fields.field? name read = .ok (some a) := by
  rw [field?, found]
  exact congrArg (Except.map some) reads

theorem Fields.field?_eq_none {α : Type} {fields : Fields} {name : String} {read : Reader α}
    (missing : fields.get? name = none) : fields.field? name read = .ok none := by
  rw [field?, missing]

end Canteen.Json

namespace Canteen.Payload

open Json

theorem readEntry_entryFields (entry : Order.Entry) :
    readEntry (.object (entryFields entry)) = .ok entry := by
  have id : Fields.field? (entryFields entry) "id" Reader.string = .ok (some entry.id) :=
    Fields.field?_eq_ok rfl rfl
  have qty : Fields.field? (entryFields entry) "qty" Reader.word32 = .ok (some entry.qty) :=
    Fields.field?_eq_ok rfl (Reader.word32_nat _)
  simp only [readEntry, Record.read, id, qty]
  rfl

theorem readOrderRequest_requestFields (order : Order.Request) :
    readOrderRequest (.object (requestFields order)) = .ok order := by
  have items : Fields.field? (requestFields order) "items" (Reader.list readEntry) =
      .ok (some order.items) :=
    Fields.field?_eq_ok rfl (Reader.list_array readEntry_entryFields _)
  simp only [readOrderRequest, Record.read, items]
  rfl

structure Tells (fields : Fields) (record : Order.Record) : Prop where
  orderId : fields.get? "order_id" = some (.string record.orderId)
  status : fields.get? "status" = some (.string record.status.text)
  etaMinutes : fields.get? "eta_minutes" = some (.nat record.etaMinutes.toNat)
  createdAt : fields.get? "created_at" = record.createdAt.map fun time => .nat time.toNat

namespace Tells

variable {fields : Fields} {record : Order.Record}

theorem field_orderId (tells : Tells fields record) :
    fields.field? "order_id" Reader.string = .ok (some record.orderId) :=
  Fields.field?_eq_ok tells.orderId rfl

theorem field_status (tells : Tells fields record) :
    fields.field? "status" readStatus = .ok (some record.status) := by
  apply Fields.field?_eq_ok tells.status
  simp [Payload.readStatus, Reader.variant, Reader.variant.pick, Order.Status.ofText?_text]

theorem field_etaMinutes (tells : Tells fields record) :
    fields.field? "eta_minutes" Reader.word32 = .ok (some record.etaMinutes) :=
  Fields.field?_eq_ok tells.etaMinutes (Reader.word32_nat _)

theorem field_createdAt (tells : Tells fields record) :
    fields.field? "created_at" (Reader.optional Reader.word64) =
      .ok (record.createdAt.map some) := by
  cases created : record.createdAt with
  | none =>
    apply Fields.field?_eq_none
    rw [tells.createdAt, created]
    rfl
  | some time =>
    have found : fields.get? "created_at" = some (.nat time.toNat) := by
      rw [tells.createdAt, created]
      rfl
    apply Fields.field?_eq_ok found
    exact congrArg (Except.map some) (Reader.word64_nat time)

theorem readOrderRecord_eq (tells : Tells fields record) :
    readOrderRecord (.object fields) = .ok record := by
  simp only [Payload.readOrderRecord, Record.read, tells.field_createdAt, tells.field_etaMinutes,
    tells.field_orderId, tells.field_status]
  obtain ⟨orderId, status, etaMinutes, createdAt⟩ := record
  cases createdAt <;> rfl

theorem readCreatedOrder_eq (tells : Tells fields record) :
    readCreatedOrder (.object fields) = .ok record := by
  simp only [Payload.readCreatedOrder, Record.read, tells.field_createdAt, tells.field_etaMinutes,
    tells.field_orderId, tells.field_status]
  obtain ⟨orderId, status, etaMinutes, createdAt⟩ := record
  cases createdAt <;> rfl

end Tells

theorem tells_recordFields (record : Order.Record) :
    Tells (Fields.ofList (recordFields record)) record := by
  obtain ⟨orderId, status, etaMinutes, createdAt⟩ := record
  cases createdAt <;>
    constructor <;>
    simp [recordFields, Fields.ofList, Fields.get?_insert, Fields.get?_nil]

theorem sorted_recordFields (record : Order.Record) :
    (Value.ofFields (recordFields record)).sorted = .ofFields (recordFields record) := by
  obtain ⟨orderId, status, etaMinutes, createdAt⟩ := record
  cases createdAt <;> rfl

theorem plain_recordFields {depth : Nat} (record : Order.Record) :
    Plain (depth + 1) (.ofFields (recordFields record)) := by
  have small : record.etaMinutes.toNat < UInt64.size :=
    Nat.lt_trans record.etaMinutes.toNat_lt_size (by decide)
  apply Plain.ofFields
  cases created : record.createdAt <;>
    simp [recordFields, created, Plain.string, Plain.nat, small, UInt64.toNat_lt_size]

end Canteen.Payload
