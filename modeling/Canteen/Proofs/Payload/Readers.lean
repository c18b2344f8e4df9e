import Canteen.Payload.Order
import Canteen.Proofs.Json.Reading

set_option autoImplicit false

namespace Canteen.Payload

open Json

/-- Slots that come to this record, when a status and the minutes that are not there are made up for
by these. -/
structure Fills (status : Option Order.Status) (etaMinutes : Option UInt32)
    (record : Order.Record) (slot? : String → Nat → Option Value) : Prop where
  orderId : Gets Reader.string none record.orderId (slot? "order_id" 0)
  status : Gets readStatus status record.status (slot? "status" 1)
  etaMinutes : Gets Reader.word32 etaMinutes record.etaMinutes (slot? "eta_minutes" 2)
  createdAt : Gets (Reader.optional Reader.word64) (some none) record.createdAt
    (slot? "created_at" 3)

variable {value : Value} {record : Order.Record} {status : Option Order.Status}
  {etaMinutes : Option UInt32} {slot? : String → Nat → Option Value}

theorem exists_gets_iff (slot? : String → Nat → Option Value) :
    (∃ id, Gets Reader.string none id (slot? "order_id" 0) ∧
      ∃ found, Gets readStatus status found (slot? "status" 1) ∧
        ∃ minutes, Gets Reader.word32 etaMinutes minutes (slot? "eta_minutes" 2) ∧
          ∃ time, Gets (Reader.optional Reader.word64) (some none) time (slot? "created_at" 3) ∧
            (pure ⟨id, found, minutes, time⟩ : Except Mismatch Order.Record) = .ok record) ↔
      Fills status etaMinutes record slot? := by
  constructor
  · rintro ⟨_, id, _, status, _, eta, _, createdAt, ⟨⟩⟩
    exact ⟨id, status, eta, createdAt⟩
  · rintro ⟨id, status, eta, createdAt⟩
    exact ⟨_, id, _, status, _, eta, _, createdAt, rfl⟩

theorem readOrderRecord_eq_ok :
    readOrderRecord value = .ok record ↔
      orderRecord.Suits value ∧ Fills none none record value.slot? := by
  apply Record.read_eq_ok
  · intro fields
    -- All fields are read in the order of their names before the first one is missed.
    simp only [bind_eq_ok]
    constructor
    · rintro ⟨_, createdAt, _, eta, _, id, _, status, _, hasId, _, hasStatus, _, hasEta, ⟨⟩⟩
      exact ⟨field?_required.mp ⟨_, id, hasId⟩, field?_required.mp ⟨_, status, hasStatus⟩,
        field?_required.mp ⟨_, eta, hasEta⟩, field?_join.mp ⟨_, createdAt, rfl⟩⟩
    · intro fills
      obtain ⟨_, id, hasId⟩ := field?_required.mpr fills.orderId
      obtain ⟨_, status, hasStatus⟩ := field?_required.mpr fills.status
      obtain ⟨_, eta, hasEta⟩ := field?_required.mpr fills.etaMinutes
      obtain ⟨_, createdAt, joined⟩ := field?_join.mpr fills.createdAt
      exact ⟨_, createdAt, _, eta, _, id, _, status, _, hasId, _, hasStatus, _, hasEta,
        by rw [joined]; rfl⟩
  · intro items
    simp only [bind_eq_ok, item_eq_ok, itemOr_eq_ok]
    exact exists_gets_iff (Value.array items).slot?

theorem readCreatedOrder_eq_ok :
    readCreatedOrder value = .ok record ↔
      createdOrder.Suits value ∧ Fills (some .queued) (some 0) record value.slot? := by
  apply Record.read_eq_ok
  · intro fields
    simp only [bind_eq_ok]
    constructor
    · rintro ⟨_, createdAt, _, eta, _, id, _, status, _, hasId, ⟨⟩⟩
      exact ⟨field?_required.mp ⟨_, id, hasId⟩, field?_getD.mp ⟨_, status, rfl⟩,
        field?_getD.mp ⟨_, eta, rfl⟩, field?_join.mp ⟨_, createdAt, rfl⟩⟩
    · intro fills
      obtain ⟨_, id, hasId⟩ := field?_required.mpr fills.orderId
      obtain ⟨_, status, orQueued⟩ := field?_getD.mpr fills.status
      obtain ⟨_, eta, orZero⟩ := field?_getD.mpr fills.etaMinutes
      obtain ⟨_, createdAt, joined⟩ := field?_join.mpr fills.createdAt
      exact ⟨_, createdAt, _, eta, _, id, _, status, _, hasId,
        by rw [orQueued, orZero, joined]; rfl⟩
  · intro items
    simp only [bind_eq_ok, item_eq_ok, itemOr_eq_ok]
    exact exists_gets_iff (Value.array items).slot?

theorem Fills.orElse (fills : Fills none none record slot?) :
    Fills status etaMinutes record slot? :=
  ⟨fills.orderId, fills.status.orElse, fills.etaMinutes.orElse, fills.createdAt⟩

theorem Fills.strictly (fills : Fills status etaMinutes record slot?)
    (hasStatus : slot? "status" 1 ≠ none) (hasEta : slot? "eta_minutes" 2 ≠ none) :
    Fills none none record slot? :=
  ⟨fills.orderId, fills.status.strictly hasStatus, fills.etaMinutes.strictly hasEta,
    fills.createdAt⟩

/-- Both readers of an order come to the same record. The one for a new order puts up with more in
one respect only: a status or minutes that are not there at all, and then the order waits in the
queue or takes no minutes. -/
theorem created_as_recorded (value : Value) :
    (∀ record, readOrderRecord value = .ok record → readCreatedOrder value = .ok record) ∧
      ∀ record mismatch, readCreatedOrder value = .ok record →
        readOrderRecord value = .error mismatch →
          ((∃ fields, value = .object fields) ∨ ∃ items, value = .array items) ∧
          (value.slot? "status" 1 = none ∨ value.slot? "eta_minutes" 2 = none) ∧
          (value.slot? "status" 1 = none → record.status = .queued) ∧
          (value.slot? "eta_minutes" 2 = none → record.etaMinutes = 0) := by
  constructor
  · intro record recorded
    obtain ⟨suits, fills⟩ := readOrderRecord_eq_ok.mp recorded
    exact readCreatedOrder_eq_ok.mpr ⟨suits, fills.orElse⟩
  · intro record mismatch created refused
    obtain ⟨suits, fills⟩ := readCreatedOrder_eq_ok.mp created
    refine ⟨suits.shape, ?_, ?_, ?_⟩
    · apply Classical.byContradiction
      intro present
      obtain ⟨hasStatus, hasEta⟩ := not_or.mp present
      have recorded := readOrderRecord_eq_ok.mpr ⟨suits, fills.strictly hasStatus hasEta⟩
      cases refused.symm.trans recorded
    · intro absent
      exact Gets.eq_fallback (absent ▸ fills.status)
    · intro absent
      exact Gets.eq_fallback (absent ▸ fills.etaMinutes)

def briefAnswer : Value := .array [.string "7", .string "READY"]
def fullAnswer : Value := .array [.string "7", .string "READY", .nat 0]

theorem created_as_recorded_brief :
    readCreatedOrder briefAnswer = .ok ⟨"7", .ready, 0, none⟩ ∧
      readOrderRecord briefAnswer = .error (.wrongLength 2 orderRecord.wantedArray) ∧
      (briefAnswer.slot? "status" 1 = none ∨ briefAnswer.slot? "eta_minutes" 2 = none) ∧
      readOrderRecord fullAnswer = .ok ⟨"7", .ready, 0, none⟩ ∧
      readCreatedOrder fullAnswer = .ok ⟨"7", .ready, 0, none⟩ := by
  have created : readCreatedOrder briefAnswer = .ok ⟨"7", .ready, 0, none⟩ := rfl
  have refused : readOrderRecord briefAnswer = .error (.wrongLength 2 orderRecord.wantedArray) :=
    rfl
  have recorded : readOrderRecord fullAnswer = .ok ⟨"7", .ready, 0, none⟩ := rfl
  obtain ⟨-, lenient⟩ := created_as_recorded briefAnswer
  obtain ⟨same, -⟩ := created_as_recorded fullAnswer
  obtain ⟨-, absent, -, -⟩ := lenient _ _ created refused
  exact ⟨created, refused, absent, recorded, same _ recorded⟩

end Canteen.Payload
