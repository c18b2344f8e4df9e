import Canteen.Kitchen
import Canteen.Proofs.Payload.Order
import Canteen.Proofs.Request.Address

set_option autoImplicit false

namespace Canteen.Kitchen

open Address (Splits Resolves)
open Json (Value Plain)

theorem serve_of_pieces {first second : Outgoing} (now : UInt64)
    (method : first.method = second.method) (body : first.body = second.body)
    (pieces : Address.pieces first.path.toList = Address.pieces second.path.toList) :
    serve now first = serve now second := by
  rw [serve, serve, method, body, pieces]

/-- An address keeps the pieces of the path apart and nothing else of it, and the kitchen looks at
nothing else: two paths with one address get one answer. -/
theorem address_keeps_pieces (base : String) (inset : Option String) :
    (∀ path url : String, Address.resolve base inset path = url ↔
      Resolves base.toList (inset.getD "").toList path.toList url.toList) ∧
    (∀ p q : String, Address.resolve base inset p = Address.resolve base inset q ↔
      ∃ pieces, Splits p.toList pieces ∧ Splits q.toList pieces) ∧
    ∀ (kitchen : Kitchen) (now : UInt64) (first second : Outgoing),
      Address.resolve base inset first.path = Address.resolve base inset second.path →
        first.method = second.method → first.body = second.body →
        kitchen.respond? now first = kitchen.respond? now second := by
  have apart (p q : String) : Address.resolve base inset p = Address.resolve base inset q ↔
      Address.pieces p.toList = Address.pieces q.toList := by
    rw [Address.resolve_eq_iff, Address.resolve, String.toList_ofList]
    exact Address.resolveChars_eq_iff_pieces
  refine ⟨fun path url => ?_, fun p q => ?_, fun kitchen now first second same method body => ?_⟩
  · rw [Address.resolve_eq_iff, Address.resolves_iff]
  · simp [apart, Address.splits_iff, eq_comm]
  · have served := serve_of_pieces now method body ((apart _ _).mp same)
    rw [respond?, respond?, served]

def inquiryAt (path : String) : Outgoing :=
  { method := .get, url := path, path, headers := [], body := none }

theorem address_keeps_pieces_untidy :
    Address.resolve "http://localhost:8002//" (some "/api") "//orders/42/" =
        Address.resolve "http://localhost:8002//" (some "/api") "orders//42" ∧
      respond? ⟨350, none⟩ 1700000000000 (inquiryAt "//orders/42/") =
        respond? ⟨350, none⟩ 1700000000000 (inquiryAt "orders//42") := by
  have same : Address.resolve "http://localhost:8002//" (some "/api") "//orders/42/" =
      Address.resolve "http://localhost:8002//" (some "/api") "orders//42" := by decide
  obtain ⟨-, -, answers⟩ := address_keeps_pieces "http://localhost:8002//" (some "/api")
  exact ⟨same, answers _ _ (inquiryAt "//orders/42/") (inquiryAt "orders//42") same rfl rfl⟩

theorem slash_not_mem_toString (n : Nat) : '/' ∉ (toString n).toList := by
  have spelled : (toString n).toList = Nat.toDigits 10 n := Nat.toList_repr
  rw [spelled]
  intro member
  cases Nat.isDigit_of_mem_toDigits (by decide) (by decide) member

theorem numeral?_toString (n : UInt64) : numeral? (toString n.toNat) = some n := by
  have digit : ∀ c ∈ Nat.toDigits 10 n.toNat, c.isDigit = true :=
    fun c member => Nat.isDigit_of_mem_toDigits (by decide) (by decide) member
  have spelled : (toString n.toNat).toList = Nat.toDigits 10 n.toNat := Nat.toList_repr
  have read : digits? (Nat.toDigits 10 n.toNat) = some n.toNat := by
    simpa [digits?, Nat.toDigits_ne_nil, Nat.ofDigitChars_ten_toDigits] using digit
  unfold numeral?
  rw [spelled]
  split
  next rest signed =>
    -- No digit is a plus sign.
    rw [signed] at digit
    cases digit '+' List.mem_cons_self
  next => simp [read, n.toNat_lt_size]

theorem progress?_toString (now : UInt64) :
    progress? (toString now.toNat) now = some (accepted now) := by
  have new : stage (now.toNat - now.toNat) = ⟨.queued, 12⟩ := by
    rw [Nat.sub_self]
    rfl
  simp only [progress?, numeral?_toString, Option.bind_eq_bind, Option.bind_some, new]
  rfl

theorem progress?_eq_none {id : String} (nameless : numeral? id = none) (now : UInt64) :
    progress? id now = none := by
  simp [progress?, nameless]

theorem progress?_isSome {id : String} {created : UInt64} (named : numeral? id = some created)
    (now : UInt64) : (progress? id now).isSome = true := by
  simp [progress?, named]

theorem listsItems_requestFields (order : Order.Request) :
    listsItems (some (.ofFields (Payload.requestFields order))) = !order.items.isEmpty := by
  cases shape : order.items <;>
    simp [listsItems, Payload.requestFields, shape, Value.ofFields, Value.field?, Value.array?,
      Json.Fields.ofList, Json.Fields.get?_insert]

variable {now : UInt64} {request : Outgoing} {order : Order.Request} {id : String}

theorem serve_placing (method : request.method = .post) (path : request.path = "/orders")
    (body : request.body = some (.ofFields (Payload.requestFields order)))
    (filled : order.items ≠ []) : serve now request = answer 201 (accepted now) := by
  have pieces : (Address.pieces "/orders".toList).map String.ofList = ["orders"] := by decide
  rw [serve, method, path, body, pieces]
  simp [route, takeOrder, listsItems_requestFields, filled]

theorem serve_inquiry (method : request.method = .get) (path : request.path = "/orders/" ++ id)
    (single : '/' ∉ id.toList) : serve now request = reportOrder now id := by
  have pieces : Address.pieces ("/orders/" ++ id).toList =
      "orders".toList :: if id.toList = [] then [] else [id.toList] := by
    have shape : ("/orders/" ++ id).toList = [] ++ '/' :: ("orders".toList ++ '/' :: id.toList) := by
      rw [String.toList_append]
      rfl
    rw [shape, Address.pieces_append_slash, Address.pieces_append_slash,
      Address.pieces_of_single single]
    rfl
  rw [serve, method, path, pieces]
  by_cases blank : id = ""
  · subst blank
    rfl
  · have filled : id.toList ≠ [] := by simpa using blank
    rw [if_neg filled]
    simp [route]

theorem interpret_answer {status : UInt16} (good : status < 400) (record : Order.Record) :
    (answer status record).interpret = .ok (.ofFields (Payload.recordFields record)) := by
  rw [answer, Response.interpret_json (Payload.plain_recordFields record) good,
    Payload.sorted_recordFields]

theorem interpret_complain {status : UInt16} (bad : 400 ≤ status) (authorized : status ≠ 401)
    (message : String) :
    (complain status message).interpret = .error (.rejected status (some message)) := by
  have plain : Plain Json.deepest (.ofFields [("message", .string message)]) :=
    .ofFields (by simp [Plain.string])
  rw [complain, Response.interpret_json_rejected plain bad authorized]
  rfl

theorem interpret_reportOrder (now : UInt64) (id : String) :
    (reportOrder now id).interpret =
      match progress? id now with
      | some record => .ok (.ofFields (Payload.recordFields record))
      | none => .error (.rejected 404 (some "Not found")) := by
  unfold reportOrder
  cases progress? id now with
  | some record => exact interpret_answer (by decide) record
  | none => exact interpret_complain (by decide) (by decide) "Not found"

end Canteen.Kitchen
