import Canteen.Json.Reader
import Canteen.Order

set_option autoImplicit false

namespace Canteen.Payload

open Json

def readStatus : Reader Order.Status :=
  Reader.variant Order.Status.ofText? (Order.Status.all.map (·.text))

def orderRecord : Json.Record := { name := "OrderRecord", size := 4 }

def readOrderRecord : Reader Order.Record :=
  orderRecord.read
    (fun fields => do
      let createdAt ← fields.field? "created_at" (Reader.optional Reader.word64)
      let etaMinutes ← fields.field? "eta_minutes" Reader.word32
      let orderId ← fields.field? "order_id" Reader.string
      let status ← fields.field? "status" readStatus
      return {
        orderId := ← required "order_id" orderId
        status := ← required "status" status
        etaMinutes := ← required "eta_minutes" etaMinutes
        createdAt := createdAt.join })
    (fun items => do
      return {
        orderId := ← orderRecord.item items 0 Reader.string
        status := ← orderRecord.item items 1 readStatus
        etaMinutes := ← orderRecord.item items 2 Reader.word32
        createdAt := ← Record.itemOr items 3 (Reader.optional Reader.word64) none })

def createdOrder : Json.Record := { name := "CreatedOrder", size := 4 }

-- Some kitchens send only the number of the order, which then waits in the queue.
def readCreatedOrder : Reader Order.Record :=
  createdOrder.read
    (fun fields => do
      let createdAt ← fields.field? "created_at" (Reader.optional Reader.word64)
      let etaMinutes ← fields.field? "eta_minutes" Reader.word32
      let orderId ← fields.field? "order_id" Reader.string
      let status ← fields.field? "status" readStatus
      return {
        orderId := ← required "order_id" orderId
        status := status.getD .queued
        etaMinutes := etaMinutes.getD 0
        createdAt := createdAt.join })
    (fun items => do
      return {
        orderId := ← createdOrder.item items 0 Reader.string
        status := ← Record.itemOr items 1 readStatus .queued
        etaMinutes := ← Record.itemOr items 2 Reader.word32 0
        createdAt := ← Record.itemOr items 3 (Reader.optional Reader.word64) none })

def orderItem : Json.Record := { name := "OrderItem", size := 2 }

def readEntry : Reader Order.Entry :=
  orderItem.read
    (fun fields => do
      let id ← fields.field? "id" Reader.string
      let qty ← fields.field? "qty" Reader.word32
      return { id := ← required "id" id, qty := ← required "qty" qty })
    (fun items => do
      return {
        id := ← orderItem.item items 0 Reader.string
        qty := ← orderItem.item items 1 Reader.word32 })

def orderRequest : Json.Record := { name := "OrderRequest", size := 1 }

def readOrderRequest : Reader Order.Request :=
  orderRequest.read
    (fun fields => do
      let entries ← fields.field? "items" (Reader.list readEntry)
      return { items := ← required "items" entries })
    (fun items => do
      return { items := ← orderRequest.item items 0 (Reader.list readEntry) })

def recordFields (record : Order.Record) : List (String × Value) :=
  [("order_id", .string record.orderId),
    ("status", .string record.status.text),
    ("eta_minutes", .nat record.etaMinutes.toNat)] ++
  (match record.createdAt with
    | some time => [("created_at", .nat time.toNat)]
    | none => [])

def entryFields (entry : Order.Entry) : List (String × Value) :=
  [("id", .string entry.id), ("qty", .nat entry.qty.toNat)]

def requestFields (request : Order.Request) : List (String × Value) :=
  [("items", .array (request.items.map fun entry => .object (entryFields entry)))]

end Canteen.Payload
