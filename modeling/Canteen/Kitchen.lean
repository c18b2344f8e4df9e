import Canteen.Order
import Canteen.Payload.Menu
import Canteen.Payload.Order
import Canteen.Request
import Canteen.Text

set_option autoImplicit false

namespace Canteen

structure Clock where
  now : UInt64
deriving DecidableEq, Repr

namespace Clock

def set (_ : Clock) (now : UInt64) : Clock := ⟨now⟩

def nanosPerMilli : Nat := 1000000

-- The step is cut off at the largest word; the clock itself wraps.
def advance (clock : Clock) (nanos : Nat) : Clock :=
  ⟨clock.now + capped64 (nanos / nanosPerMilli)⟩

end Clock

namespace Kitchen

def digits? (cs : List Char) : Option Nat :=
  if cs.isEmpty ∨ !cs.all Char.isDigit then none else some (Nat.ofDigitChars 10 cs 0)

def numeral? (text : String) : Option UInt64 := do
  let n ← digits? (match text.toList with | '+' :: rest => rest | cs => cs)
  if n < UInt64.size then some (UInt64.ofNat n) else none

structure Stage where
  status : Order.Status
  etaMinutes : UInt32
deriving DecidableEq, Repr

def queuedFor : Nat := 8000
def inProgressUntil : Nat := 16000
def readyUntil : Nat := 24000

def stage (age : Nat) : Stage :=
  if age < queuedFor then ⟨.queued, 12⟩
  else if age < inProgressUntil then ⟨.inProgress, 8⟩
  else if age < readyUntil then ⟨.ready, 0⟩
  else ⟨.completed, 0⟩

-- The id of an order is the time at which it came in. An order from the future counts as new.
def progress? (id : String) (now : UInt64) : Option Order.Record := do
  let created ← numeral? id
  let stage := stage (now.toNat - created.toNat)
  return {
    orderId := id
    status := stage.status
    etaMinutes := stage.etaMinutes
    createdAt := some created }

end Kitchen

inductive Kitchen.Breakdown where
  | timeout
  | unauthorized
  | serverError
deriving DecidableEq, Repr

structure Kitchen where
  latency : Nat
  breakdown : Option Kitchen.Breakdown
deriving DecidableEq, Repr

namespace Kitchen

open Json

def Breakdown.text : Breakdown → String
  | .timeout => "timeout"
  | .unauthorized => "unauthorized"
  | .serverError => "server_error"

def Breakdown.all : List Breakdown := [.timeout, .unauthorized, .serverError]

def Breakdown.ofText? (text : String) : Option Breakdown := all.find? (·.text = text)

def menu : List Product := [
  { id := "1", name := "Chicken Burger", price := 120, available := true },
  { id := "2", name := "Beef Burger", price := 150, available := true },
  { id := "3", name := "French Fries", price := 60, available := false },
  { id := "4", name := "Water", price := 20, available := true }]

def complain (status : UInt16) (message : String) : Response :=
  Response.json status (.ofFields [("message", .string message)])

def notFound : Response := complain 404 "Not found"

def answer (status : UInt16) (record : Order.Record) : Response :=
  Response.json status (.ofFields (Payload.recordFields record))

def serveMenu : Response :=
  Response.json 200
    (.ofFields [("items", .array (menu.map fun product => .ofFields (Payload.productFields product)))])

def studentId? (body : Option Value) : Option String := do
  let id ← (← (← body).field? "student_id").string?
  if Text.isAllBlank id then none else some id

def signIn (body : Option Value) : Response :=
  match studentId? body with
  | some id =>
      Response.json 200 (.ofFields [
        ("access_token", .string "mock-token"),
        ("user", .ofFields [("student_id", .string id), ("name", .string "Mock User")])])
  | none => complain 400 "student_id is required"

def listsItems (body : Option Value) : Bool :=
  match (body.bind (·.field? "items")).bind Value.array? with
  | some items => !items.isEmpty
  | none => false

def accepted (now : UInt64) : Order.Record :=
  { orderId := toString now.toNat, status := .queued, etaMinutes := 12, createdAt := some now }

def takeOrder (now : UInt64) (body : Option Value) : Response :=
  if listsItems body then answer 201 (accepted now) else complain 400 "Order has no items"

def reportOrder (now : UInt64) (id : String) : Response :=
  match progress? id now with
  | some record => answer 200 record
  | none => notFound

def route (now : UInt64) (method : Method) (path : List String) (body : Option Value) : Response :=
  match method, path with
  | .post, ["login"] => signIn body
  | .get, ["menu"] => serveMenu
  | .post, ["orders"] => takeOrder now body
  | .get, ["orders", id] => reportOrder now id
  | _, _ => notFound

def serve (now : UInt64) (request : Outgoing) : Response :=
  route now request.method ((Address.pieces request.path.toList).map String.ofList) request.body

def respond? (kitchen : Kitchen) (now : UInt64) (request : Outgoing) : Option Response :=
  match kitchen.breakdown with
  | none => some (serve now request)
  | some .unauthorized => some (complain 401 "Unauthorized")
  | some .serverError => some (complain 500 "Simulated server error")
  | some .timeout => none

end Kitchen

end Canteen
