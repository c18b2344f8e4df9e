import Canteen.Client.Link
import Canteen.Payload.Menu
import Canteen.Payload.Order
import Canteen.Payload.Session

set_option autoImplicit false

namespace Canteen.Client

open Canteen.Cart (Line Change)
open Json

def menuCall (config : ServerConfig) : Call :=
  { method := .get, path := "/menu", retries := config.retryBudget }

def menu (config : ServerConfig) : Flow (Except RequestError (List Product)) :=
  fetch config "menu" Payload.readMenu (menuCall config)

def orderFault? (order : Order.Request) : Option RequestError :=
  if order.isEmpty then some (.invalid "Your cart is empty.")
  else
    match order.items.find? (·.qty = 0) with
    | some entry => some (.invalid ("Item " ++ entry.id ++ " has no quantity."))
    | none => none

-- Never repeated: the response to an accepted order may be lost.
def createCall (order : Order.Request) : Call :=
  { method := .post, path := "/orders", body := some (.ofFields (Payload.requestFields order))
    authenticated := true }

def createOrder (config : ServerConfig) (order : Order.Request) :
    Flow (Except RequestError Order.Record) :=
  match orderFault? order with
  | some fault => return .error fault
  | none => fetch config "order" Payload.readCreatedOrder (createCall order)

def orderCall (config : ServerConfig) (id : String) : Call :=
  { method := .get, path := "/orders/" ++ id, authenticated := true, retries := config.retryBudget }

def order (config : ServerConfig) (id : String) : Flow (Except RequestError Order.Record) :=
  fetch config "order status" Payload.readOrderRecord (orderCall config id)

def userKey : String := "sc_user"

def loginCall (credentials : Credentials) : Call :=
  { method := .post, path := "/login"
    body := some (.ofFields (Payload.credentialsFields credentials)) }

def missingCredentials : RequestError := .invalid "Student ID and password are required."

-- A failure between the two leaves a token alone.
def keep (pass : Pass) : Flow (Except SessionError Profile) := do
  match ← Flow.write tokenKey pass.token with
  | .error error => return .error (.store error)
  | .ok () =>
      match ← Flow.write userKey (Payload.profileText pass.user) with
      | .error error => return .error (.store error)
      | .ok () => return .ok pass.user

def login (config : ServerConfig) (studentId password : String) :
    Flow (Except SessionError Profile) := do
  let studentId := Text.trim studentId
  if studentId.isEmpty ∨ password.isEmpty then return .error (.request missingCredentials)
  else
    match ← fetch config "login" Payload.readPass (loginCall { studentId, password }) with
    | .error error => return .error (.request error)
    | .ok pass => keep pass

def profile? : Cart.Lookup → Option Profile
  | .ok (some raw) => Payload.profileOfText? raw
  | .ok none => none
  | .error _ => none

def currentUser : Flow (Option Profile) := profile? <$> Flow.read userKey

def signedIn : Flow Bool := (fun stored => (token? stored).isSome) <$> Flow.read tokenKey

-- Both keys are erased whatever becomes of the other; the token's failure comes first.
def forget : Flow (Except SessionError Unit) := do
  let token ← Flow.erase tokenKey
  let user ← Flow.erase userKey
  match token, user with
  | .error error, _ => return .error (.store error)
  | .ok (), .error error => return .error (.store error)
  | .ok (), .ok () => return .ok ()

def lines : Flow (Except CartError (List Line)) :=
  Except.map (·.lines) <$> Flow.ask .view

def total : Flow (Except CartError UInt64) := Except.map Cart.total <$> lines

def orderRequest : Flow (Except CartError Order.Request) := Except.map Cart.orderRequest <$> lines

def mutate (change : Change) : Flow (Except CartError (List Line)) := Flow.ask (.change change)

def hydrate : Flow (List Line) := do
  match ← Flow.ask .hydrate with
  | .ok lines => return lines
  | .error _ => return []

def addToCart (product : Product) : Flow (Except Failure (List Line)) := do
  if product.available then
    match ← mutate (.add product) with
    | .ok lines =>
        Flow.announce (.info ("Added " ++ product.name))
        return .ok lines
    | .error error => return .error (.cart error)
  else
    Flow.announce (.error (product.name ++ " is unavailable"))
    return .error (.unavailable product.name)

def settle (request : Order.Request) (record : Order.Record) :
    Flow (Except Failure Order.Record) := do
  match ← mutate (.removeOrdered request) with
  | .ok _ =>
      Flow.announce (.info "Order placed")
      return .ok record
  | .error error => return .error (.cart error)

def placeOrder (config : ServerConfig) : Flow (Except Failure Order.Record) := do
  match ← orderRequest with
  | .error error => return .error (.cart error)
  | .ok request =>
      match ← createOrder config request with
      | .ok record => settle request record
      | .error error =>
          Flow.announce (.error error.message)
          return .error (.request error)

def signIn (config : ServerConfig) (studentId password : String) :
    Flow (Except Failure Profile) := do
  match ← login config studentId password with
  | .ok user =>
      Flow.announce (.info ("Welcome, " ++ user.name))
      return .ok user
  | .error error => return .error (.session error)

def signOut : Flow (Except Failure Unit) := do
  let cleared ← mutate .clear
  match ← forget with
  | .error error => return .error (.session error)
  | .ok () =>
      match cleared with
      | .error error => return .error (.cart error)
      | .ok _ => return .ok ()

end Canteen.Client
