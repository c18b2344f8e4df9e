import Canteen.Json.Printer

set_option autoImplicit false

namespace Canteen

inductive LinkError where
  | unreachable (reason : String)
  | timedOut
deriving DecidableEq, Repr

def LinkError.message : LinkError → String
  | .unreachable reason => "Network unreachable: " ++ reason
  | .timedOut => "Request timed out"

inductive RequestError where
  | timeout
  | unreachable (reason : String)
  | unauthorized
  | rejected (status : UInt16) (message : Option String)
  | invalid (reason : String)
  | unexpected (detail : String)
deriving DecidableEq, Repr

namespace RequestError

def ofLink : LinkError → RequestError
  | .unreachable reason => .unreachable reason
  | .timedOut => .timeout

def isRetryable : RequestError → Bool
  | .timeout | .unreachable _ => true
  | .rejected status _ => 500 ≤ status
  | .unauthorized | .invalid _ | .unexpected _ => false

def requiresReauth : RequestError → Bool
  | .unauthorized => true
  | _ => false

def message : RequestError → String
  | .timeout => "The server took too long to respond."
  | .unreachable reason => "Cannot reach the server: " ++ reason
  | .unauthorized => "Your session has expired. Please sign in again."
  | .rejected _ (some text) => text
  | .rejected status none => "HTTP " ++ toString status.toNat
  | .invalid reason => reason
  | .unexpected detail => "Unexpected response from server: " ++ detail

theorem requiresReauth_iff (e : RequestError) : e.requiresReauth = true ↔ e = .unauthorized := by
  cases e <;> simp [requiresReauth]

end RequestError

inductive Method where
  | get
  | post
deriving DecidableEq, Repr

def Method.text : Method → String
  | .get => "GET"
  | .post => "POST"

structure Header where
  name : String
  value : String
deriving DecidableEq, Repr

structure Outgoing where
  method : Method
  url : String
  path : String
  headers : List Header
  body : Option Json.Value

-- Names of headers differ by more than the case of ASCII letters.
def Outgoing.header? (request : Outgoing) (name : String) : Option String :=
  (request.headers.find? fun header =>
    header.name.toList.map Char.toLower = name.toList.map Char.toLower).map (·.value)

structure Response where
  status : UInt16
  body : ByteArray

def Response.json (status : UInt16) (value : Json.Value) : Response :=
  { status, body := value.text.toUTF8 }

structure Call where
  method : Method
  path : String
  body : Option Json.Value := none
  authenticated : Bool := false
  retries : UInt32 := 0

def errorMessage (body : Json.Value) : Option String :=
  ["message", "error", "detail"].findSome? fun key => (body.field? key).bind Json.Value.string?

-- A good response without a readable payload counts as an empty one.
def Response.interpret (response : Response) : Except RequestError Json.Value :=
  let payload := Json.Value.ofBytes? response.body
  if response.status = 401 then .error .unauthorized
  else if 400 ≤ response.status then
    .error (.rejected response.status (payload.bind errorMessage))
  else .ok (payload.getD (.object []))

namespace Address

def pieces (cs : List Char) : List (List Char) :=
  (cs.splitOn '/').filter (! ·.isEmpty)

def trimEnd (cs : List Char) : List Char := (cs.reverse.dropWhile (· == '/')).reverse

def join (pieces : List (List Char)) : List Char := pieces.flatMap ('/' :: ·)

def resolveChars (base inset path : List Char) : List Char :=
  match trimEnd base ++ join (pieces inset ++ pieces path) with
  | [] => ['/']
  | url => url

def resolve (base : String) (inset : Option String) (path : String) : String :=
  String.ofList (resolveChars base.toList (inset.getD "").toList path.toList)

end Address

end Canteen
