import Canteen.Config
import Canteen.Flow
import Canteen.Json.Reader

set_option autoImplicit false

namespace Canteen.Client

open Json

def tokenKey : String := "sc_token"

-- An empty token is no token, and so is one that cannot be read.
def token? : Cart.Lookup → Option String
  | .ok (some token) => if token.isEmpty then none else some token
  | .ok none => none
  | .error _ => none

def headers (call : Call) (token : Option String) : List Header :=
  [⟨"Accept", "application/json"⟩] ++
  (if call.body.isSome then [⟨"Content-Type", "application/json"⟩] else []) ++
  (match token with
    | some token => [⟨"Authorization", "Bearer " ++ token⟩]
    | none => [])

def outgoing (config : ServerConfig) (call : Call) (token : Option String) : Outgoing :=
  { method := call.method
    url := Address.resolve config.baseUrl config.pathInset call.path
    path := call.path
    headers := headers call token
    body := call.body }

def classify : Exchanged → Except RequestError Value
  | none => .error .timeout
  | some (.error error) => .error (.ofLink error)
  | some (.ok response) => response.interpret

-- Read anew for every attempt, so one that was deleted is not sent again.
def currentToken (call : Call) : Flow (Option String) :=
  if call.authenticated then token? <$> Flow.read tokenKey else pure none

def attempt (config : ServerConfig) (call : Call) : Flow (Except RequestError Value) := do
  let token ← currentToken call
  let exchanged ← Flow.exchange (outgoing config call token) config.timeoutMs.toNat
  return classify exchanged

def attempts (config : ServerConfig) (call : Call) : Nat → Flow (Except RequestError Value)
  | 0 => attempt config call
  | budget + 1 => do
      match ← attempt config call with
      | .ok payload => return .ok payload
      | .error error =>
          if error.isRetryable then
            Flow.pause config.backoffMs.toNat
            attempts config call budget
          else return .error error

def send (config : ServerConfig) (call : Call) : Flow (Except RequestError Value) :=
  attempts config call call.retries.toNat

def decode {α : Type} (what : String) (read : Reader α) (payload : Value) :
    Except RequestError α :=
  match read payload with
  | .ok a => .ok a
  | .error mismatch => .error (.unexpected (what ++ ": " ++ mismatch.message))

def fetch {α : Type} (config : ServerConfig) (what : String) (read : Reader α) (call : Call) :
    Flow (Except RequestError α) := do
  match ← send config call with
  | .ok payload => return decode what read payload
  | .error error => return .error error

end Canteen.Client
