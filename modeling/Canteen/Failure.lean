import Canteen.Request
import Canteen.Store

set_option autoImplicit false

namespace Canteen

inductive CartError where
  | closed
  | dropped
deriving DecidableEq, Repr

inductive SessionError where
  | request (error : RequestError)
  | store (error : StoreError)
deriving DecidableEq, Repr

inductive Failure where
  | request (error : RequestError)
  | session (error : SessionError)
  | cart (error : CartError)
  | unavailable (product : String)
  | task (reason : String)
deriving DecidableEq, Repr

def CartError.message : CartError → String
  | .closed => "Cart actor closed"
  | .dropped => "Cart actor dropped response channel"

def SessionError.message : SessionError → String
  | .request error => error.message
  | .store error => "Could not update stored credentials: " ++ error.message

namespace Failure

def message : Failure → String
  | .request error => error.message
  | .session error => error.message
  | .cart error => "Cart unavailable: " ++ error.message
  | .unavailable product => product ++ " is unavailable"
  | .task reason => "Task failed: " ++ reason

def requiresReauth : Failure → Bool
  | .request error => error.requiresReauth
  | .session (.request error) => error.requiresReauth
  | _ => false

end Failure

end Canteen
