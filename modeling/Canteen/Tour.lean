import Canteen.Client.Shop
import Canteen.Config.Document
import Canteen.Rehearsal.Run

set_option autoImplicit false

namespace Canteen.Tour

structure Options where
  config : Option String := none
  mode : Option String := none
  baseUrl : Option String := none
  logLevel : Option String := none
  studentId : String := "s100"
  password : String := "password"

def Options.set? (options : Options) (name value : String) : Option Options :=
  match name with
  | "-c" => some { options with config := some value }
  | "--config" => some { options with config := some value }
  | "--mode" => some { options with mode := some value }
  | "--base-url" => some { options with baseUrl := some value }
  | "--log-level" => some { options with logLevel := some value }
  | "--student-id" => some { options with studentId := value }
  | "--password" => some { options with password := value }
  | _ => none

def Options.parse? : List String → Options → Option Options
  | [], options => some options
  | name :: value :: rest, options => (options.set? name value).bind (parse? rest)
  | [_], _ => none

def configure (options : Options) (environment : Environment) (loaded : Except ConfigError Config) :
    Except ConfigError Config := do
  let config ← loaded
  let chosen : Environment :=
    { mode := options.mode <|> environment.mode
      baseUrl := options.baseUrl <|> environment.baseUrl }
  let config := { config with logLevel := options.logLevel.getD config.logLevel }
  config.applyEnvironment chosen

structure Receipt where
  user : Profile
  menuSize : Nat
  total : UInt64
  record : Order.Record

def fill (menu : List Product) : Flow (Except Failure Unit) := do
  let chosen := (menu.filter (·.available)).take 2
  for product in chosen do
    if let .error failure ← Client.addToCart product then return .error failure
  match chosen with
  | [] => return .ok ()
  | product :: _ =>
      match ← Client.mutate (.increase product.id) with
      | .error error => return .error (.cart error)
      | .ok _ => return .ok ()

def visit (config : ServerConfig) (credentials : Credentials) : Flow (Except Failure Receipt) := do
  match ← Client.signIn config credentials.studentId credentials.password with
  | .error failure => return .error failure
  | .ok user =>
      match ← Client.menu config with
      | .error error => return .error (.request error)
      | .ok menu =>
          match ← fill menu with
          | .error failure => return .error failure
          | .ok () =>
              match ← Client.total with
              | .error error => return .error (.cart error)
              | .ok total =>
                  match ← Client.placeOrder config with
                  | .error failure => return .error failure
                  | .ok record => return .ok { user, menuSize := menu.length, total, record }

abbrev Visit := Except Failure Receipt

def placed (visit : Visit) : Visit × Option String :=
  (visit, match visit with | .ok receipt => some receipt.record.orderId | .error _ => none)

def patience : Nat := 3600000

def steps (config : Config) (credentials : Credentials) : List (Rehearsal.Step Visit) :=
  [.place (placed <$> visit config.server credentials),
    .track "order" none,
    .tracker "order" (.await patience),
    .tracker "order" .journal,
    .tracker "order" .drop,
    .shutdown]

def opening : Nat := 1700000000000

def rehearse (config : Config) (credentials : Credentials) : List (Rehearsal.Outcome Visit) :=
  let world : Rehearsal.World Visit :=
    { config, shelf := { store := .empty }, server := .ofConfig config (.running opening) }
  (Rehearsal.rehearse world (steps config credentials)).results.map (·.2)

def stateLine (state : Tracking.State) : String :=
  let status := ((state.status.map Order.Status.text).getD "unknown")
  match state.error with
  | some error => status ++ " (" ++ error ++ ")"
  | none => status ++ ", " ++ toString ((state.etaMinutes.map UInt32.toNat).getD 0) ++ " min"

def receiptLines (receipt : Receipt) : List String :=
  ["Signed in: " ++ receipt.user.name ++ " (" ++ receipt.user.studentId ++ ")",
    "Menu: " ++ toString receipt.menuSize ++ " items",
    "Cart: " ++ toString receipt.total.toNat,
    "Order " ++ receipt.record.orderId ++ ": " ++ receipt.record.status.text]

structure Summary where
  lines : List String
  finished : Bool

def summarize : List (Rehearsal.Outcome Visit) → Summary
  | .report (.ok receipt) :: _ :: ending :: .journal entries :: _ =>
      let told := receiptLines receipt ++ entries.map fun (_, state) => stateLine state
      match ending with
      | .ending (some state) => ⟨told ++ ["Finished: " ++ stateLine state], true⟩
      | _ => ⟨told ++ ["Tracking of order " ++ receipt.record.orderId ++ " stopped early"], false⟩
  | .report (.error failure) :: _ => ⟨[failure.message], false⟩
  | _ => ⟨[], false⟩

def run (config : Config) (credentials : Credentials) : Summary :=
  summarize (rehearse config credentials)

end Canteen.Tour
