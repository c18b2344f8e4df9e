import Canteen.Kitchen
import Canteen.Mismatch
import Canteen.Text

set_option autoImplicit false

namespace Canteen

inductive Mode where
  | simulated
  | real
deriving DecidableEq, Repr

def Mode.text : Mode → String
  | .simulated => "simulated"
  | .real => "real"

def Mode.all : List Mode := [.simulated, .real]

def Mode.ofText? (text : String) : Option Mode := all.find? (·.text = text)

structure ServerConfig where
  mode : Mode := .simulated
  baseUrl : String := "http://localhost:8002"
  pathInset : Option String := none
  timeoutMs : UInt64 := 8000
  backoffMs : UInt64 := 500
  retryBudget : UInt32 := 1
deriving DecidableEq, Repr

structure SimulationConfig where
  latencyMs : UInt64 := 350
  failure : Option Kitchen.Breakdown := none
deriving DecidableEq, Repr

structure TrackingConfig where
  intervalMs : Option UInt64 := none
deriving DecidableEq, Repr

structure StorageConfig where
  dir : Option String := none
deriving DecidableEq, Repr

structure Config where
  logLevel : String := "info"
  server : ServerConfig := {}
  simulation : SimulationConfig := {}
  tracking : TrackingConfig := {}
  storage : StorageConfig := {}
deriving DecidableEq, Repr

inductive ConfigError where
  | unreadable
  | malformed
  | mismatch (error : Mismatch)
  | invalid (reason : String)
deriving DecidableEq, Repr

def ConfigError.message : ConfigError → String
  | .unreadable => "IO error"
  | .malformed => "Configuration error: malformed document"
  | .mismatch error => "Configuration error: " ++ error.message
  | .invalid reason => "Validation error: " ++ reason

def Mode.parse (text : String) : Except ConfigError Mode :=
  let word := Text.lowerAscii (Text.trim text)
  if word = "simulated" ∨ word = "mock" then .ok .simulated
  else if word = "real" ∨ word = "live" then .ok .real
  else .error (.invalid ("Unknown API mode '" ++ word ++ "'"))

structure Environment where
  mode : Option String
  baseUrl : Option String

namespace Environment

def modeVariable : String := "ORDER_SYNC_API_MODE"
def baseUrlVariable : String := "ORDER_SYNC_API_BASE_URL"

def ofVariables (lookup : String → Option String) : Environment :=
  { mode := lookup modeVariable, baseUrl := lookup baseUrlVariable }

end Environment

namespace Config

def check (passes : Bool) (reason : String) : Except ConfigError Unit :=
  if passes then .ok () else .error (.invalid reason)

def validate (config : Config) : Except ConfigError Unit := do
  check (config.server.mode ≠ .real ∨ !Text.isAllBlank config.server.baseUrl)
    "api.base_url cannot be empty in real mode"
  check (config.server.timeoutMs ≠ 0) "api.timeout_ms must be positive"
  check (config.tracking.intervalMs ≠ some 0) "tracking.interval_ms must be positive"

def withMode (config : Config) (mode : Mode) : Config :=
  { config with server := { config.server with mode } }

def withBaseUrl (config : Config) (baseUrl : String) : Config :=
  { config with server := { config.server with baseUrl } }

def applyEnvironment (config : Config) (environment : Environment) : Except ConfigError Config := do
  let config ← match environment.mode with
    | some text => config.withMode <$> Mode.parse text
    | none => pure config
  let config := match environment.baseUrl with
    | some baseUrl => config.withBaseUrl baseUrl
    | none => config
  config.validate
  return config

def defaultInterval : Mode → UInt64
  | .simulated => 3000
  | .real => 4000

def pollInterval (config : Config) : UInt64 :=
  config.tracking.intervalMs.getD (defaultInterval config.server.mode)

def kitchen (config : Config) : Kitchen :=
  { latency := config.simulation.latencyMs.toNat, breakdown := config.simulation.failure }

theorem validate_eq_ok (config : Config) :
    config.validate = .ok () ↔
      (config.server.mode = .real → Text.isAllBlank config.server.baseUrl = false) ∧
        config.server.timeoutMs ≠ 0 ∧ config.tracking.intervalMs ≠ some 0 := by
  simp only [validate, check]
  by_cases blank : config.server.mode ≠ .real ∨ !Text.isAllBlank config.server.baseUrl <;>
    by_cases timeout : config.server.timeoutMs = 0 <;>
    by_cases interval : config.tracking.intervalMs = some 0 <;>
    simp_all [bind, Except.bind]
  · intro real
    simpa [real] using blank

end Config

end Canteen
