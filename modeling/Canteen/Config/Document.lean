import Canteen.Config
import Canteen.Toml.Document
import Canteen.Toml.Reader

set_option autoImplicit false

namespace Canteen.Config

open Toml

def readMode : Reader Mode := Reader.variant Mode.ofText? (Mode.all.map (·.text))

def readBreakdown : Reader Kitchen.Breakdown :=
  Reader.variant Kitchen.Breakdown.ofText? (Kitchen.Breakdown.all.map (·.text))

def present {α : Type} (read : Reader α) : Reader (Option α) := fun value => (read value).map some

-- The fields of every table are read in the order of their names.
def readServer : Reader ServerConfig :=
  let base : ServerConfig := {}
  record "ApiConfig"
    (fun fields => do
      let backoffMs ← fields.field "backoff_ms" Reader.word64 base.backoffMs
      let baseUrl ← fields.field "base_url" Reader.string base.baseUrl
      let mode ← fields.field "mode" readMode base.mode
      let pathInset ← fields.field "path_prefix" (present Reader.string) base.pathInset
      let retryBudget ← fields.field "retry_budget" Reader.word32 base.retryBudget
      let timeoutMs ← fields.field "timeout_ms" Reader.word64 base.timeoutMs
      return { mode, baseUrl, pathInset, timeoutMs, backoffMs, retryBudget })
    (fun items => do
      return {
        mode := ← item items 0 readMode base.mode
        baseUrl := ← item items 1 Reader.string base.baseUrl
        pathInset := ← item items 2 (present Reader.string) base.pathInset
        timeoutMs := ← item items 3 Reader.word64 base.timeoutMs
        backoffMs := ← item items 4 Reader.word64 base.backoffMs
        retryBudget := ← item items 5 Reader.word32 base.retryBudget })

def readSimulation : Reader SimulationConfig :=
  let base : SimulationConfig := {}
  record "SimulationConfig"
    (fun fields => do
      let failure ← fields.field "failure" (present readBreakdown) base.failure
      let latencyMs ← fields.field "latency_ms" Reader.word64 base.latencyMs
      return { latencyMs, failure })
    (fun items => do
      return {
        latencyMs := ← item items 0 Reader.word64 base.latencyMs
        failure := ← item items 1 (present readBreakdown) base.failure })

def readTracking : Reader TrackingConfig :=
  record "TrackingConfig"
    (fun fields => do
      return { intervalMs := ← fields.field "interval_ms" (present Reader.word64) none })
    (fun items => do return { intervalMs := ← item items 0 (present Reader.word64) none })

def readStorage : Reader StorageConfig :=
  record "StorageConfig"
    (fun fields => do return { dir := ← fields.field "dir" (present Reader.path) none })
    (fun items => do return { dir := ← item items 0 (present Reader.path) none })

def read (fields : Fields) : Except Mismatch Config := do
  let base : Config := {}
  let server ← fields.field "api" readServer base.server
  let logLevel ← fields.field "log_level" Reader.string base.logLevel
  let simulation ← fields.field "simulation" readSimulation base.simulation
  let storage ← fields.field "storage" readStorage base.storage
  let tracking ← fields.field "tracking" readTracking base.tracking
  return { logLevel, server, simulation, tracking, storage }

def ofText (text : String) : Except ConfigError Config :=
  match Toml.ofText? text with
  | none => .error .malformed
  | some fields =>
      match read fields with
      | .error mismatch => .error (.mismatch mismatch)
      | .ok config => config.validate.map fun () => config

def ofFile (contents : Option ByteArray) : Except ConfigError Config :=
  match contents.bind String.fromUTF8? with
  | none => .error .unreadable
  | some text => ofText text

end Canteen.Config
