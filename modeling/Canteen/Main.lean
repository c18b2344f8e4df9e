import Canteen.Tour

set_option autoImplicit false

open Canteen

def usage : String :=
  "usage: canteen [-c FILE] [--mode simulated|real] [--base-url URL] [--log-level LEVEL] " ++
    "[--student-id ID] [--password PASSWORD]"

def loadConfig (file : Option String) : IO (Except ConfigError Config) := do
  match file with
  | none => return .ok {}
  | some file =>
      let contents ← (some <$> IO.FS.readBinFile file).catchExceptions fun _ => pure none
      return Config.ofFile contents

def main (args : List String) : IO UInt32 := do
  match Tour.Options.parse? args {} with
  | none =>
      IO.eprintln usage
      return 2
  | some options =>
      let file ← IO.getEnv "ORDER_SYNC_CONFIG"
      let environment : Environment :=
        { mode := ← IO.getEnv Environment.modeVariable
          baseUrl := ← IO.getEnv Environment.baseUrlVariable }
      match Tour.configure options environment (← loadConfig (options.config <|> file)) with
      | .error error =>
          IO.eprintln error.message
          return 1
      | .ok config =>
          let summary := Tour.run config
            { studentId := options.studentId, password := options.password }
          for line in summary.lines do IO.println line
          return if summary.finished then 0 else 1
