import LoginThrottle.Startup.Launch
import LoginThrottle.Startup.LogLine

/-!
The program. It reads its environment, logs what it does to get started, and says why it stops.
-/

set_option autoImplicit false
set_option relaxedAutoImplicit false

namespace LoginThrottle.Main

/-- The variables that the program reads. -/
def variableNames : List String :=
  Setting.all.map Setting.variableName
    ++ ["CONNECTION_CONTROL_BIND", "METRICS_ENABLED", "RUST_LOG", "LOG_FORMAT"]

def readEnvironment : IO Environment := do
  let entries ← variableNames.filterMapM fun name ↦ do
    let value? ← IO.getEnv name
    return value?.map fun value ↦ (name, Text.Utf8.encode value.toList)
  return ⟨entries⟩

def run : IO UInt32 := do
  let configuration := (← readEnvironment).configuration
  for record in configuration.shownRecords do
    IO.println (if configuration.jsonLog then record.jsonLine else record.plainLine)
  IO.eprintln ("Error: " ++ configuration.failure.message)
  return UInt32.ofNat configuration.failure.exitCode

end LoginThrottle.Main

def main : IO UInt32 :=
  LoginThrottle.Main.run
