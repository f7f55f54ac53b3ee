import LoginThrottle.Setting.Values
import LoginThrottle.Text.Ascii
import LoginThrottle.Text.Utf8
import LoginThrottle.Word

/-!
What the program takes from its environment. A variable whose bytes are not well-formed UTF-8
counts as not set. A setting is read from a variable of its own; where that holds no integer, or
one that is too large for a word, the setting keeps the value it starts with.
-/

set_option autoImplicit false
set_option relaxedAutoImplicit false

namespace LoginThrottle

structure Environment where
  entries : List (String × List UInt8)
  deriving DecidableEq, Repr

/-- The variable that a setting is read from. -/
def Setting.variableName : Setting → String
  | .threshold => "CONNECTION_CONTROL_FAILED_CONNECTIONS_THRESHOLD"
  | .minDelay => "CONNECTION_CONTROL_MIN_CONNECTION_DELAY"
  | .maxDelay => "CONNECTION_CONTROL_MAX_CONNECTION_DELAY"

/-- Everything the program is configured by. -/
structure Configuration where
  settings : Settings
  bind : String
  metricsOn : Bool
  logFilter : String
  jsonLog : Bool
  deriving DecidableEq, Repr

def Configuration.standard : Configuration :=
  { settings := .standard, bind := "127.0.0.1:8080", metricsOn := true, logFilter := "info"
    jsonLog := false }

namespace Environment

/-- The text of a variable, if it is set to one. -/
def text? (environment : Environment) (name : String) : Option (List Char) :=
  (environment.entries.lookup name).bind Text.Utf8.decode?

def string? (environment : Environment) (name : String) : Option String :=
  (environment.text? name).map String.ofList

def value (environment : Environment) (setting : Setting) : Int64 :=
  match ((environment.text? setting.variableName).bind Text.readInt?).bind Word.narrow? with
  | some value => value
  | none => setting.bounds.default

def settings (environment : Environment) : Settings :=
  ⟨environment.value .threshold, environment.value .minDelay, environment.value .maxDelay⟩

/-- Whether a variable is set to a word, in any ASCII case. -/
def isSetTo (environment : Environment) (name word : String) : Bool :=
  (environment.text? name).any (Text.asciiSame · word.toList)

def configuration (environment : Environment) : Configuration :=
  { settings := environment.settings
    bind := (environment.string? "CONNECTION_CONTROL_BIND").getD Configuration.standard.bind
    metricsOn := !environment.isSetTo "METRICS_ENABLED" "false"
    logFilter := (environment.string? "RUST_LOG").getD Configuration.standard.logFilter
    jsonLog := environment.isSetTo "LOG_FORMAT" "json" }

end Environment

end LoginThrottle
