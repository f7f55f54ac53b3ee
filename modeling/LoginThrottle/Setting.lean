/-!
The three settings of the delay policy, under the names by which administrators address them: the
number of failures from which attempts are delayed, and the least and the greatest delay in
milliseconds. A threshold of zero switches the policy off.
-/

set_option autoImplicit false
set_option relaxedAutoImplicit false

namespace LoginThrottle

inductive Setting
  | threshold
  | minDelay
  | maxDelay
  deriving DecidableEq, Repr, Inhabited

/-- The accepted range of a setting and the value it starts with. -/
structure Bounds where
  low : Int64
  high : Int64
  default : Int64
  deriving DecidableEq

def Bounds.contains (bounds : Bounds) (value : Int64) : Bool :=
  bounds.low ≤ value && value ≤ bounds.high

namespace Setting

/-- Every setting, in the order in which they are announced and checked. -/
def all : List Setting :=
  [.threshold, .minDelay, .maxDelay]

theorem mem_all (setting : Setting) : setting ∈ all := by
  cases setting <;> decide

/-- The name under which all settings are grouped. -/
def group : String :=
  "component_connection_control"

def shortName : Setting → String
  | .threshold => "failed_connections_threshold"
  | .minDelay => "min_connection_delay"
  | .maxDelay => "max_connection_delay"

/-- The name that output uses: the group, a dot and the short name. -/
def name (setting : Setting) : String :=
  group ++ "." ++ setting.shortName

def description : Setting → String
  | .threshold => "Failed connection threshold to trigger delay. Default is 3."
  | .minDelay => "Minimum delay in msec to be introduced. Default is 1000."
  | .maxDelay => "Maximum delay in msec to be introduced. Default is 2147483647."

/-- No delay bound may be less. -/
def shortestDelay : Int64 :=
  1000

/-- No delay bound may be greater. -/
def longestDelay : Int64 :=
  2147483647

def bounds : Setting → Bounds
  | .threshold => ⟨0, 2147483647, 3⟩
  | .minDelay => ⟨shortestDelay, longestDelay, 1000⟩
  | .maxDelay => ⟨shortestDelay, longestDelay, 2147483647⟩

end Setting

/-- The one count that the policy publishes: how many attempts it has delayed. -/
inductive StatusVariable
  | delayGenerated
  deriving DecidableEq, Repr, Inhabited

def StatusVariable.name : StatusVariable → String
  | .delayGenerated => "Component_connection_control_delay_generated"

end LoginThrottle
