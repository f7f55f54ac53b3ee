import LoginThrottle.Delay
import LoginThrottle.Setting.Selection

/-!
Those who are told about events and about changed settings. The delay policy is one, with limits
of its own that it keeps up to date from the changes it hears of. A scripted observer notes down
what it hears, then reports a fixed list of actions on the delay counter, and then may fail.
-/

set_option autoImplicit false
set_option relaxedAutoImplicit false

namespace LoginThrottle

inductive CounterAction
  | increment
  | reset
  deriving DecidableEq, Repr

structure Script where
  label : String
  onEvent : List CounterAction
  onChange : List CounterAction
  failure? : Option String
  deriving DecidableEq, Repr

inductive Observer
  | delay (limits : Settings)
  | scripted (script : Script)
  deriving DecidableEq, Repr

/-- An observer and the settings whose changes it hears of. Every observer hears of every event. -/
structure Subscriber where
  observer : Observer
  interests : Selection
  deriving DecidableEq, Repr

/-- The entry in a scripted observer's notes. -/
inductive Sighting
  | event (label : String) (kind : EventKind) (outcome : Outcome)
  | change (label : String) (setting : Setting) (value : Int64)
  deriving DecidableEq, Repr

namespace Observer

def limits? : Observer → Option Settings
  | delay limits => some limits
  | scripted _ => none

/-- The observer with its delay policy, if it is one, switched off. -/
def disabled : Observer → Observer
  | delay limits => delay { limits with threshold := 0 }
  | scripted script => scripted script

end Observer

end LoginThrottle
