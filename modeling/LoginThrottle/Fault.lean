import LoginThrottle.Setting
import LoginThrottle.Text.Decimal

/-!
What can go wrong, by cause. `message` is the full wording, for logs and start-up; `publicMessage`
is what an administrator is told over the network, where only a rejected value is explained and
everything else is an internal error.
-/

set_option autoImplicit false
set_option relaxedAutoImplicit false

namespace LoginThrottle

inductive Fault
  | outOfMemory (activity : String)
  | outOfRange (setting : Setting) (value : Int64)
  | inconsistent (setting : Setting) (value : Int64) (counterpart : Setting) (bound : Int64)
  | noContext
  | observerFailed (reason : String)
  | alreadyClaimed (status : StatusVariable)
  | notOwned (status : StatusVariable)
  | unknownSetting (name : String)
  | registration (step : String) (reason : String)
  deriving DecidableEq, Repr

namespace Fault

def message : Fault → String
  | outOfMemory activity => "Out of memory while " ++ activity
  | outOfRange setting value =>
    "Value " ++ Text.ofInt value.toInt ++ " is out of range for " ++ setting.name
  | inconsistent setting value counterpart bound =>
    "Value " ++ Text.ofInt value.toInt ++ " for " ++ setting.name ++ " conflicts with "
      ++ counterpart.name ++ " = " ++ Text.ofInt bound.toInt
  | noContext => "Security context is not available for this connection"
  | observerFailed reason => "Subscriber reported an error: " ++ reason
  | alreadyClaimed status => "Status variable " ++ status.name ++ " already has a producer"
  | notOwned status => "Subscriber is not the producer of status variable " ++ status.name
  | unknownSetting name => "Unknown system variable: " ++ name
  | registration step reason => "Failed to " ++ step ++ ": " ++ reason

/-- Whether the fault lies in the value or the name that was asked for. -/
def rejectsRequest : Fault → Bool
  | outOfRange .. | inconsistent .. | unknownSetting _ => true
  | _ => false

def publicMessage : Fault → String
  | outOfRange setting _ => "Value is outside the allowed range for " ++ setting.name
  | inconsistent setting _ counterpart _ =>
    setting.name ++ " must stay consistent with " ++ counterpart.name
  | unknownSetting name => "Unknown system variable '" ++ name ++ "'"
  | _ => "Internal error in connection control"

end Fault

end LoginThrottle
