import LoginThrottle.Record

/-!
The host that the component is loaded into, as far as the component can tell: it is asked to
register or to unregister a thing and agrees or refuses, and what it answers may depend on
everything before.
-/

set_option autoImplicit false
set_option relaxedAutoImplicit false

namespace LoginThrottle

inductive HostCall
  | register (thing : Registration)
  | unregister (thing : Registration)
  deriving DecidableEq, Repr

structure Host (σ : Type) where
  answer : HostCall → σ → Except Fault Unit × σ

namespace Host

variable {σ : Type}

def accepts (result : Except Fault Unit) : Bool :=
  result.toBool

/-- The same host, with every call kept together with whether it was agreed to, in order. -/
def recorded (host : Host σ) : Host (σ × List (HostCall × Bool)) where
  answer call state :=
    let (result, next) := host.answer call state.1
    (result, next, state.2 ++ [(call, accepts result)])

/-- Registers the things in turn up to the first that is refused; gives those that were
registered, in order. -/
def registerAll (host : Host σ) :
    List Registration → σ → (List Registration × Except Fault Unit) × σ
  | [], state => (([], .ok ()), state)
  | thing :: rest, state =>
    match host.answer (.register thing) state with
    | (.ok (), next) =>
      let ((done, result), last) := host.registerAll rest next
      ((thing :: done, result), last)
    | (.error fault, next) => (([], .error fault), next)

/-- Unregisters the things in turn, whatever the answers; gives those that were refused. -/
def unregisterAll (host : Host σ) :
    List Registration → σ → List (Registration × Fault) × σ
  | [], state => ([], state)
  | thing :: rest, state =>
    let (result, next) := host.answer (.unregister thing) state
    let (refused, last) := host.unregisterAll rest next
    match result with
    | .ok () => (refused, last)
    | .error fault => ((thing, fault) :: refused, last)

end Host

end LoginThrottle
