import LoginThrottle.Ledger
import LoginThrottle.Record

/-!
The delay policy. An account with as many failures as the threshold is held back for a second, and
for a second more with each further failure, within the two delay bounds; where those are the
wrong way round the greatest delay wins. The delay is decided on before the outcome of the attempt
is looked at, so a successful login is held back as well. The outcome is applied after the wait,
however that ends: a failure is counted, and a success forgets the account. The policy keeps
limits of its own and judges a new delay bound by itself.
-/

set_option autoImplicit false
set_option relaxedAutoImplicit false

namespace LoginThrottle

namespace Settings

def isDisabled (limits : Settings) : Bool :=
  limits.threshold ≤ 0

/-- The failures as a signed word, if there are not too many for one. -/
def signedCount? (failures : UInt64) : Option Int64 :=
  Word.narrow? failures.toNat

/-- The delay in milliseconds before the bounds are applied, if every step of it fits a word. -/
def proposal? (limits : Settings) (failures : UInt64) : Option Int64 := do
  let count ← signedCount? failures
  let next ← Word.add? count 1
  let beyond ← Word.sub? next limits.threshold
  Word.mul? beyond 1000

/-- The delay in milliseconds. The greatest delay stands in for a proposal that cannot be computed
or is negative. -/
def waitTime (limits : Settings) (failures : UInt64) : UInt64 :=
  Word.toUnsigned <|
    match limits.proposal? failures with
    | some delay =>
      if 0 ≤ delay then min (max delay limits.minDelay) limits.maxDelay else limits.maxDelay
    | none => limits.maxDelay

/-- Whether an account with this many failures is held back. -/
def triggers (limits : Settings) (failures : UInt64) : Bool :=
  !limits.isDisabled && (signedCount? failures).all fun count ↦ limits.threshold ≤ count

/-- The limits with one delay bound changed. The policy does not rely on the value having been
checked before; the threshold is no delay, and is refused. -/
def setDelay (limits : Settings) (setting : Setting) (value : Int64) : Except Fault Settings :=
  if Setting.shortestDelay ≤ value ∧ value ≤ Setting.longestDelay then
    match setting with
    | .minDelay =>
      if limits.maxDelay < value then
        .error (.inconsistent .minDelay value .maxDelay limits.maxDelay)
      else .ok { limits with minDelay := value }
    | .maxDelay =>
      if value < limits.minDelay then
        .error (.inconsistent .maxDelay value .minDelay limits.minDelay)
      else .ok { limits with maxDelay := value }
    | .threshold => .error (.unknownSetting Setting.threshold.name)
  else .error (.outOfRange setting value)

end Settings

/-- What is settled about a counted event when it arrives: the account, its failures before the
event, the threshold in force, and the delay in milliseconds if there is one. -/
structure Decision where
  key : AccountKey
  kind : EventKind
  outcome : Outcome
  failures : UInt64
  threshold : Int64
  delay? : Option UInt64
  deriving Repr

/-- What becomes of an event: it is none of the policy's business, or its account is unknown, or
it counts. -/
inductive Verdict
  | ignored
  | unidentified
  | counted (decision : Decision)
  deriving Repr

namespace Verdict

def judge (limits : Settings) (ledger : Ledger) (event : ConnectionEvent) : Verdict :=
  if !event.kind.isAuthentication || limits.isDisabled then .ignored
  else
    match event.context with
    | none => .unidentified
    | some context =>
      let key := context.accountKey
      let failures := ledger.count key
      .counted
        { key, kind := event.kind, outcome := event.outcome, failures
          threshold := limits.threshold
          delay? := if limits.triggers failures then some (limits.waitTime failures) else none }

end Verdict

namespace Decision

/-- The record of the delay, if there was one. -/
def audit? (decision : Decision) (ended : WaitEnd) : Option DelayAudit :=
  decision.delay?.map fun delay ↦
    { account := decision.key.spelling, kind := decision.kind, outcome := decision.outcome
      failures := decision.failures, threshold := decision.threshold, delay, ended }

/-- The ledger with the outcome applied. A success that had no failures before it leaves the
ledger alone. -/
def apply (decision : Decision) (ledger : Ledger) : Ledger :=
  match decision.outcome with
  | .failure => ledger.add decision.key
  | .success => if decision.failures = 0 then ledger else ledger.forget decision.key

end Decision

end LoginThrottle
