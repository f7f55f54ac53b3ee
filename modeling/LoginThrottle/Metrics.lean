import LoginThrottle.Component
import LoginThrottle.Metrics.Exposition
import LoginThrottle.Metrics.Traffic

/-!
The metrics of the administration server: the traffic it has seen, and gauges that show the
component as it was when they were last refreshed. The families are written in the order of their
names, and the samples of a family in the order of the values of their labels.
-/

set_option autoImplicit false
set_option relaxedAutoImplicit false

namespace LoginThrottle

/-- The delays generated, the accounts with failures, and the seconds since the start. -/
structure Gauges where
  generated : Nat
  accounts : Nat
  uptime : Float
  deriving Repr

structure Metrics where
  gauges : Gauges
  traffic : Traffic UInt64
  deriving Repr

namespace Metrics

def empty : Metrics :=
  ⟨⟨0, 0, 0⟩, .empty⟩

/-- A gauge holds a signed word. -/
def gaugeLimit : Nat :=
  Nat.pow 2 63 - 1

def refresh (metrics : Metrics) (component : Component) (uptime : Float) : Metrics :=
  { metrics with
    gauges :=
      { generated := min component.generated.toNat gaugeLimit
        accounts := min component.ledger.size gaugeLimit
        uptime } }

def record (metrics : Metrics) (served : Served) : Metrics :=
  { metrics with traffic := metrics.traffic.record served }

open Exposition

def gauge (name help value : String) : Family :=
  ⟨name, help, .gauge, [⟨name, [], value⟩]⟩

def durationName : String :=
  "http_request_duration_seconds"

/-- The samples of one histogram: its buckets, the last of them without bound, its sum and its
count. -/
def durationSamples (labels : List (String × String)) (durations : Durations) : List Sample :=
  let bucket (bound : String) (count : Nat) : Sample :=
    ⟨durationName ++ "_bucket", labels ++ [("le", bound)], Text.ofNat count⟩
  (Durations.bounds.map (·.2)).zipWith bucket durations.cumulative
    ++ [bucket "+Inf" durations.count,
      ⟨durationName ++ "_sum", labels, Text.ofFloat durations.sum⟩,
      ⟨durationName ++ "_count", labels, Text.ofNat durations.count⟩]

def durationFamily {κ : Type} (traffic : Traffic κ) : Family :=
  ⟨durationName, "Admin API request duration in seconds", .histogram,
    traffic.durations.flatMap fun series ↦
      durationSamples (["method", "route"].zip series.labels) series.value⟩

def requestFamily {κ : Type} (traffic : Traffic κ) : Family :=
  let name := "http_requests_total"
  ⟨name, "Total number of admin API requests", .counter,
    traffic.requests.map fun series ↦
      ⟨name, ["method", "route", "status"].zip series.labels, Text.ofNat series.value⟩⟩

def families (metrics : Metrics) : List Family :=
  [gauge "app_uptime_seconds" "Admin server uptime in seconds" (Text.ofFloat metrics.gauges.uptime),
    gauge "component_connection_control_delay_generated"
      "Connections delayed since the threshold was last changed"
      (Text.ofNat metrics.gauges.generated),
    gauge "component_connection_control_failed_accounts"
      "Accounts with at least one recorded failed login" (Text.ofNat metrics.gauges.accounts),
    durationFamily metrics.traffic, requestFamily metrics.traffic]

/-- The text of the metrics, line by line. -/
def lines (metrics : Metrics) : List String :=
  Exposition.lines metrics.families

end Metrics

end LoginThrottle
