import LoginThrottle.Duration
import LoginThrottle.Metrics.Series
import LoginThrottle.Text.ShortestDecimal

/-!
What is kept about the requests that were served: how many there were of each method, route and
status, and how long those of each method and route took. Requests for the metrics themselves are
left out of both.
-/

set_option autoImplicit false
set_option relaxedAutoImplicit false

namespace LoginThrottle

/-- A request that was served, with the time it took. -/
structure Served where
  method : String
  route : String
  status : Nat
  duration : Duration
  deriving DecidableEq, Repr

namespace Served

/-- The values that the count of requests is found by. -/
def requestValues (served : Served) : List String :=
  [served.method, Text.ofNat served.status, served.route]

/-- The same values in the order in which they are shown. -/
def requestLabels (served : Served) : List String :=
  [served.method, served.route, Text.ofNat served.status]

/-- The values that the durations of requests are found by, and shown under. -/
def durationLabels (served : Served) : List String :=
  [served.method, served.route]

end Served

/-- The durations of requests: how many fell behind each bound and not behind the one before, how
many there were in all, and the sum of their lengths in seconds. -/
structure Durations where
  buckets : List Nat
  count : Nat
  sum : Float
  deriving Repr

namespace Durations

/-- The bounds between the buckets in microseconds, each with its text in seconds. -/
def bounds : List (Duration × String) :=
  [(5000, "0.005"), (50000, "0.05"), (500000, "0.5"), (1000000, "1"), (2500000, "2.5"),
    (5000000, "5"), (10000000, "10"), (30000000, "30"), (60000000, "60")]

def empty : Durations :=
  ⟨bounds.map fun _ ↦ 0, 0, 0⟩

/-- The buckets with one more in the first whose bound the duration does not exceed. -/
def fill (duration : Duration) : List (Duration × String) → List Nat → List Nat
  | (bound, _) :: bounds, count :: counts =>
    if duration ≤ bound then (count + 1) :: counts else count :: fill duration bounds counts
  | _, counts => counts

def observe (durations : Durations) (duration : Duration) : Durations :=
  { buckets := fill duration bounds durations.buckets
    count := durations.count + 1
    sum := durations.sum + duration.seconds }

/-- How many durations do not exceed each bound. -/
def cumulative (durations : Durations) : List Nat :=
  (List.range durations.buckets.length).map fun i ↦ (durations.buckets.take (i + 1)).foldl (· + ·) 0

end Durations

/-- The counts by method, route and status, and the durations by method and route, with the kind of
fingerprint that a series is found by. -/
structure Traffic (κ : Type) where
  requests : List (Series κ Nat)
  durations : List (Series κ Durations)
  deriving Repr

namespace Traffic

variable {κ : Type}

def empty : Traffic κ :=
  ⟨[], []⟩

/-- The route under which the metrics are asked for. -/
def ownRoute : String :=
  "/api/metrics"

/-- One more request, with the series of either family found by a fingerprint of the values of their
labels. -/
def recordBy [DecidableEq κ] (print : List String → κ) (traffic : Traffic κ) (served : Served) :
    Traffic κ :=
  if served.route = ownRoute then traffic
  else
    { requests :=
        Series.update (print served.requestValues) served.requestLabels
          (fun count? ↦ count?.getD 0 + 1) traffic.requests
      durations :=
        Series.update (print served.durationLabels) served.durationLabels
          (fun durations? ↦ (durations?.getD .empty).observe served.duration) traffic.durations }

def record (traffic : Traffic UInt64) (served : Served) : Traffic UInt64 :=
  traffic.recordBy Series.fingerprintOf served

end Traffic

end LoginThrottle
