import LoginThrottle.Text.Utf8

/-!
The series of a metric with labels, one for each list of label values that has been seen. A series
is found by a fingerprint of the values. Values that agree in the fingerprint share a series, which
shows those that came first. The series stand in the order of the values they show.

The fingerprint in use is a hash of the bytes of all values in a row. Since nothing marks where a
value ends, `ab` and `c` share a series with `a` and `bc`.
-/

set_option autoImplicit false
set_option relaxedAutoImplicit false

namespace LoginThrottle

structure Series (κ ν : Type) where
  fingerprint : κ
  labels : List String
  value : ν
  deriving Repr

namespace Series

variable {κ ν : Type}

/-- The hash of the bytes, each of which is first mixed in and then multiplied with. -/
def hash (bytes : List UInt8) : UInt64 :=
  bytes.foldl (fun reached byte ↦ (reached ^^^ byte.toUInt64) * 0x100000001B3) 0xCBF29CE484222325

def fingerprintOf (values : List String) : UInt64 :=
  hash (values.flatMap fun value ↦ Text.Utf8.encode value.toList)

/-- A new series put in its place. -/
def insert (new : Series κ ν) : List (Series κ ν) → List (Series κ ν)
  | [] => [new]
  | other :: rest =>
    if new.labels < other.labels then new :: other :: rest else other :: insert new rest

/-- What `change` makes of the value of the series, or of nothing if there is no such series yet,
becomes its value. -/
def update [DecidableEq κ] (fingerprint : κ) (labels : List String) (change : Option ν → ν)
    (series : List (Series κ ν)) : List (Series κ ν) :=
  if series.any (·.fingerprint == fingerprint) then
    series.map fun other ↦
      if other.fingerprint == fingerprint then { other with value := change (some other.value) }
      else other
  else insert ⟨fingerprint, labels, change none⟩ series

end Series

end LoginThrottle
