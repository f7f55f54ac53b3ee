/-!
How long something took, to the nanosecond. A plain number stands for so many microseconds, the
unit in which times are written down here.
-/

set_option autoImplicit false
set_option relaxedAutoImplicit false

namespace LoginThrottle

structure Duration where
  nanoseconds : Nat
  deriving DecidableEq, Repr

namespace Duration

def ofMicroseconds (microseconds : Nat) : Duration :=
  ⟨microseconds * 1000⟩

instance : Coe Nat Duration :=
  ⟨ofMicroseconds⟩

instance (microseconds : Nat) : OfNat Duration microseconds :=
  ⟨ofMicroseconds microseconds⟩

instance : LE Duration where
  le one other := one.nanoseconds ≤ other.nanoseconds

instance (one other : Duration) : Decidable (one ≤ other) :=
  inferInstanceAs (Decidable (one.nanoseconds ≤ other.nanoseconds))

/-- The whole milliseconds, up to the largest word. -/
def milliseconds (duration : Duration) : Nat :=
  min (duration.nanoseconds / 1000000) (UInt64.size - 1)

/-- In seconds: the whole seconds and the rest are converted one by one. -/
def seconds (duration : Duration) : Float :=
  Float.ofNat (duration.nanoseconds / 1000000000)
    + Float.ofNat (duration.nanoseconds % 1000000000) / Float.ofNat 1000000000

theorem le_trans {one other third : Duration} (h : one ≤ other) (hother : other ≤ third) :
    one ≤ third :=
  Nat.le_trans h hother

end Duration

end LoginThrottle
