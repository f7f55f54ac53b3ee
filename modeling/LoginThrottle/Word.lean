/-!
Arithmetic on the machine words that the settings and the counters are kept in. A signed result is
computed exactly and then has to fit; a failure count stops at its largest value; the delay
counter wraps round, which is what `+` on words does already.
-/

set_option autoImplicit false
set_option relaxedAutoImplicit false

namespace LoginThrottle.Word

/-- The word that holds an integer, if one does. -/
def narrow? (i : Int) : Option Int64 :=
  if Int64.minValue.toInt ≤ i ∧ i ≤ Int64.maxValue.toInt then some (Int64.ofInt i) else none

def add? (a b : Int64) : Option Int64 :=
  narrow? (a.toInt + b.toInt)

def sub? (a b : Int64) : Option Int64 :=
  narrow? (a.toInt - b.toInt)

def mul? (a b : Int64) : Option Int64 :=
  narrow? (a.toInt * b.toInt)

/-- A negative word counts as zero. -/
def toUnsigned (a : Int64) : UInt64 :=
  UInt64.ofNat a.toInt.toNat

def largest : UInt64 :=
  UInt64.ofNat (UInt64.size - 1)

/-- One more, or the same at the largest value. -/
def saturatingSucc (n : UInt64) : UInt64 :=
  if n = largest then n else n + 1

theorem narrow?_eq_some {i : Int} {w : Int64} (h : narrow? i = some w) : w.toInt = i := by
  unfold narrow? at h
  split at h
  · next hi =>
    rw [← Option.some.inj h]
    exact Int64.toInt_ofInt_of_le hi.1 (by
      have := hi.2
      simp only [Int64.toInt_maxValue] at this
      omega)
  · simp at h

theorem narrow?_eq_none {i : Int} :
    narrow? i = none ↔ i < Int64.minValue.toInt ∨ Int64.maxValue.toInt < i := by
  unfold narrow?
  rw [ite_eq_right_iff]
  simp only [reduceCtorEq, imp_false]
  omega

end LoginThrottle.Word
