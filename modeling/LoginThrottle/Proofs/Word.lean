import LoginThrottle.Word
import Mathlib.Algebra.Group.Int.Defs
import Mathlib.Algebra.Group.Nat.Defs

/-!
The operations on machine words, each by the integer that it gives.
-/

set_option autoImplicit false
set_option relaxedAutoImplicit false

namespace LoginThrottle.Word

/-- Narrowing finds the word that holds the integer, whenever there is one. -/
theorem narrow?_eq_some_iff {i : Int} {w : Int64} : narrow? i = some w ↔ w.toInt = i := by
  refine ⟨narrow?_eq_some, fun h ↦ ?_⟩
  rw [narrow?, if_pos (by rw [← h]; exact ⟨w.minValue_le_toInt, w.toInt_le⟩), ← h,
    Int64.ofInt_toInt]

theorem toNat_saturatingSucc (n : UInt64) :
    (saturatingSucc n).toNat = min (n.toNat + 1) (2 ^ 64 - 1) := by
  have hlt := n.toNat_lt
  unfold saturatingSucc
  split
  · next h =>
    rw [h]
    rfl
  · next h =>
    have hne : n.toNat ≠ 2 ^ 64 - 1 := fun heq ↦ h (UInt64.toNat_inj.mp heq)
    rw [UInt64.toNat_add, UInt64.toNat_one]
    omega

theorem saturatingSucc_ne_zero (n : UInt64) : saturatingSucc n ≠ 0 := by
  intro h
  have hzero := toNat_saturatingSucc n
  rw [h, UInt64.toNat_zero] at hzero
  omega

theorem toInt_max (a b : Int64) : (max a b).toInt = max a.toInt b.toInt := by
  change (if a ≤ b then b else a).toInt = _
  split
  · next h =>
    have hle := Int64.le_iff_toInt_le.mp h
    omega
  · next h =>
    have hlt := mt Int64.le_iff_toInt_le.mpr h
    omega

theorem toInt_min (a b : Int64) : (min a b).toInt = min a.toInt b.toInt := by
  change (if a ≤ b then a else b).toInt = _
  split
  · next h =>
    have hle := Int64.le_iff_toInt_le.mp h
    omega
  · next h =>
    have hlt := mt Int64.le_iff_toInt_le.mpr h
    omega

theorem toNat_toUnsigned (a : Int64) : (toUnsigned a).toNat = a.toInt.toNat := by
  have hlt : a.toInt.toNat < 2 ^ 64 := by
    have := a.toInt_lt
    omega
  exact UInt64.toNat_ofNat_of_lt hlt

end LoginThrottle.Word
