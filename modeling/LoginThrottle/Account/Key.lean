import LoginThrottle.Text.LowerCase

/-!
The key an account is counted under, by convention the text `'user'@'host'`. Two spellings that
lower-case to the same characters are one account, and keys are ordered by the lowered characters;
the spelling itself is kept for display.
-/

set_option autoImplicit false
set_option relaxedAutoImplicit false

namespace LoginThrottle

structure AccountKey where
  spelling : String
  deriving Repr, Inhabited

namespace AccountKey

/-- The quoted form. Quotes inside the user or the host are not escaped. -/
def ofParts (user host : String) : AccountKey :=
  ⟨String.ofList (['\''] ++ user.toList ++ ['\'', '@', '\''] ++ host.toList ++ ['\''])⟩

/-- The identity behind the spelling. -/
def folded (key : AccountKey) : List Char :=
  Text.folded key.spelling.toList

instance : Ord AccountKey where
  compare a b := compare a.folded b.folded

instance : BEq AccountKey where
  beq a b := compare a b == .eq

theorem compare_def (a b : AccountKey) : compare a b = compare a.folded b.folded :=
  rfl

theorem compare_eq_iff (a b : AccountKey) : compare a b = .eq ↔ a.folded = b.folded := by
  rw [compare_def, Std.LawfulEqOrd.compare_eq_iff_eq]

theorem beq_iff (a b : AccountKey) : (a == b) = true ↔ a.folded = b.folded := by
  rw [← compare_eq_iff]
  exact beq_iff_eq (a := compare a b) (b := Ordering.eq)

instance : Std.TransOrd AccountKey where
  eq_swap {a b} := Std.OrientedOrd.eq_swap (a := a.folded) (b := b.folded)
  isLE_trans {a b c} hab hbc := by
    rw [compare_def] at hab hbc ⊢
    exact Std.TransCmp.isLE_trans hab hbc

instance : Std.LawfulBEqOrd AccountKey where
  compare_eq_iff_beq {a b} := by rw [compare_eq_iff, beq_iff]

instance : EquivBEq AccountKey where
  rfl {a} := (beq_iff a a).mpr rfl
  symm {a b} h := (beq_iff b a).mpr ((beq_iff a b).mp h).symm
  trans {a b c} hab hbc := (beq_iff a c).mpr (((beq_iff a b).mp hab).trans ((beq_iff b c).mp hbc))

/-- The keys in ascending order; those of one account keep their order. -/
def sorted (keys : List AccountKey) : List AccountKey :=
  keys.mergeSort fun a b ↦ (compare a b).isLE

end AccountKey

end LoginThrottle
