import LoginThrottle.Text.Hexadecimal
import Mathlib.Algebra.Group.Nat.Defs

/-!
Numbers that are written and read back, in decimal and in hexadecimal digits. What is written is one
digit or more, the first of them a zero only where it is the only one, and nothing but digits.
-/

set_option autoImplicit false
set_option relaxedAutoImplicit false

namespace LoginThrottle.Text

/-! ### Decimal digits -/

theorem isDigit_digitOf : ∀ n < 10, isDigit (digitOf n) = true := by
  decide

theorem digitValue_digitOf : ∀ n < 10, digitValue (digitOf n) = n := by
  decide

theorem digitOf_ne_zero : ∀ n < 10, 0 < n → digitOf n ≠ '0' := by
  decide

theorem writeNat_of_lt {n : Nat} (h : n < 10) : writeNat n = [digitOf n] := by
  rw [writeNat, if_pos h]

theorem writeNat_of_le {n : Nat} (h : 10 ≤ n) :
    writeNat n = writeNat (n / 10) ++ [digitOf (n % 10)] := by
  rw [writeNat, if_neg (Nat.not_lt.mpr h)]

theorem writeNat_ne_nil (n : Nat) : writeNat n ≠ [] := by
  by_cases h : n < 10
  · simp [writeNat_of_lt h]
  · simp [writeNat_of_le (Nat.not_lt.mp h)]

theorem isDigit_of_mem_writeNat {n : Nat} {c : Char} (hc : c ∈ writeNat n) : isDigit c = true := by
  induction n using Nat.strongRecOn with
  | ind n ih =>
    by_cases h : n < 10
    · rw [writeNat_of_lt h, List.mem_singleton] at hc
      rw [hc]
      exact isDigit_digitOf n h
    · rw [writeNat_of_le (Nat.not_lt.mp h), List.mem_append, List.mem_singleton] at hc
      rcases hc with hfront | rfl
      · exact ih (n / 10) (by omega) hfront
      · exact isDigit_digitOf _ (Nat.mod_lt n (by decide))

theorem natFrom_writeNat (n : Nat) : natFrom 0 (writeNat n) = n := by
  induction n using Nat.strongRecOn with
  | ind n ih =>
    by_cases h : n < 10
    · rw [writeNat_of_lt h, natFrom, List.foldl_cons, List.foldl_nil, digitValue_digitOf n h,
        Nat.mul_zero, Nat.zero_add]
    · have hfront : natFrom 0 (writeNat (n / 10)) = n / 10 := ih (n / 10) (by omega)
      rw [natFrom] at hfront
      rw [writeNat_of_le (Nat.not_lt.mp h), natFrom, List.foldl_append, hfront, List.foldl_cons,
        List.foldl_nil, digitValue_digitOf _ (Nat.mod_lt n (by decide))]
      exact Nat.div_add_mod n 10

theorem readNat?_writeNat (n : Nat) : readNat? (writeNat n) = some n := by
  have hall : (writeNat n).all isDigit = true :=
    List.all_eq_true.mpr fun c hc ↦ isDigit_of_mem_writeNat hc
  rw [readNat?, if_pos (by simp [writeNat_ne_nil, hall]), natFrom_writeNat]

theorem readNat?_ofNat (n : Nat) : readNat? (ofNat n).toList = some n := by
  rw [ofNat, String.toList_ofList, readNat?_writeNat]

theorem ofNat_injective : Function.Injective ofNat := by
  intro n m h
  have hread : readNat? (ofNat n).toList = readNat? (ofNat m).toList := by rw [h]
  rw [readNat?_ofNat, readNat?_ofNat] at hread
  exact Option.some_inj.mp hread

/-- A number begins with a zero only if it is zero. -/
theorem head?_writeNat_ne_zero {n : Nat} (h : 0 < n) : (writeNat n).head? ≠ some '0' := by
  induction n using Nat.strongRecOn with
  | ind n ih =>
    by_cases hsmall : n < 10
    · rw [writeNat_of_lt hsmall, List.head?_cons, ne_eq, Option.some.injEq]
      exact digitOf_ne_zero n hsmall h
    · have hfront := ih (n / 10) (by omega) (by omega)
      rw [writeNat_of_le (Nat.not_lt.mp hsmall), List.head?_append,
        Option.or_of_isSome (by simp [writeNat_ne_nil])]
      exact hfront

/-! ### What is read as a number -/

/-- The digits denote the number: a digit by itself, and one behind others as many ones as they
count tens. -/
inductive Digits : List Char → Nat → Prop
  | single {d : Nat} (hd : d < 10) : Digits [digitOf d] d
  | snoc {front : List Char} {n d : Nat} (hfront : Digits front n) (hd : d < 10) :
      Digits (front ++ [digitOf d]) (10 * n + d)

/-- The text denotes the integer: digits, with a single sign in front or none. -/
inductive Numeral : List Char → Int → Prop
  | bare {digits : List Char} {n : Nat} (h : Digits digits n) : Numeral digits n
  | plus {digits : List Char} {n : Nat} (h : Digits digits n) : Numeral ('+' :: digits) n
  | minus {digits : List Char} {n : Nat} (h : Digits digits n) : Numeral ('-' :: digits) (-n)

theorem exists_digitOf_eq {c : Char} (h : isDigit c = true) : ∃ d < 10, c = digitOf d := by
  have hrange : '0'.toNat ≤ c.toNat ∧ c.toNat ≤ '9'.toNat := by
    simpa [isDigit, Char.le_def, UInt32.le_iff_toNat_le] using h
  have hlow : 48 ≤ c.toNat := hrange.1
  have hhigh : c.toNat ≤ 57 := hrange.2
  refine ⟨c.toNat - 48, by omega, ?_⟩
  rw [digitOf, Nat.add_sub_cancel' hlow, Char.ofNat_toNat]

theorem natFrom_snoc (front : List Char) {d : Nat} (hd : d < 10) :
    natFrom 0 (front ++ [digitOf d]) = 10 * natFrom 0 front + d := by
  rw [natFrom, List.foldl_append, List.foldl_cons, List.foldl_nil, digitValue_digitOf d hd]
  rfl

theorem Digits.readNat?_eq {text : List Char} {n : Nat} (h : Digits text n) :
    readNat? text = some n := by
  have hread : text ≠ [] ∧ (∀ c ∈ text, isDigit c = true) ∧ natFrom 0 text = n := by
    induction h with
    | single hd =>
      refine ⟨by simp, fun c hc ↦ ?_, by simp [natFrom, digitValue_digitOf _ hd]⟩
      rw [List.mem_singleton.mp hc]
      exact isDigit_digitOf _ hd
    | snoc hfront hd ih =>
      refine ⟨by simp, fun c hc ↦ ?_, by rw [natFrom_snoc _ hd, ih.2.2]⟩
      rcases List.mem_append.mp hc with hearlier | hlast
      · exact ih.2.1 c hearlier
      · rw [List.mem_singleton.mp hlast]
        exact isDigit_digitOf _ hd
  obtain ⟨hne, hall, hvalue⟩ := hread
  rw [readNat?, if_pos (by simpa [hne] using hall), hvalue]

theorem Digits.append {front rest : List Char} {n : Nat} (h : Digits front n)
    (hall : ∀ c ∈ rest, isDigit c = true) : Digits (front ++ rest) (natFrom n rest) := by
  induction rest generalizing front n with
  | nil => simpa [natFrom] using h
  | cons c rest ih =>
    obtain ⟨d, hd, rfl⟩ := exists_digitOf_eq (hall c List.mem_cons_self)
    have hnext := ih (h.snoc hd) fun c hc ↦ hall c (List.mem_cons_of_mem _ hc)
    rw [List.append_assoc] at hnext
    rw [natFrom, List.foldl_cons, digitValue_digitOf d hd]
    exact hnext

theorem digits_natFrom {text : List Char} (hne : text ≠ []) (hall : ∀ c ∈ text, isDigit c = true) :
    Digits text (natFrom 0 text) := by
  cases text with
  | nil => exact absurd rfl hne
  | cons c rest =>
    obtain ⟨d, hd, rfl⟩ := exists_digitOf_eq (hall c List.mem_cons_self)
    have hread := (Digits.single hd).append fun c hc ↦ hall c (List.mem_cons_of_mem _ hc)
    rw [natFrom, List.foldl_cons, digitValue_digitOf d hd, Nat.mul_zero, Nat.zero_add]
    exact hread

theorem readNat?_eq_some_iff {text : List Char} {n : Nat} :
    readNat? text = some n ↔ Digits text n := by
  refine ⟨fun h ↦ ?_, Digits.readNat?_eq⟩
  rw [readNat?] at h
  by_cases hdigits : (!text.isEmpty && text.all isDigit) = true
  · rw [if_pos hdigits, Option.some.injEq] at h
    rw [Bool.and_eq_true, Bool.not_eq_true', List.isEmpty_eq_false_iff, List.all_eq_true] at hdigits
    rw [← h]
    exact digits_natFrom hdigits.1 hdigits.2
  · rw [if_neg hdigits] at h
    exact absurd h (by simp)

/-- Digits do not begin with a sign. -/
theorem Digits.head?_ne {text : List Char} {n : Nat} (h : Digits text n) {sign : Char}
    (hsign : isDigit sign = false) : text.head? ≠ some sign := by
  intro hhead
  have hread := h.readNat?_eq
  obtain ⟨rest, rfl⟩ := List.head?_eq_some_iff.mp hhead
  rw [readNat?, if_neg (by simp [hsign])] at hread
  exact absurd hread (by simp)

theorem readInt?_minus (digits : List Char) :
    readInt? ('-' :: digits) = (readNat? digits).map fun (n : Nat) ↦ -(n : Int) := by
  rw [readInt?]
  cases readNat? digits <;> rfl

theorem readInt?_plus (digits : List Char) :
    readInt? ('+' :: digits) = (readNat? digits).map fun (n : Nat) ↦ (n : Int) := by
  rw [readInt?]
  cases readNat? digits <;> rfl

theorem readInt?_of_unsigned {text : List Char} (hminus : text.head? ≠ some '-')
    (hplus : text.head? ≠ some '+') :
    readInt? text = (readNat? text).map fun (n : Nat) ↦ (n : Int) := by
  unfold readInt?
  split
  · exact absurd rfl hminus
  · exact absurd rfl hplus
  · cases readNat? text <;> rfl

/-- An integer is read exactly where one is denoted. -/
theorem readInt?_eq_some_iff {text : List Char} {i : Int} :
    readInt? text = some i ↔ Numeral text i := by
  constructor
  · intro h
    by_cases hminus : text.head? = some '-'
    · obtain ⟨digits, rfl⟩ := List.head?_eq_some_iff.mp hminus
      rw [readInt?_minus] at h
      obtain ⟨n, hn, rfl⟩ := Option.map_eq_some_iff.mp h
      exact Numeral.minus (readNat?_eq_some_iff.mp hn)
    · by_cases hplus : text.head? = some '+'
      · obtain ⟨digits, rfl⟩ := List.head?_eq_some_iff.mp hplus
        rw [readInt?_plus] at h
        obtain ⟨n, hn, rfl⟩ := Option.map_eq_some_iff.mp h
        exact Numeral.plus (readNat?_eq_some_iff.mp hn)
      · rw [readInt?_of_unsigned hminus hplus] at h
        obtain ⟨n, hn, rfl⟩ := Option.map_eq_some_iff.mp h
        exact Numeral.bare (readNat?_eq_some_iff.mp hn)
  · intro h
    cases h with
    | bare hdigits =>
      have hminus := hdigits.head?_ne (by decide : isDigit '-' = false)
      have hplus := hdigits.head?_ne (by decide : isDigit '+' = false)
      rw [readInt?_of_unsigned hminus hplus, hdigits.readNat?_eq]
      rfl
    | plus hdigits =>
      rw [readInt?_plus, hdigits.readNat?_eq]
      rfl
    | minus hdigits =>
      rw [readInt?_minus, hdigits.readNat?_eq]
      rfl

theorem numeral_writeInt (i : Int) : Numeral (writeInt i) i := by
  cases i with
  | ofNat n => exact Numeral.bare (readNat?_eq_some_iff.mp (readNat?_writeNat n))
  | negSucc n => exact Numeral.minus (readNat?_eq_some_iff.mp (readNat?_writeNat (n + 1)))

/-! ### Hexadecimal digits -/

theorem hexValue?_hexDigit : ∀ n < 16, hexValue? (hexDigit n) = some n := by
  decide

theorem writeHex_of_lt {n : Nat} (h : n < 16) : writeHex n = [hexDigit n] := by
  rw [writeHex, if_pos h]

theorem writeHex_of_le {n : Nat} (h : 16 ≤ n) :
    writeHex n = writeHex (n / 16) ++ [hexDigit (n % 16)] := by
  rw [writeHex, if_neg (Nat.not_lt.mpr h)]

theorem writeHex_ne_nil (n : Nat) : writeHex n ≠ [] := by
  by_cases h : n < 16
  · simp [writeHex_of_lt h]
  · simp [writeHex_of_le (Nat.not_lt.mp h)]

theorem isSome_hexValue?_of_mem_writeHex {n : Nat} {c : Char} (hc : c ∈ writeHex n) :
    (hexValue? c).isSome = true := by
  induction n using Nat.strongRecOn with
  | ind n ih =>
    by_cases h : n < 16
    · rw [writeHex_of_lt h, List.mem_singleton] at hc
      rw [hc, hexValue?_hexDigit n h]
      rfl
    · rw [writeHex_of_le (Nat.not_lt.mp h), List.mem_append, List.mem_singleton] at hc
      rcases hc with hfront | rfl
      · exact ih (n / 16) (by omega) hfront
      · rw [hexValue?_hexDigit _ (Nat.mod_lt n (by decide))]
        rfl

/-- A number has as many digits as it needs. -/
theorem length_writeHex_le (digits : Nat) {n : Nat} (h : n < 16 ^ (digits + 1)) :
    (writeHex n).length ≤ digits + 1 := by
  induction digits generalizing n with
  | zero => simp [writeHex_of_lt h]
  | succ digits ih =>
    by_cases hsmall : n < 16
    · rw [writeHex_of_lt hsmall, List.length_singleton]
      omega
    · have hfront : n / 16 < 16 ^ (digits + 1) := by
        rw [Nat.pow_succ] at h
        exact Nat.div_lt_of_lt_mul (Nat.mul_comm _ 16 ▸ h)
      rw [writeHex_of_le (Nat.not_lt.mp hsmall), List.length_append, List.length_singleton]
      exact Nat.succ_le_succ (ih hfront)

theorem foldlM_hexValue?_writeHex (n : Nat) :
    (writeHex n).foldlM (fun n c ↦ (hexValue? c).map (16 * n + ·)) 0 = some n := by
  induction n using Nat.strongRecOn with
  | ind n ih =>
    by_cases h : n < 16
    · rw [writeHex_of_lt h, List.foldlM_cons, hexValue?_hexDigit n h]
      simp
    · rw [writeHex_of_le (Nat.not_lt.mp h), List.foldlM_append, ih (n / 16) (by omega)]
      simp only [Option.bind_eq_bind, Option.bind_some, List.foldlM_cons,
        hexValue?_hexDigit _ (Nat.mod_lt n (by decide : 0 < 16)), Option.map_some, List.foldlM_nil]
      exact congrArg some (Nat.div_add_mod n 16)

end LoginThrottle.Text
