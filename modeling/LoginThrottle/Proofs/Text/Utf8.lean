import LoginThrottle.Text.Utf8
import Mathlib.Tactic.SplitIfs

/-!
What is accepted as UTF-8. A character is spelled by a single byte, or by a byte that says how many
are to follow and in which range the next one is, and those that follow; every other byte leaves a
hole in what is read. So bytes are accepted exactly if they are the bytes of a text, and then they
are read as that text (`decode?_eq_some_iff`).
-/

set_option autoImplicit false
set_option relaxedAutoImplicit false

namespace LoginThrottle.Text.Utf8

/-! ### The bytes of one character -/

theorem toNat_ofNat {n : Nat} (h : n < 256) : (UInt8.ofNat n).toNat = n := by
  rw [UInt8.toNat_ofNat']
  exact Nat.mod_eq_of_lt h

theorem val_ofNat {n : Nat} (h : n.isValidChar) : (Char.ofNat n).val.toNat = n := by
  rw [Char.ofNat, dif_pos h]
  rfl

theorem ofNat_val (c : Char) : Char.ofNat c.val.toNat = c :=
  Char.ofNat_toNat c

theorem encodeChar_ofNat_of_lt {a : UInt8} (h : a.toNat < 0x80) :
    String.utf8EncodeChar (Char.ofNat a.toNat) = [a] := by
  have hval : (Char.ofNat a.toNat).val.toNat = a.toNat := val_ofNat (Or.inl (by omega))
  rw [String.utf8EncodeChar, hval, if_pos (by omega), UInt8.ofNat_toNat]

theorem encodeChar_of_two {a b : UInt8} {n : Nat} (ha : 0xC2 ≤ a.toNat ∧ a.toNat ≤ 0xDF)
    (hb : 0x80 ≤ b.toNat ∧ b.toNat ≤ 0xBF)
    (hn : n = 64 * (a.toNat - 0xC0) + (b.toNat - 0x80)) :
    String.utf8EncodeChar (Char.ofNat n) = [a, b] := by
  rw [String.utf8EncodeChar, val_ofNat (Or.inl (by omega)), if_neg (by omega), if_pos (by omega),
    List.cons.injEq, List.cons.injEq, ← UInt8.toNat_inj, ← UInt8.toNat_inj, toNat_ofNat (by omega),
    toNat_ofNat (by omega)]
  refine ⟨by omega, by omega, rfl⟩

theorem encodeChar_of_three {a b c : UInt8} {n : Nat} (ha : 0xE0 ≤ a.toNat ∧ a.toNat ≤ 0xEF)
    (hb : 0x80 ≤ b.toNat ∧ b.toNat ≤ 0xBF) (hc : 0x80 ≤ c.toNat ∧ c.toNat ≤ 0xBF)
    (hn : n = 64 * (64 * (a.toNat - 0xE0) + (b.toNat - 0x80)) + (c.toNat - 0x80))
    (hlong : 0x800 ≤ n) (hvalid : n.isValidChar) :
    String.utf8EncodeChar (Char.ofNat n) = [a, b, c] := by
  rw [String.utf8EncodeChar, val_ofNat hvalid, if_neg (by omega), if_neg (by omega),
    if_pos (by omega), List.cons.injEq, List.cons.injEq, List.cons.injEq, ← UInt8.toNat_inj,
    ← UInt8.toNat_inj, ← UInt8.toNat_inj, toNat_ofNat (by omega), toNat_ofNat (by omega),
    toNat_ofNat (by omega)]
  refine ⟨by omega, by omega, by omega, rfl⟩

theorem encodeChar_of_four {a b c d : UInt8} {n : Nat} (ha : 0xF0 ≤ a.toNat ∧ a.toNat ≤ 0xF4)
    (hb : 0x80 ≤ b.toNat ∧ b.toNat ≤ 0xBF) (hc : 0x80 ≤ c.toNat ∧ c.toNat ≤ 0xBF)
    (hd : 0x80 ≤ d.toNat ∧ d.toNat ≤ 0xBF)
    (hn : n = 64 * (64 * (64 * (a.toNat - 0xF0) + (b.toNat - 0x80)) + (c.toNat - 0x80))
      + (d.toNat - 0x80))
    (hlong : 0x10000 ≤ n) (hlt : n < 0x110000) :
    String.utf8EncodeChar (Char.ofNat n) = [a, b, c, d] := by
  rw [String.utf8EncodeChar, val_ofNat (Or.inr ⟨by omega, hlt⟩), if_neg (by omega),
    if_neg (by omega), if_neg (by omega), List.cons.injEq, List.cons.injEq, List.cons.injEq,
    List.cons.injEq, ← UInt8.toNat_inj, ← UInt8.toNat_inj, ← UInt8.toNat_inj, ← UInt8.toNat_inj,
    toNat_ofNat (by omega), toNat_ofNat (by omega), toNat_ofNat (by omega), toNat_ofNat (by omega)]
  refine ⟨by omega, by omega, by omega, by omega, rfl⟩

/-! ### What a byte begins -/

theorem opening_of_two {n : Nat} (h : 0xC2 ≤ n ∧ n ≤ 0xDF) :
    opening n = .longer ⟨n - 0xC0, 1, 0x80, 0xBF⟩ := by
  rw [opening, if_neg (by omega), if_pos (by simpa using h)]

/-- The range of the second byte leaves out what fewer bytes spell, and the surrogates. -/
theorem opening_of_three {n : Nat} (h : 0xE0 ≤ n ∧ n ≤ 0xEF) :
    ∃ low high, opening n = .longer ⟨n - 0xE0, 2, low, high⟩
      ∧ ∀ byte, low ≤ byte ∧ byte ≤ high ↔ (0x80 ≤ byte ∧ byte ≤ 0xBF)
        ∧ 0x20 ≤ 64 * (n - 0xE0) + (byte - 0x80)
        ∧ ¬(0x360 ≤ 64 * (n - 0xE0) + (byte - 0x80) ∧ 64 * (n - 0xE0) + (byte - 0x80) ≤ 0x37F) := by
  by_cases hfirst : n = 0xE0
  · exact ⟨0xA0, 0xBF, by rw [hfirst]; rfl, fun byte ↦ by omega⟩
  · by_cases hsurrogate : n = 0xED
    · exact ⟨0x80, 0x9F, by rw [hsurrogate]; rfl, fun byte ↦ by omega⟩
    · refine ⟨0x80, 0xBF, ?_, fun byte ↦ by omega⟩
      rw [opening, if_neg (by omega), if_neg (by simp; omega), if_neg (by simpa using hfirst),
        if_neg (by simpa using hsurrogate), if_pos (by simp; omega)]

/-- The range of the second byte leaves out what fewer bytes spell, and what is no character. -/
theorem opening_of_four {n : Nat} (h : 0xF0 ≤ n ∧ n ≤ 0xF4) :
    ∃ low high, opening n = .longer ⟨n - 0xF0, 3, low, high⟩
      ∧ ∀ byte, low ≤ byte ∧ byte ≤ high ↔ (0x80 ≤ byte ∧ byte ≤ 0xBF)
        ∧ 0x10 ≤ 64 * (n - 0xF0) + (byte - 0x80) ∧ 64 * (n - 0xF0) + (byte - 0x80) < 0x110 := by
  by_cases hfirst : n = 0xF0
  · exact ⟨0x90, 0xBF, by rw [hfirst]; rfl, fun byte ↦ by omega⟩
  · by_cases hlast : n = 0xF4
    · exact ⟨0x80, 0x8F, by rw [hlast]; rfl, fun byte ↦ by omega⟩
    · refine ⟨0x80, 0xBF, ?_, fun byte ↦ by omega⟩
      rw [opening, if_neg (by omega), if_neg (by simp; omega), if_neg (by simp; omega),
        if_neg (by simp; omega), if_neg (by simp; omega), if_neg (by simpa using hfirst),
        if_pos (by simp; omega)]

theorem opening_of_lt {n : Nat} (h : n < 0x80) : opening n = .whole (Char.ofNat n) := by
  rw [opening, if_pos h]

theorem opening_of_invalid {n : Nat} (h : 0x80 ≤ n ∧ n < 0xC2 ∨ 0xF4 < n) :
    opening n = .invalid := by
  rw [opening, if_neg (by omega), if_neg (by simp; omega), if_neg (by simp; omega),
    if_neg (by simp; omega), if_neg (by simp; omega), if_neg (by simp; omega),
    if_neg (by simp; omega), if_neg (by simp; omega)]

/-- Only a byte below 128 stands for a character. -/
theorem lt_of_opening_whole {n : Nat} {c : Char} (h : opening n = .whole c) : n < 0x80 := by
  by_cases hlt : n < 0x80
  · exact hlt
  · rw [opening, if_neg hlt] at h
    split_ifs at h

/-- A byte that begins a longer character says how many bytes it has. -/
theorem range_of_opening_longer {n : Nat} {pending : Pending} (h : opening n = .longer pending) :
    (0xC2 ≤ n ∧ n ≤ 0xDF) ∨ (0xE0 ≤ n ∧ n ≤ 0xEF) ∨ (0xF0 ≤ n ∧ n ≤ 0xF4) := by
  by_cases hwhole : n < 0x80
  · rw [opening_of_lt hwhole] at h
    exact absurd h (by simp)
  · by_cases hinvalid : 0x80 ≤ n ∧ n < 0xC2 ∨ 0xF4 < n
    · rw [opening_of_invalid hinvalid] at h
      exact absurd h (by simp)
    · omega

/-! ### Bytes that complete a character -/

/-- The code of a character so far, with one more byte. -/
def Pending.codeWith (pending : Pending) (byte : UInt8) : Nat :=
  64 * pending.code + (byte.toNat - 0x80)

def Pending.Allows (pending : Pending) (byte : UInt8) : Prop :=
  pending.low ≤ byte.toNat ∧ byte.toNat ≤ pending.high

/-- The bytes bring a character that has begun to its end. -/
inductive Completes : Pending → List UInt8 → Char → Prop
  | last {pending : Pending} {byte : UInt8} (hneeded : pending.needed ≤ 1)
      (hallowed : pending.Allows byte) :
      Completes pending [byte] (Char.ofNat (pending.codeWith byte))
  | next {pending : Pending} {byte : UInt8} {tail : List UInt8} {c : Char}
      (hneeded : ¬pending.needed ≤ 1) (hallowed : pending.Allows byte)
      (htail : Completes ⟨pending.codeWith byte, pending.needed - 1, 0x80, 0xBF⟩ tail c) :
      Completes pending (byte :: tail) c

theorem step_last {pending : Pending} {byte : UInt8} (hneeded : pending.needed ≤ 1)
    (hallowed : pending.Allows byte) (read : List (Option Char)) :
    Reading.step ⟨read, some pending⟩ byte =
      ⟨some (Char.ofNat (pending.codeWith byte)) :: read, none⟩ := by
  unfold Reading.step
  simp only [hallowed.1, hallowed.2, decide_true, Bool.and_self, if_true, if_pos hneeded]
  rfl

theorem step_next {pending : Pending} {byte : UInt8} (hneeded : ¬pending.needed ≤ 1)
    (hallowed : pending.Allows byte) (read : List (Option Char)) :
    Reading.step ⟨read, some pending⟩ byte =
      ⟨read, some ⟨pending.codeWith byte, pending.needed - 1, 0x80, 0xBF⟩⟩ := by
  unfold Reading.step
  simp only [hallowed.1, hallowed.2, decide_true, Bool.and_self, if_true, if_neg hneeded]
  rfl

/-- A byte that does not go on with the character leaves a hole and begins anew. -/
theorem step_of_not_allows {pending : Pending} {byte : UInt8} (h : ¬pending.Allows byte)
    (read : List (Option Char)) :
    Reading.step ⟨read, some pending⟩ byte = Reading.begin (none :: read) byte.toNat := by
  unfold Reading.step
  exact if_neg (by simpa [Pending.Allows] using h)

theorem Completes.foldl_step {pending : Pending} {tail : List UInt8} {c : Char}
    (h : Completes pending tail c) (read : List (Option Char)) :
    tail.foldl Reading.step ⟨read, some pending⟩ = ⟨some c :: read, none⟩ := by
  induction h with
  | last hneeded hallowed => exact step_last hneeded hallowed read
  | next hneeded hallowed htail ih =>
    rw [List.foldl_cons, step_next hneeded hallowed]
    exact ih

/-! ### Characters of two, three and four bytes -/

section Completed

variable {code low high : Nat} {tail : List UInt8} {c : Char}

theorem completes_one_iff :
    Completes ⟨code, 1, low, high⟩ tail c ↔
      ∃ byte : UInt8, (low ≤ byte.toNat ∧ byte.toNat ≤ high) ∧ tail = [byte]
        ∧ c = Char.ofNat (64 * code + (byte.toNat - 0x80)) := by
  constructor
  · intro h
    cases h with
    | last _ hallowed => exact ⟨_, hallowed, rfl, rfl⟩
    | next hmore => exact absurd (Nat.le_refl 1) hmore
  · rintro ⟨byte, hallowed, htail, hc⟩
    rw [htail, hc]
    exact Completes.last (Nat.le_refl 1) hallowed

theorem completes_succ_iff {needed : Nat} (h : 1 ≤ needed) :
    Completes ⟨code, needed + 1, low, high⟩ tail c ↔
      ∃ (byte : UInt8) (rest : List UInt8), (low ≤ byte.toNat ∧ byte.toNat ≤ high)
        ∧ tail = byte :: rest
        ∧ Completes ⟨64 * code + (byte.toNat - 0x80), needed, 0x80, 0xBF⟩ rest c := by
  have hmore : ¬needed + 1 ≤ 1 := by omega
  constructor
  · intro hcompletes
    cases hcompletes with
    | last hlast => exact absurd hlast hmore
    | next _ hallowed htail => exact ⟨_, _, hallowed, rfl, htail⟩
  · rintro ⟨byte, rest, hallowed, rfl, hrest⟩
    exact Completes.next hmore hallowed hrest

end Completed

/-- The byte and those that complete what it begins spell the character. -/
theorem Completes.encodeChar_eq {first : UInt8} {pending : Pending} {tail : List UInt8} {c : Char}
    (h : Completes pending tail c) (hfirst : opening first.toNat = .longer pending) :
    String.utf8EncodeChar c = first :: tail := by
  rcases range_of_opening_longer hfirst with htwo | hthree | hfour
  · rw [opening_of_two htwo] at hfirst
    rw [← Opening.longer.inj hfirst] at h
    obtain ⟨second, hsecond, htail, hc⟩ := completes_one_iff.mp h
    rw [htail, hc]
    exact encodeChar_of_two htwo hsecond rfl
  · obtain ⟨low, high, hopening, hrange⟩ := opening_of_three hthree
    rw [hopening] at hfirst
    rw [← Opening.longer.inj hfirst, completes_succ_iff (Nat.le_refl 1)] at h
    obtain ⟨second, rest, hsecond, htail, hrest⟩ := h
    obtain ⟨third, hthird, hlast, hc⟩ := completes_one_iff.mp hrest
    obtain ⟨hsecond', hshort, hsurrogate⟩ := (hrange _).mp hsecond
    rw [htail, hlast, hc]
    refine encodeChar_of_three hthree hsecond' hthird rfl (by omega) ?_
    rw [Nat.isValidChar]
    omega
  · obtain ⟨low, high, hopening, hrange⟩ := opening_of_four hfour
    rw [hopening] at hfirst
    rw [← Opening.longer.inj hfirst, completes_succ_iff (by decide)] at h
    obtain ⟨second, rest, hsecond, htail, hrest⟩ := h
    obtain ⟨third, rest', hthird, htail', hrest'⟩ := (completes_succ_iff (Nat.le_refl 1)).mp hrest
    obtain ⟨fourth, hfourth, hlast, hc⟩ := completes_one_iff.mp hrest'
    obtain ⟨hsecond', hshort, hlong⟩ := (hrange _).mp hsecond
    rw [htail, htail', hlast, hc]
    exact encodeChar_of_four hfour hsecond' hthird hfourth rfl (by omega) (by omega)

theorem exists_toNat_eq {n : Nat} (h : n < 256) : ∃ byte : UInt8, byte.toNat = n :=
  ⟨UInt8.ofNat n, toNat_ofNat h⟩

/-- Every character is spelled by a byte that stands for it, or by one that begins it and others
that complete it. -/
theorem encodeChar_cases (c : Char) :
    (∃ byte : UInt8, String.utf8EncodeChar c = [byte] ∧ opening byte.toNat = .whole c)
      ∨ ∃ (first : UInt8) (tail : List UInt8) (pending : Pending),
        String.utf8EncodeChar c = first :: tail ∧ opening first.toNat = .longer pending
          ∧ Completes pending tail c := by
  have hvalid : c.val.toNat < 0xD800 ∨ 0xDFFF < c.val.toNat ∧ c.val.toNat < 0x110000 := c.valid
  have hc : c = Char.ofNat c.val.toNat := (ofNat_val c).symm
  generalize c.val.toNat = n at hvalid hc
  rw [hc]
  by_cases hone : n < 0x80
  · obtain ⟨byte, rfl⟩ : ∃ byte : UInt8, byte.toNat = n := exists_toNat_eq (by omega)
    exact Or.inl ⟨byte, encodeChar_ofNat_of_lt hone, opening_of_lt hone⟩
  · refine Or.inr ?_
    obtain ⟨last, hlast⟩ : ∃ byte : UInt8, byte.toNat = n % 64 + 0x80 := exists_toNat_eq (by omega)
    have hlastRange : 0x80 ≤ last.toNat ∧ last.toNat ≤ 0xBF := by omega
    by_cases htwo : n < 0x800
    · obtain ⟨first, hfirst⟩ : ∃ byte : UInt8, byte.toNat = n / 64 + 0xC0 :=
        exists_toNat_eq (by omega)
      have hn : n = 64 * (first.toNat - 0xC0) + (last.toNat - 0x80) := by omega
      have hcompletes := completes_one_iff.mpr ⟨last, hlastRange, rfl, congrArg Char.ofNat hn⟩
      exact ⟨first, [last], _, encodeChar_of_two (by omega) hlastRange hn,
        opening_of_two (by omega), hcompletes⟩
    · obtain ⟨third, hthird⟩ : ∃ byte : UInt8, byte.toNat = n / 64 % 64 + 0x80 :=
        exists_toNat_eq (by omega)
      have hthirdRange : 0x80 ≤ third.toNat ∧ third.toNat ≤ 0xBF := by omega
      by_cases hthree : n < 0x10000
      · obtain ⟨first, hfirst⟩ : ∃ byte : UInt8, byte.toNat = n / 4096 + 0xE0 :=
          exists_toNat_eq (by omega)
        obtain ⟨low, high, hopening, hrange⟩ := opening_of_three (n := first.toNat) (by omega)
        have hn : n = 64 * (64 * (first.toNat - 0xE0) + (third.toNat - 0x80))
            + (last.toNat - 0x80) := by omega
        have hlastOnly := completes_one_iff.mpr ⟨last, hlastRange, rfl, congrArg Char.ofNat hn⟩
        have hcompletes := (completes_succ_iff (Nat.le_refl 1)).mpr
          ⟨third, [last], (hrange _).mpr (by omega), rfl, hlastOnly⟩
        exact ⟨first, [third, last], _,
          encodeChar_of_three (by omega) hthirdRange hlastRange hn (by omega) hvalid, hopening,
          hcompletes⟩
      · obtain ⟨first, hfirst⟩ : ∃ byte : UInt8, byte.toNat = n / 262144 + 0xF0 :=
          exists_toNat_eq (by omega)
        obtain ⟨second, hsecond⟩ : ∃ byte : UInt8, byte.toNat = n / 4096 % 64 + 0x80 :=
          exists_toNat_eq (by omega)
        obtain ⟨low, high, hopening, hrange⟩ := opening_of_four (n := first.toNat) (by omega)
        have hn : n = 64 * (64 * (64 * (first.toNat - 0xF0) + (second.toNat - 0x80))
            + (third.toNat - 0x80)) + (last.toNat - 0x80) := by omega
        have hlastOnly := completes_one_iff.mpr ⟨last, hlastRange, rfl, congrArg Char.ofNat hn⟩
        have hlastTwo := (completes_succ_iff (Nat.le_refl 1)).mpr
          ⟨third, [last], hthirdRange, rfl, hlastOnly⟩
        have hcompletes := (completes_succ_iff (by decide)).mpr
          ⟨second, [third, last], (hrange _).mpr (by omega), rfl, hlastTwo⟩
        exact ⟨first, [second, third, last], _,
          encodeChar_of_four (by omega) (by omega) hthirdRange hlastRange hn (by omega) (by omega),
          hopening, hcompletes⟩

/-! ### Reading -/

theorem step_none (read : List (Option Char)) (byte : UInt8) :
    Reading.step ⟨read, none⟩ byte = Reading.begin read byte.toNat :=
  rfl

theorem foldl_step_encodeChar (c : Char) (read : List (Option Char)) :
    (String.utf8EncodeChar c).foldl Reading.step ⟨read, none⟩ = ⟨some c :: read, none⟩ := by
  rcases encodeChar_cases c with ⟨byte, hbytes, hopening⟩ |
    ⟨first, tail, pending, hbytes, hopening, hcompletes⟩
  · rw [hbytes, List.foldl_cons, List.foldl_nil, step_none, Reading.begin, hopening]
  · rw [hbytes, List.foldl_cons, step_none, Reading.begin, hopening]
    exact hcompletes.foldl_step read

/-- What has been read stays. -/
theorem exists_read_step (reading : Reading) (byte : UInt8) :
    ∃ more, (reading.step byte).read = more ++ reading.read := by
  have hbegin (read : List (Option Char)) (n : Nat) :
      ∃ more, (Reading.begin read n).read = more ++ read := by
    unfold Reading.begin
    cases opening n with
    | whole c => exact ⟨[some c], rfl⟩
    | longer pending => exact ⟨[], rfl⟩
    | invalid => exact ⟨[none], rfl⟩
  obtain ⟨read, _ | pending⟩ := reading
  · exact hbegin read byte.toNat
  · by_cases hallows : pending.Allows byte
    · by_cases hneeded : pending.needed ≤ 1
      · exact ⟨[some _], congrArg Reading.read (step_last hneeded hallows read)⟩
      · exact ⟨[], congrArg Reading.read (step_next hneeded hallows read)⟩
    · obtain ⟨more, hmore⟩ := hbegin (none :: read) byte.toNat
      exact ⟨more ++ [none], by rw [step_of_not_allows hallows, hmore]; simp⟩

theorem exists_result_foldl (reading : Reading) (bytes : List UInt8) :
    ∃ more, (bytes.foldl Reading.step reading).result = reading.read.reverse ++ more := by
  induction bytes generalizing reading with
  | nil =>
    obtain ⟨read, _ | pending⟩ := reading
    · exact ⟨[], (List.append_nil _).symm⟩
    · exact ⟨[none], by simp [Reading.result]⟩
  | cons byte rest ih =>
    obtain ⟨later, hlater⟩ := ih (reading.step byte)
    obtain ⟨more, hmore⟩ := exists_read_step reading byte
    exact ⟨more.reverse ++ later, by rw [List.foldl_cons, hlater, hmore]; simp⟩

theorem none_mem_result {reading : Reading} (h : none ∈ reading.read) (bytes : List UInt8) :
    none ∈ (bytes.foldl Reading.step reading).result := by
  obtain ⟨more, hmore⟩ := exists_result_foldl reading bytes
  rw [hmore, List.mem_append, List.mem_reverse]
  exact Or.inl h

/-- A character that has begun is completed by the bytes to come, or there will be a hole. -/
theorem exists_completes_or_none_mem (pending : Pending) (read : List (Option Char))
    (bytes : List UInt8) :
    (∃ tail later c, bytes = tail ++ later ∧ Completes pending tail c)
      ∨ none ∈ (bytes.foldl Reading.step ⟨read, some pending⟩).result := by
  induction bytes generalizing pending with
  | nil => exact Or.inr (by simp [Reading.result])
  | cons byte rest ih =>
    rw [List.foldl_cons]
    by_cases hallows : pending.Allows byte
    · by_cases hneeded : pending.needed ≤ 1
      · exact Or.inl ⟨[byte], rest, _, rfl, Completes.last hneeded hallows⟩
      · rw [step_next hneeded hallows]
        rcases ih _ with ⟨tail, later, c, rfl, hcompletes⟩ | hnone
        · exact Or.inl ⟨byte :: tail, later, c, rfl, Completes.next hneeded hallows hcompletes⟩
        · exact Or.inr hnone
    · obtain ⟨more, hmore⟩ := exists_read_step ⟨none :: read, none⟩ byte
      rw [step_of_not_allows hallows, ← step_none]
      exact Or.inr (none_mem_result (by rw [hmore]; simp) rest)

/-- Bytes begin with those of a character, or something in them is read as none. -/
theorem exists_char_or_none_mem (first : UInt8) (rest : List UInt8) (read : List (Option Char)) :
    (∃ c later, first :: rest = String.utf8EncodeChar c ++ later)
      ∨ none ∈ ((first :: rest).foldl Reading.step ⟨read, none⟩).result := by
  rw [List.foldl_cons, step_none, Reading.begin]
  cases hopening : opening first.toNat with
  | whole c =>
    have hspelled := encodeChar_ofNat_of_lt (lt_of_opening_whole hopening)
    exact Or.inl ⟨_, rest, by rw [hspelled]; rfl⟩
  | longer pending =>
    rcases exists_completes_or_none_mem pending read rest with ⟨tail, later, c, rfl, h⟩ | hnone
    · exact Or.inl ⟨c, later, by rw [h.encodeChar_eq hopening]; rfl⟩
    · exact Or.inr hnone
  | invalid => exact Or.inr (none_mem_result List.mem_cons_self rest)

/-! ### Texts and their bytes -/

theorem mapM_id_eq_some_iff {α : Type} {items : List (Option α)} {values : List α} :
    items.mapM id = some values ↔ items = values.map some := by
  induction items generalizing values with
  | nil => cases values <;> simp
  | cons item rest ih =>
    rw [List.mapM_cons]
    cases item with
    | none => cases values <;> simp
    | some value =>
      cases values with
      | nil => simp [Option.bind_eq_some_iff]
      | cons first others =>
        simp only [id, Option.bind_eq_bind, Option.bind_some, Option.bind_eq_some_iff, ih,
          Option.pure_def, Option.some.injEq, List.cons.injEq, List.map_cons]
        grind

theorem encode_cons (c : Char) (rest : List Char) :
    encode (c :: rest) = String.utf8EncodeChar c ++ encode rest :=
  List.flatMap_cons

theorem result_encode (text : List Char) (read : List (Option Char)) :
    ((encode text).foldl Reading.step ⟨read, none⟩).result = read.reverse ++ text.map some := by
  induction text generalizing read with
  | nil => exact (List.append_nil _).symm
  | cons c rest ih =>
    rw [encode_cons, List.foldl_append, foldl_step_encodeChar, ih]
    simp

theorem exists_eq_encode {bytes : List UInt8} {read : List (Option Char)}
    (h : none ∉ (bytes.foldl Reading.step ⟨read, none⟩).result) : ∃ text, bytes = encode text := by
  induction hlength : bytes.length using Nat.strongRecOn generalizing bytes read with
  | ind n ih =>
    cases bytes with
    | nil => exact ⟨[], rfl⟩
    | cons first rest =>
      rcases exists_char_or_none_mem first rest read with ⟨c, later, hbytes⟩ | hnone
      · rw [hbytes, List.foldl_append, foldl_step_encodeChar] at h
        have hshorter : later.length < n := by
          have hpos := c.utf8Size_pos
          rw [← hlength, hbytes, List.length_append, String.length_utf8EncodeChar]
          omega
        obtain ⟨text, rfl⟩ := ih later.length hshorter h rfl
        exact ⟨c :: text, by rw [hbytes, encode_cons]⟩
      · exact absurd hnone h

theorem decode?_encode (text : List Char) : decode? (encode text) = some text := by
  rw [decode?, mapM_id_eq_some_iff, readings, result_encode]
  rfl

/-- Bytes are read as a text exactly if they are its bytes. -/
theorem decode?_eq_some_iff {bytes : List UInt8} {text : List Char} :
    decode? bytes = some text ↔ bytes = encode text := by
  constructor
  · intro h
    have hreadings : readings bytes = text.map some := mapM_id_eq_some_iff.mp h
    have hnone : none ∉ readings bytes := by simp [hreadings]
    obtain ⟨spelled, rfl⟩ := exists_eq_encode hnone
    rw [decode?_encode, Option.some.injEq] at h
    rw [h]
  · rintro rfl
    exact decode?_encode text

end LoginThrottle.Text.Utf8
