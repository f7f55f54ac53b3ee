import LoginThrottle.Text.Decimal

/-!
The shortest decimal text of a floating-point number. Every number that is closer to a given
floating-point number than to its neighbours reads back as that number; so does a number half way
to a neighbour if the significand is even. Of the decimals that read back, those on the coarsest
grid of powers of ten have the fewest digits, and of two of them the nearer is taken. The text is
positional: there is no exponent, and no point without a digit after it.
-/

set_option autoImplicit false
set_option relaxedAutoImplicit false

namespace LoginThrottle.Text

/-- The positive number `significand * 2 ^ exponent`. Its lower neighbour is only half as far away
as the upper one if `narrow` is set. -/
structure Binary where
  significand : Nat
  exponent : Int
  narrow : Bool
  deriving DecidableEq, Repr

/-- The number `digits * 10 ^ exponent`. -/
structure Scientific where
  digits : Nat
  exponent : Int
  deriving DecidableEq, Repr

namespace Binary

/-- The four-fold number, and the distances from it to the ends of the interval that reads back as
the number, all over one denominator. -/
structure Interval where
  value : Nat
  below : Nat
  above : Nat
  denominator : Nat
  closed : Bool
  deriving DecidableEq, Repr

def interval (number : Binary) : Interval :=
  let scale := Nat.pow 2 number.exponent.toNat
  { value := 4 * number.significand * scale
    below := (if number.narrow then 1 else 2) * scale
    above := 2 * scale
    denominator := 4 * Nat.pow 2 (-number.exponent).toNat
    closed := number.significand % 2 == 0 }

/-- Whether a multiple of a power of ten reads back as the number. -/
def Interval.holds (interval : Interval) (grid : Int) (multiple : Nat) : Bool :=
  let candidate := multiple * Nat.pow 10 grid.toNat * interval.denominator
  let scale := Nat.pow 10 (-grid).toNat
  let low := (interval.value - interval.below) * scale
  let high := (interval.value + interval.above) * scale
  if interval.closed then low ≤ candidate && candidate ≤ high
  else low < candidate && candidate < high

/-- The multiple of a power of ten that reads back as the number and is nearest to it. -/
def Interval.onGrid? (interval : Interval) (grid : Int) : Option Scientific :=
  let scaled := interval.value * Nat.pow 10 (-grid).toNat
  let step := Nat.pow 10 grid.toNat * interval.denominator
  let lower := scaled / step
  let nearest : List Nat :=
    if 2 * (scaled % step) ≤ step then [lower, lower + 1] else [lower + 1, lower]
  (nearest.find? (interval.holds grid)).map fun digits ↦ ⟨digits, grid⟩

/-- The powers of ten that a floating-point number may need, from the coarsest on. -/
def grids : List Int :=
  (List.range 700).map fun (i : Nat) ↦ 310 - (i : Int)

def shortest? (number : Binary) : Option Scientific :=
  let interval := number.interval
  grids.findSome? interval.onGrid?

end Binary

/-- The positional text of a number. -/
def Scientific.write (number : Scientific) : String :=
  let digits := writeNat number.digits
  if 0 ≤ number.exponent then
    String.ofList (digits ++ List.replicate number.exponent.toNat '0')
  else
    let places := (-number.exponent).toNat
    let padded := List.replicate (places + 1 - digits.length) '0' ++ digits
    let whole := padded.length - places
    String.ofList (padded.take whole ++ '.' :: padded.drop whole)

/-- The finite positive number that a word of bits stands for. -/
def Binary.ofBits? (bits : UInt64) : Option Binary :=
  let field : Nat := bits.toNat / Nat.pow 2 52 % Nat.pow 2 11
  let fraction : Nat := bits.toNat % Nat.pow 2 52
  if field = 0x7FF then none
  else if field = 0 then
    if fraction = 0 then none else some ⟨fraction, -1074, false⟩
  else some ⟨Nat.pow 2 52 + fraction, (field : Int) - 1075, fraction == 0 && field != 1⟩

/-- The text of a floating-point number. -/
def ofFloat (x : Float) : String :=
  let sign := if x < 0 then "-" else ""
  if x.isNaN then "NaN"
  else if x.isInf then sign ++ "inf"
  else
    match (Binary.ofBits? x.abs.toBits).bind Binary.shortest? with
    | some number => sign ++ number.write
    | none => sign ++ "0"

end LoginThrottle.Text
