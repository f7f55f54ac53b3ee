import LoginThrottle.Compression.Stream

/-!
Commands of the `br` format. A command is a number of literals and then a copy of what came before.
Its symbol says how long either is, up to some more bits, and whether the copy is from the distance
of the copy before. A distance is one of the last four, or close to one of the last two, or given
in full.
-/

set_option autoImplicit false
set_option relaxedAutoImplicit false

namespace LoginThrottle.Compression.Brotli

/-- The least number and the extra bits for a number of literals. -/
def insertRanges : List (Nat × Nat) :=
  [(0, 0), (1, 0), (2, 0), (3, 0), (4, 0), (5, 0), (6, 1), (8, 1), (10, 2), (14, 2), (18, 3),
    (26, 3), (34, 4), (50, 4), (66, 5), (98, 5), (130, 6), (194, 7), (322, 8), (578, 9),
    (1090, 10), (2114, 12), (6210, 14), (22594, 24)]

/-- The least length and the extra bits for a copy. -/
def copyRanges : List (Nat × Nat) :=
  [(2, 0), (3, 0), (4, 0), (5, 0), (6, 0), (7, 0), (8, 0), (9, 0), (10, 1), (12, 1), (14, 2),
    (18, 2), (22, 3), (30, 3), (38, 4), (54, 4), (70, 5), (102, 5), (134, 6), (198, 7), (326, 8),
    (582, 9), (1094, 10), (2118, 24)]

/-- The least length and the extra bits for a run of symbols of one block type. -/
def runRanges : List (Nat × Nat) :=
  [(1, 2), (5, 2), (9, 2), (13, 2), (17, 3), (25, 3), (33, 3), (41, 3), (49, 4), (65, 4), (81, 4),
    (97, 4), (113, 5), (145, 5), (177, 5), (209, 5), (241, 6), (305, 6), (369, 7), (497, 8),
    (753, 9), (1265, 10), (2289, 11), (4337, 12), (8433, 13), (16625, 24)]

/-- A number in one of the ranges. -/
def readIn (ranges : List (Nat × Nat)) (index : Nat) : Expander Nat := do
  let some (least, extra) := ranges[index]? | throw .corrupt
  return least + (← Expander.number extra)

structure Command where
  inserted : Nat
  copied : Nat
  sameDistance : Bool
  deriving DecidableEq, Repr

/-- The first range for insertion and the first for copying, for each 64 of the symbols. -/
def rangeOffsets : List (Nat × Nat) :=
  [(0, 0), (0, 8), (0, 0), (0, 8), (8, 0), (8, 8), (0, 16), (16, 0), (8, 16), (16, 8), (16, 16)]

/-- The command of a symbol, whose extra bits are next. -/
def readCommand (symbol : Nat) : Expander Command := do
  let some (insertOffset, copyOffset) := rangeOffsets[symbol / 64]? | throw .corrupt
  let inserted ← readIn insertRanges (insertOffset + symbol / 8 % 8)
  let copied ← readIn copyRanges (copyOffset + symbol % 8)
  return ⟨inserted, copied, symbol < 128⟩

/-- How the distances of a block are written: how many of them have a symbol of their own, and how
many low bits of the others their symbols have. -/
structure DistanceForm where
  direct : Nat
  lowBits : Nat
  deriving DecidableEq, Repr

/-- The number of symbols for distances like the last ones. -/
def recentSymbols : Nat :=
  16

/-- The number of distance symbols. -/
def DistanceForm.size (form : DistanceForm) : Nat :=
  recentSymbols + form.direct + 48 * Nat.pow 2 form.lowBits

/-- By how much a distance differs from the last one, or from the one before. -/
def nearOffsets : List Int :=
  [-1, 1, -2, 2, -3, 3]

/-- The distance like one of the last four, which are given from the last to the first. There is
none that is not positive. -/
def recentDistance? (recent : List Nat) (symbol : Nat) : Option Nat := do
  if symbol < 4 then recent[symbol]?
  else
    let near := symbol - 4
    let distance := (← recent[near / 6]?) + (← nearOffsets[near % 6]?)
    if 0 < distance then some distance.toNat else none

/-- The distance of a symbol, whose extra bits are next. -/
def readDistance (form : DistanceForm) (recent : List Nat) (symbol : Nat) : Expander Nat := do
  if symbol < recentSymbols then
    let some distance := recentDistance? recent symbol | throw .corrupt
    return distance
  else if symbol < recentSymbols + form.direct then return symbol - recentSymbols + 1
  else
    let place := symbol - recentSymbols - form.direct
    let half := place / Nat.pow 2 form.lowBits
    let extra := half / 2 + 1
    let high := (2 + half % 2) * Nat.pow 2 extra - 4 + (← Expander.number extra)
    return form.direct + high * Nat.pow 2 form.lowBits + place % Nat.pow 2 form.lowBits + 1

end LoginThrottle.Compression.Brotli
