import LoginThrottle.Compression.Stream

/-!
Codes for symbols in which no code word begins with another. A code is given by the lengths of its
words: words of one length follow each other in the order of their symbols, and shorter words come
before longer ones.
-/

set_option autoImplicit false
set_option relaxedAutoImplicit false

namespace LoginThrottle.Compression

inductive PrefixCode
  | none
  | symbol (value : Nat)
  | branch (zero one : PrefixCode)
  deriving DecidableEq, Repr, Inhabited

namespace PrefixCode

/-- The part of a code that is below a place at the given depth, for words in their order with
their lengths, and the words that find no room there. -/
def grow : Nat → Nat → List (Nat × Nat) → PrefixCode × List (Nat × Nat)
  | _, _, [] => (none, [])
  | 0, _, words => (none, words)
  | fuel + 1, depth, (length, value) :: words =>
    if length ≤ depth then (symbol value, words)
    else
      let (zero, words) := grow fuel (depth + 1) ((length, value) :: words)
      let (one, words) := grow fuel (depth + 1) words
      (branch zero one, words)

/-- The length beyond which no word goes. -/
def lengthLimit : Nat :=
  15

/-- The code with these lengths of words by symbol, where no length means no word. -/
def ofLengths (lengths : List Nat) : PrefixCode :=
  let words := (lengths.zipIdx.filter (·.1 != 0)).mergeSort fun a b ↦ a.1 ≤ b.1
  (grow (lengthLimit + 1) 0 words).1

/-- The room that words of these lengths take, in words of the greatest length. -/
def room (lengths : List Nat) : Nat :=
  (lengths.filter (· != 0)).foldl (fun sum length ↦ sum + Nat.pow 2 (lengthLimit - length)) 0

/-- Whether the words leave no room and have enough of it. -/
def isComplete (lengths : List Nat) : Bool :=
  room lengths == Nat.pow 2 lengthLimit

def walk : PrefixCode → Expander Nat
  | none => throw .corrupt
  | symbol value => return value
  | branch zero one => do
    if ← Expander.bit then walk one else walk zero

/-- The symbol whose word is next. That a code has none is seen only when there is a bit. -/
def read : PrefixCode → Expander Nat
  | none => do
    discard Expander.bit
    throw .corrupt
  | code => walk code

end PrefixCode

end LoginThrottle.Compression
