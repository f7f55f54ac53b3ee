/-!
Association lists in ascending order of their keys. Two keys that compare equal are the same key,
even where they are spelled differently, and a key that is already there keeps its spelling when
its value changes.
-/

set_option autoImplicit false
set_option relaxedAutoImplicit false

namespace LoginThrottle.Ordered

variable {κ ν : Type} [Ord κ]

def find? (key : κ) : List (κ × ν) → Option ν
  | [] => none
  | (k, v) :: rest => if compare key k = .eq then some v else find? key rest

/-- What `change` makes of the value under the key, or of nothing if the key is missing, is put
under the key. -/
def upsert (key : κ) (change : Option ν → ν) : List (κ × ν) → List (κ × ν)
  | [] => [(key, change none)]
  | (k, v) :: rest =>
    match compare key k with
    | .lt => (key, change none) :: (k, v) :: rest
    | .eq => (k, change (some v)) :: rest
    | .gt => (k, v) :: upsert key change rest

def erase (key : κ) : List (κ × ν) → List (κ × ν)
  | [] => []
  | (k, v) :: rest => if compare key k = .eq then rest else (k, v) :: erase key rest

/-- The keys ascend strictly, so none occurs twice. -/
def Ascending (entries : List (κ × ν)) : Prop :=
  entries.Pairwise fun a b ↦ compare a.1 b.1 = .lt

end LoginThrottle.Ordered
