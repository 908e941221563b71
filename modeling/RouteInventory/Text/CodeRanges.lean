/-!
Sets of characters given by ranges of code points, as the Unicode data files give them. Membership
is a search along an ascending list.
-/

namespace RouteInventory.Text

/-- Whether `n` lies in one of the inclusive ranges, which ascend and do not touch; the search
    stops at the first range beyond `n`. -/
def inRanges : List (Nat × Nat) → Nat → Bool
  | [], _ => false
  | (low, high) :: rest, n => if n < low then false else n ≤ high || inRanges rest n

/-- A run of code points that all move by the same distance: every `stride`-th one from `first` to
    `last` is `shift` away from its image. -/
structure Shift where
  first : Nat
  last : Nat
  stride : Nat
  shift : Int

/-- The image of `n` under ascending runs; a code point in none of them stays where it is. -/
def shiftBy : List Shift → Nat → Nat
  | [], n => n
  | r :: rest, n =>
    if n < r.first then n
    else if n ≤ r.last ∧ (n - r.first) % r.stride = 0 then (n + r.shift).toNat
    else shiftBy rest n

end RouteInventory.Text
