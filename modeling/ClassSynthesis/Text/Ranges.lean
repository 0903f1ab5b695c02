/-!
# Sets of characters

A set of characters is written as the inclusive ranges of code points that make it up, in
increasing order, so that a search ends at the first range that begins after the character.
-/

namespace ClassSynthesis.Text

/-- Inclusive ranges of code points, first and last, in increasing order. -/
abbrev Ranges := List (Nat × Nat)

/-- The character lies in one of the ranges. -/
def Ranges.contains : Ranges → Char → Bool
  | [], _ => false
  | (first, last) :: rest, c =>
    if c.toNat < first then false else c.toNat ≤ last || Ranges.contains rest c

end ClassSynthesis.Text
