/-!
# Sets of code points

A character class beyond the first 128 code points is data of a standard: a list of closed ranges.
Membership is a search through the list, so a fact about one character is decided by evaluation.
-/

namespace Cyclomatic.Text

/-- A set of code points, given by closed ranges. -/
structure Ranges where
  ranges : List (Nat × Nat)

/-- Whether a code point lies in one of the ranges. -/
def Ranges.contains (r : Ranges) (n : Nat) : Bool :=
  r.ranges.any fun p => p.1 ≤ n && n ≤ p.2

/-- The first 128 code points, whose classes are spelled out rather than looked up. -/
def isBasic (c : Char) : Bool :=
  c.toNat < 0x80

end Cyclomatic.Text
