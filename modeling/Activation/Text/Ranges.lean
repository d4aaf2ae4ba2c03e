/-!
# Sets of code points

A character class is a list of closed ranges of code points, ascending and apart. The
tables of this library (blank, printable, cased, case-ignorable) all have this shape.
-/

namespace Activation.Text

/-- A set of code points as closed ranges `(first, last)`. -/
abbrev Ranges := List (Nat × Nat)

/-- Whether a code point lies in one of the ranges. -/
def Ranges.contains (ranges : Ranges) (code : Nat) : Bool :=
  ranges.any fun r => r.1 ≤ code && code ≤ r.2

/-- The ranges ascend and leave a gap between neighbours, so no smaller list denotes the
same set. -/
def Ranges.Ascending : Ranges → Bool
  | [] => true
  | [r] => r.1 ≤ r.2
  | r :: s :: rest => r.1 ≤ r.2 && r.2 + 1 < s.1 && Ranges.Ascending (s :: rest)

end Activation.Text
