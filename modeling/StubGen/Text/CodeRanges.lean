/-!
# StubGen.Text.CodeRanges

Sets of characters, given as inclusive ranges of code points.  The character classes of this
library are such tables: each is named for the property that its members share, holds the code
points from `0x80` on, and stands beside a plain test for the ASCII half.
-/

namespace StubGen.Text

/-- A set of characters, as inclusive ranges of code points in ascending order. -/
abbrev CodeRanges := List (Nat × Nat)

/-- Whether the code point of a character lies in one of the ranges. -/
def CodeRanges.has (ranges : CodeRanges) (c : Char) : Bool :=
  ranges.any fun range => range.1 ≤ c.toNat && c.toNat ≤ range.2

end StubGen.Text
