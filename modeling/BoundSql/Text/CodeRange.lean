/-!
# Ranges of code points

Classes of characters are given as lists of inclusive ranges of code points.
This module only decides membership; each class is a list in the module of the
property it stands for.
-/

namespace BoundSql
namespace Text

/-- The first and the last code point of an inclusive range. -/
abbrev CodeRange := Nat × Nat

/-- Whether a character lies in one of the ranges. -/
def inRanges (ranges : List CodeRange) (c : Char) : Bool :=
  ranges.any fun range => range.1 <= c.toNat && c.toNat <= range.2

end Text
end BoundSql
