import BoundSql.Text.CodeRange

/-!
# Blanks and trimming

The blanks of all scripts, and trimming by any class of characters. Trimming
removes from both ends and never from the middle.
-/

namespace BoundSql
namespace Text

/-- The white space of all scripts together with the four information separators. -/
def blankRanges : List CodeRange := [
    (0x0009, 0x000d), (0x001c, 0x0020), (0x0085, 0x0085), (0x00a0, 0x00a0), (0x1680, 0x1680),
    (0x2000, 0x200a), (0x2028, 0x2029), (0x202f, 0x202f), (0x205f, 0x205f), (0x3000, 0x3000)]

/-- Whether a character is a blank. -/
def isBlank (c : Char) : Bool :=
  inRanges blankRanges c

/-- Drop the longest end of a list whose members all satisfy a test. -/
def dropTrailing {α : Type} (test : α → Bool) (items : List α) : List α :=
  (items.reverse.dropWhile test).reverse

/-- Drop from both ends of a list the members that satisfy a test. -/
def trimBy {α : Type} (test : α → Bool) (items : List α) : List α :=
  dropTrailing test (items.dropWhile test)

/-- Drop the blanks at both ends. -/
def strip (s : List Char) : List Char :=
  trimBy isBlank s

end Text
end BoundSql
