/-!
# Similar words

The similarity of two words is twice the number of characters in their matching
blocks over the number of all their characters. The matching blocks are found by
taking the longest run of characters that the words share and going on to its
left and to its right. Of several longest runs the one that starts first in the
first word counts, then the one that starts first in the second word.

In a long second word, characters that occur often do not start a shared run.
They may still extend one.
-/

namespace BoundSql
namespace Text

/-- A run of `size` characters shared by two words, from `left` in the first and `right` in the
second. -/
structure SharedRun where
  left : Nat
  right : Nat
  size : Nat
  deriving DecidableEq, Repr

/-- The length from which a word has characters that occur often. -/
def longWordLength : Nat := 200

/-- The characters that occur often in a long word: more often than once in a hundred places and
once more. -/
def frequentChars (word : List Char) : List Char :=
  if longWordLength <= word.length then
    word.eraseDups.filter fun c => word.length / 100 + 1 < word.count c
  else
    []

/-- Lengths of the shared runs that end at one character of the first word, by their end in the
second word, from those that end one character before. -/
def extendRuns
    (starts : Char → Bool)
    (c : Char)
    (word : List Char)
    (previous : List Nat) : List Nat :=
  List.zipWith (fun d before => if c == d && starts d then before + 1 else 0) word (0 :: previous)

/-- The longer run, or the earlier one of two equally long ones. -/
def longerRun (best : SharedRun) (leftEnd : Nat) (lengths : List Nat) : SharedRun :=
  lengths.zipIdx.foldl
    (fun best (size, rightEnd) =>
      if best.size < size then ⟨leftEnd + 1 - size, rightEnd + 1 - size, size⟩ else best)
    best

/-- The longest shared run that ends at or after the given place of the first word. -/
def longestRunFrom
    (starts : Char → Bool)
    (second : List Char) : List Char → Nat → List Nat → SharedRun → SharedRun
  | [], _, _, best => best
  | c :: rest, place, previous, best =>
      let lengths := extendRuns starts c second previous
      longestRunFrom starts second rest (place + 1) lengths (longerRun best place lengths)

/-- Number of characters at which two lists agree from their beginnings. -/
def agreement : List Char → List Char → Nat
  | c :: first, d :: second => if c == d then agreement first second + 1 else 0
  | _, _ => 0

/-- Extend a run to both sides as far as the words agree. -/
def SharedRun.widen (run : SharedRun) (first second : List Char) : SharedRun :=
  let backward := agreement (first.take run.left).reverse (second.take run.right).reverse
  let forward := agreement (first.drop (run.left + run.size)) (second.drop (run.right + run.size))
  ⟨run.left - backward, run.right - backward, backward + run.size + forward⟩

/-- The longest run two words share, or an empty one. -/
def longestRun (starts : Char → Bool) (first second : List Char) : SharedRun :=
  let none := List.replicate second.length 0
  (longestRunFrom starts second first 0 none ⟨0, 0, 0⟩).widen first second

/-- Number of characters in the matching blocks of two words. -/
def matchedCount (starts : Char → Bool) (first second : List Char) : Nat :=
  let run := longestRun starts first second
  if _inside : 0 < run.size ∧ run.left < first.length then
    matchedCount starts (first.take run.left) (second.take run.right) + run.size +
      matchedCount starts (first.drop (run.left + run.size)) (second.drop (run.right + run.size))
  else
    0
termination_by first.length
decreasing_by
  all_goals
    obtain ⟨someSize, leftInside⟩ := _inside
    simp only [run] at someSize leftInside
    simp only [List.length_take, List.length_drop]
    omega

/-- The similarity of a candidate to a word, as a fraction: numerator and denominator. -/
def similarity (candidate word : List Char) : Nat × Nat :=
  let total := candidate.length + word.length
  if total == 0 then
    (1, 1)
  else
    let frequent := frequentChars word
    (2 * matchedCount (fun c => !frequent.contains c) candidate word, total)

/-- Order of fractions, given as numerator and denominator. -/
def fractionLe (a b : Nat × Nat) : Bool :=
  a.1 * b.2 <= b.1 * a.2

/-- Whether the first of two rated words is at least as good: by rating, then by text. -/
def ratedAtLeast (a b : (Nat × Nat) × String) : Bool :=
  if fractionLe a.1 b.1 && fractionLe b.1 a.1 then decide (b.2 ≤ a.2) else fractionLe b.1 a.1

/-- How many similar words are suggested at most. -/
def suggestionLimit : Nat := 3

/-- The candidates that share at least half of their characters with a word, best first. -/
def closeMatches (word : String) (candidates : List String) : List String :=
  let rated := candidates.map fun c => (similarity c.toList word.toList, c)
  let close := rated.filter fun r => fractionLe (1, 2) r.1
  ((close.mergeSort ratedAtLeast).take suggestionLimit).map (·.2)

end Text
end BoundSql
