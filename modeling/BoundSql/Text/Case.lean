import BoundSql.Text.CaseTable

/-!
# Letter case

Full lower-case and upper-case forms of text. A character may become several.
The capital sigma is the one letter whose lower-case form depends on its
neighbours: at the end of a word it takes the final form.
-/

namespace BoundSql
namespace Text

/-- The form of one character under a table of expansions and a table of runs. -/
def caseForm
    (expansions : List (Nat × List Nat))
    (runs : List CaseRun)
    (c : Char) : List Char :=
  match expansions.lookup c.toNat with
  | some codes => codes.map Char.ofNat
  | none =>
      match runs.findSome? (·.form? c.toNat) with
      | some code => [Char.ofNat code]
      | none => [c]

/-- The lower-case form of a character on its own. -/
def lowerForm (c : Char) : List Char :=
  caseForm lowerExpansions lowerRuns c

/-- The upper-case form of a character. -/
def upperForm (c : Char) : List Char :=
  caseForm upperExpansions upperRuns c

/-- Whether the nearest character that is not ignored is a letter with case. -/
def nearestIsCased : List Char → Bool
  | [] => false
  | c :: rest =>
      if inRanges caseIgnorableRanges c then nearestIsCased rest else inRanges casedRanges c

/-- Lower-case a text whose preceding characters, nearest first, are `before`. -/
def lowerAfter (before : List Char) : List Char → List Char
  | [] => []
  | c :: rest =>
      let form :=
        if c == 'Σ' then
          if nearestIsCased before && !nearestIsCased rest then ['ς'] else ['σ']
        else
          lowerForm c
      form ++ lowerAfter (c :: before) rest

/-- The lower-case form of a text. -/
def lower (s : List Char) : List Char :=
  lowerAfter [] s

/-- The upper-case form of a text. -/
def upper (s : List Char) : List Char :=
  s.flatMap upperForm

end Text
end BoundSql
