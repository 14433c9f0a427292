import BoundSql.Text.Quoted

/-!
# Universally unique identifiers

Identifiers of 128 bits. Their text has 32 hexadecimal digits in groups of 8, 4,
4, 4 and 12.
-/

namespace BoundSql

/-- An identifier of 128 bits. -/
structure Uuid where
  value : BitVec 128
  deriving DecidableEq, Repr

namespace Uuid

/-- Lengths of the groups of digits. -/
def groups : List Nat := [8, 4, 4, 4, 12]

/-- Cut a list into pieces of the given lengths. -/
def cut {α : Type} : List Nat → List α → List (List α)
  | [], _ => []
  | size :: sizes, items => items.take size :: cut sizes (items.drop size)

/-- The text of an identifier. -/
def text (id : Uuid) : String :=
  String.ofList (['-'].intercalate (cut groups (Text.hexDigits 32 id.value.toNat)))

/-- The value of a hexadecimal digit. -/
def hexValue? (c : Char) : Option Nat :=
  if c.isDigit then some (c.toNat - '0'.toNat)
  else if 'a' ≤ c.toLower && c.toLower ≤ 'f' then some (c.toLower.toNat - 'a'.toNat + 10)
  else none

/-- The number that hexadecimal digits denote. -/
def hexNumber? (digits : List Char) : Option Nat :=
  digits.foldlM (fun value c => (hexValue? c).map (16 * value + ·)) 0

/-- Read an identifier, with or without the hyphens between its groups. -/
def ofText? (s : List Char) : Option Uuid := do
  let digits := s.filter (· != '-')
  let hyphenated := ['-'].intercalate (cut groups digits)
  if digits.length != 32 || (s != digits && s != hyphenated) then none
  (hexNumber? digits).map fun value => ⟨BitVec.ofNat 128 value⟩

end Uuid
end BoundSql
