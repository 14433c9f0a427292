import BoundSql.Number.Binary64

/-!
# Shortest decimal text

A finite double-precision number is written with the fewest decimal digits that
read back as the same number, and among those with the digits nearest to it. For
each number of digits, only the two neighbours of the number on the decimal grid
of that many digits can be nearest, so only they are tried. The exact decimal
expansion stands behind the search.

How the digits are laid out is a separate decision: positionally when the point
falls near them, with an exponent otherwise.
-/

namespace BoundSql

/-- A decimal magnitude, `coefficient * 10 ^ exponent`. -/
structure DecimalDigits where
  coefficient : Nat
  exponent : Int
  deriving DecidableEq, Repr

namespace DecimalDigits

/-- Whether the magnitude nearest to a decimal is the given one. -/
def readsAs (digits : DecimalDigits) (magnitude : Magnitude) : Bool :=
  Binary64.ofDecimal false digits.coefficient digits.exponent = .finite false magnitude

/-- Drop the zeros at the end of the coefficient, `fuel` of them at most. -/
def dropZeros : Nat → DecimalDigits → DecimalDigits
  | 0, digits => digits
  | fuel + 1, digits =>
      if digits.coefficient ≠ 0 && digits.coefficient % 10 == 0 then
        dropZeros fuel ⟨digits.coefficient / 10, digits.exponent + 1⟩
      else
        digits

/-- The same decimal without zeros at the end of its coefficient. -/
def normalize (digits : DecimalDigits) : DecimalDigits :=
  dropZeros (Nat.toDigits 10 digits.coefficient).length digits

end DecimalDigits

namespace Magnitude

/-- A power of ten that lifts every magnitude but zero above one. -/
def liftExponent : Nat := 400

/-- The number of digits before the point, or minus the number of zeros after it. -/
def pointPlace (magnitude : Magnitude) : Int :=
  let lifted := magnitude.units * Nat.pow 10 liftExponent / unitsPerOne
  ((Nat.toDigits 10 lifted).length : Int) - liftExponent

/-- The two neighbours of a magnitude on a decimal grid, the nearer one first; of two equally near
ones the one with the even coefficient. -/
def gridNeighbours (magnitude : Magnitude) (exponent : Int) : List DecimalDigits :=
  let numerator := magnitude.units * Nat.pow 10 (-exponent).toNat
  let denominator := unitsPerOne * Nat.pow 10 exponent.toNat
  let below := numerator / denominator
  let nearer := roundedQuotient numerator denominator
  let farther := if nearer == below then below + 1 else below
  [⟨nearer, exponent⟩, ⟨farther, exponent⟩]

/-- Any double-precision number is determined by this many decimal digits. -/
def digitLimit : Nat := 17

/-- A decimal of the fewest digits that reads back as the magnitude, if the search meets one. -/
def shortestHit? (magnitude : Magnitude) : Option DecimalDigits :=
  let place := magnitude.pointPlace
  (List.range digitLimit).findSome? fun (places : Nat) =>
    (magnitude.gridNeighbours (place - 1 - places)).find? (·.readsAs magnitude)

/-- The exact decimal expansion of a magnitude. -/
def exactDigits (magnitude : Magnitude) : DecimalDigits :=
  ⟨magnitude.units * Nat.pow 5 smallestPower, -(smallestPower : Int)⟩

/-- The shortest decimal that reads back as the magnitude. -/
def shortest (magnitude : Magnitude) : DecimalDigits :=
  if magnitude.val == 0 then ⟨0, 0⟩
  else (magnitude.shortestHit?.getD magnitude.exactDigits).normalize

end Magnitude

/-- How a decimal is laid out as text: the exponents of the first digit that are written
positionally, and the texts of the numbers that are not finite. -/
structure RealLayout where
  leastPositional : Int
  exponentFrom : Int
  nan : String
  infinity : String

namespace RealLayout

/-- Shown numbers are positional from `1e-4` to below `1e16`. -/
def shown : RealLayout := ⟨-4, 16, "nan", "inf"⟩

/-- Bound numbers are laid out like shown ones and name what is not finite in full. -/
def bound : RealLayout := ⟨-4, 16, "NaN", "Infinity"⟩

/-- Digits with a point among, before or behind them; `place` digits stand before the point. -/
def positional (digits : List Char) (place : Int) : List Char :=
  if place ≤ 0 then
    '0' :: '.' :: List.replicate (-place).toNat '0' ++ digits
  else if (digits.length : Int) ≤ place then
    digits ++ List.replicate (place.toNat - digits.length) '0' ++ ['.', '0']
  else
    digits.take place.toNat ++ '.' :: digits.drop place.toNat

/-- Digits with a point behind the first one and an exponent of at least two digits. -/
def scientific (digits : List Char) (exponent : Int) : List Char :=
  let mantissa :=
    match digits with
    | first :: second :: rest => first :: '.' :: second :: rest
    | short => short
  let sign := if exponent < 0 then '-' else '+'
  let written := Nat.toDigits 10 exponent.natAbs
  mantissa ++ 'e' :: sign :: List.replicate (2 - written.length) '0' ++ written

/-- The text of a decimal magnitude. -/
def magnitude (layout : RealLayout) (decimal : DecimalDigits) : List Char :=
  let digits := Nat.toDigits 10 decimal.coefficient
  let place := decimal.exponent + digits.length
  if layout.leastPositional ≤ place - 1 && place - 1 < layout.exponentFrom then
    positional digits place
  else
    scientific digits (place - 1)

/-- The sign of a text that has one. -/
def signed (negative : Bool) (text : String) : String :=
  if negative then "-" ++ text else text

/-- The text of a number: the fewest digits that read back. -/
def text (layout : RealLayout) : Binary64 → String
  | .nan => layout.nan
  | .infinite negative => signed negative layout.infinity
  | .finite negative m => signed negative (String.ofList (layout.magnitude m.shortest))

end RealLayout
end BoundSql
