/-!
# Double-precision numbers

Binary floating-point numbers of double precision as exact data. A magnitude is
a number code: the codes count the finite magnitudes upwards from zero, so the
order of codes is the order of magnitudes and neighbouring codes are
neighbouring magnitudes. Every magnitude is a whole multiple of the smallest
one, which is `2 ^ -1074`; the multiple is its count of units.

Rounding takes an exact fraction to the nearest magnitude, and a fraction half
way between two magnitudes to the one with the even code.
-/

namespace BoundSql

/-- Number of codes that share one spacing. -/
def binadeSize : Nat := Nat.pow 2 52

/-- One more than the largest code of a finite magnitude. -/
def magnitudeLimit : Nat := 2047 * binadeSize

/-- The power of a half that the smallest magnitude is. -/
def smallestPower : Nat := 1074

/-- The denominator of the smallest magnitude. -/
def unitsPerOne : Nat := Nat.pow 2 smallestPower

/-- The code of a finite magnitude. -/
abbrev Magnitude := Fin magnitudeLimit

/-- A double-precision number. -/
inductive Binary64
  | nan
  | infinite (negative : Bool)
  | finite (negative : Bool) (magnitude : Magnitude)
  deriving DecidableEq, Repr

namespace Magnitude

/-- The power of two by which the units of a code are spaced. -/
def spacing (magnitude : Magnitude) : Nat :=
  magnitude.val / binadeSize - 1

/-- The exact value of a magnitude, counted in units of the smallest one. -/
def units (magnitude : Magnitude) : Nat :=
  (magnitude.val - magnitude.spacing * binadeSize) * Nat.pow 2 magnitude.spacing

/-- The quotient of two numbers rounded to the nearest whole number, a half to the even one. -/
def roundedQuotient (numerator denominator : Nat) : Nat :=
  let quotient := numerator / denominator
  let twiceRest := 2 * (numerator % denominator)
  if denominator < twiceRest || (twiceRest == denominator && quotient % 2 == 1) then
    quotient + 1
  else
    quotient

/-- The code of the magnitude nearest to a fraction, which may lie beyond the finite ones. -/
def nearestCode (numerator denominator : Nat) : Nat :=
  let scaled := numerator * unitsPerOne
  let spacing := Nat.log2 (scaled / denominator) - 52
  roundedQuotient scaled (denominator * Nat.pow 2 spacing) + spacing * binadeSize

/-- The magnitude nearest to a fraction, or nothing when it is beyond the finite ones. -/
def nearest? (numerator denominator : Nat) : Option Magnitude :=
  let code := nearestCode numerator denominator
  if inside : code < magnitudeLimit then some ⟨code, inside⟩ else none

/-- The magnitude zero. -/
def zero : Magnitude := ⟨0, by decide⟩

end Magnitude

namespace Binary64

/-- The number nearest to a fraction with a sign. -/
def ofFraction (negative : Bool) (numerator denominator : Nat) : Binary64 :=
  match Magnitude.nearest? numerator denominator with
  | some magnitude => .finite negative magnitude
  | none => .infinite negative

/-- Decimal exponents beyond this bound on either side leave no finite magnitude but zero. -/
def decimalReach : Nat := 400

/-- The number nearest to a decimal, `coefficient * 10 ^ exponent`. -/
def ofDecimal (negative : Bool) (coefficient : Nat) (exponent : Int) : Binary64 :=
  if coefficient == 0 then
    .finite negative .zero
  else if (decimalReach : Int) < exponent then
    .infinite negative
  else if exponent + (Nat.toDigits 10 coefficient).length < -(decimalReach : Int) then
    .finite negative .zero
  else if 0 ≤ exponent then
    ofFraction negative (coefficient * Nat.pow 10 exponent.toNat) 1
  else
    ofFraction negative coefficient (Nat.pow 10 (-exponent).toNat)

/-- The number nearest to a whole number. -/
def ofInt (value : Int) : Binary64 :=
  ofFraction (value < 0) value.natAbs 1

/-- Whether a number is finite. -/
def isFinite : Binary64 → Bool
  | .finite _ _ => true
  | _ => false

/-- Whether a number is zero, of either sign. -/
def isZero : Binary64 → Bool
  | .finite _ magnitude => magnitude.val == 0
  | _ => false

/-- The whole number nearest to a finite number on the side of zero. -/
def truncate? : Binary64 → Option Int
  | .finite negative magnitude =>
      let whole : Int := magnitude.units / unitsPerOne
      some (if negative then -whole else whole)
  | _ => none

/-- The whole number that a finite number is equal to, if it is one. -/
def toInt? : Binary64 → Option Int
  | .finite negative magnitude =>
      if magnitude.units % unitsPerOne == 0 then
        let whole : Int := magnitude.units / unitsPerOne
        some (if negative then -whole else whole)
      else
        none
  | _ => none

end Binary64
end BoundSql
