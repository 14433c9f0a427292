import BoundSql.Number.Literal

/-!
# Decimal numbers

Decimal numbers keep the digits they were written with, so `1.50` and `1.5` are
two decimals of one value. Besides the finite ones there are the two infinities
and values that are no number, quiet or signalling, which may carry digits.
-/

namespace BoundSql

/-- A decimal number. -/
inductive Decimal
  | finite (negative : Bool) (coefficient : Nat) (exponent : Int)
  | infinite (negative : Bool)
  | nan (negative signalling : Bool) (payload : Nat)
  deriving DecidableEq, Repr

namespace Decimal

/-- Read a decimal number. -/
def ofText? (s : List Char) : Option Decimal :=
  let kept := (Literal.plain (Text.strip s)).filter (· != '_')
  let (negative, body) := Literal.takeSign kept
  let (name, digits) := (body.map (·.toLower)).span (·.isAlpha)
  let allDigits := digits.all (·.isDigit)
  match String.ofList name with
  | "inf" | "infinity" => if digits.isEmpty then some (.infinite negative) else none
  | "nan" => if allDigits then some (.nan negative false (Literal.natural digits)) else none
  | "snan" => if allDigits then some (.nan negative true (Literal.natural digits)) else none
  | _ =>
      (Literal.decimal? body).map fun (coefficient, exponent) =>
        .finite negative coefficient exponent

/-- Digits with a point so that `place` of them stand before it. -/
def pointed (digits : List Char) (place : Int) : List Char :=
  if place ≤ 0 then
    '0' :: '.' :: List.replicate (-place).toNat '0' ++ digits
  else if (digits.length : Int) ≤ place then
    digits ++ List.replicate (place.toNat - digits.length) '0'
  else
    digits.take place.toNat ++ '.' :: digits.drop place.toNat

/-- The text of a finite decimal without its sign. Digits are written positionally when the
exponent is not positive and the first digit stands within six places behind the point. -/
def magnitudeText (coefficient : Nat) (exponent : Int) : List Char :=
  let digits := Nat.toDigits 10 coefficient
  let place := exponent + digits.length
  if exponent ≤ 0 && -6 < place then
    pointed digits place
  else
    let sign := if place - 1 < 0 then '-' else '+'
    pointed digits 1 ++ 'E' :: sign :: Nat.toDigits 10 (place - 1).natAbs

/-- The text of a decimal number, which shows all its digits. -/
def text (d : Decimal) : String :=
  let sign (negative : Bool) := if negative then "-" else ""
  match d with
  | .finite negative coefficient exponent =>
      sign negative ++ String.ofList (magnitudeText coefficient exponent)
  | .infinite negative => sign negative ++ "Infinity"
  | .nan negative signalling payload =>
      sign negative ++ (if signalling then "sNaN" else "NaN") ++
        if payload == 0 then "" else toString payload

/-- Whether a decimal number is zero. -/
def isZero : Decimal → Bool
  | .finite _ coefficient _ => coefficient == 0
  | _ => false

/-- The double-precision number nearest to a decimal; a signalling value has none. -/
def toBinary64? : Decimal → Option Binary64
  | .finite negative coefficient exponent => some (.ofDecimal negative coefficient exponent)
  | .infinite negative => some (.infinite negative)
  | .nan _ signalling _ => if signalling then none else some .nan

/-- Whether a number has digits before its last `places` ones. The power of ten that it is divided
by is then no longer than the number. -/
def reaches (coefficient places : Nat) : Bool :=
  places < (Nat.toDigits 10 coefficient).length

/-- The whole part of a magnitude. -/
def wholePart (coefficient : Nat) (exponent : Int) : Nat :=
  let places := (-exponent).toNat
  if coefficient == 0 then 0
  else if 0 ≤ exponent then coefficient * Nat.pow 10 exponent.toNat
  else if reaches coefficient places then coefficient / Nat.pow 10 places
  else 0

/-- The whole number nearest to a finite decimal on the side of zero. -/
def truncate? : Decimal → Option Int
  | .finite negative coefficient exponent =>
      let magnitude : Int := wholePart coefficient exponent
      some (if negative then -magnitude else magnitude)
  | _ => none

/-- Whether a magnitude is a whole number. -/
def isWhole (coefficient : Nat) (exponent : Int) : Bool :=
  let places := (-exponent).toNat
  coefficient == 0 || (reaches coefficient places && coefficient % Nat.pow 10 places == 0)

/-- The whole number that a decimal is equal to, if it is one. -/
def toInt? : Decimal → Option Int
  | .finite negative coefficient exponent =>
      if isWhole coefficient exponent then truncate? (.finite negative coefficient exponent)
      else none
  | _ => none

end Decimal
end BoundSql
