/-!
# Faults of conversions

Why a value is not converted to a number, or a number not to a text. A fault is
of one of three kinds: the value is of the right type but not right itself, its
type is wrong, or the number it stands for is out of reach.
-/

namespace BoundSql

/-- The kind of a conversion fault. -/
inductive FaultKind
  | value
  | type
  | overflow
  deriving DecidableEq, Repr

/-- A fault of a conversion from or to a number. -/
inductive NumberFault
  /-- A text that is no whole number, shown as a literal. -/
  | wholeText (shown : String)
  /-- A text with more digits than are read. -/
  | tooManyDigits (count limit : Nat)
  /-- A whole number with more digits than are written. -/
  | tooLong (limit : Nat)
  /-- A text that is no real number, shown as a literal. -/
  | realText (shown : String)
  /-- A value of a type without whole numbers. -/
  | wholeType (typeName : String)
  /-- A value of a type without real numbers. -/
  | realType (typeName : String)
  /-- A value, shown as a literal, where only a text is taken. -/
  | textType (shown : String)
  /-- A double that is no number has no whole part. -/
  | wholeOfNan
  /-- An infinite double has no whole part. -/
  | wholeOfInfinity
  /-- A decimal that is no number has no whole part. -/
  | wholeOfDecimalNan
  /-- An infinite decimal has no whole part. -/
  | wholeOfDecimalInfinity
  /-- A whole number beyond the finite doubles. -/
  | realOfLargeWhole
  /-- A signalling decimal has no double. -/
  | realOfSignallingNan
  deriving DecidableEq, Repr

namespace NumberFault

/-- How much of a text that is no whole number is shown. -/
def shownLimit : Nat := 200

/-- The kind of a fault. -/
def kind : NumberFault → FaultKind
  | .wholeType _ | .realType _ | .textType _ => .type
  | .wholeOfInfinity | .wholeOfDecimalInfinity | .realOfLargeWhole => .overflow
  | _ => .value

/-- What a fault says. -/
def message : NumberFault → String
  | .wholeText shown =>
      "invalid literal for int() with base 10: " ++ String.ofList (shown.toList.take shownLimit)
  | .tooManyDigits count limit =>
      s!"Exceeds the limit ({limit} digits) for integer string conversion: value has {count} " ++
        "digits; use sys.set_int_max_str_digits() to increase the limit"
  | .tooLong limit =>
      s!"Exceeds the limit ({limit} digits) for integer string conversion; use " ++
        "sys.set_int_max_str_digits() to increase the limit"
  | .realText shown => "could not convert string to float: " ++ shown
  | .wholeType typeName =>
      "int() argument must be a string, a bytes-like object or a real number, not '" ++
        typeName ++ "'"
  | .realType typeName =>
      "float() argument must be a string or a real number, not '" ++ typeName ++ "'"
  | .textType shown => shown ++ " is not a string"
  | .wholeOfNan => "cannot convert float NaN to integer"
  | .wholeOfInfinity => "cannot convert float infinity to integer"
  | .wholeOfDecimalNan => "cannot convert NaN to integer"
  | .wholeOfDecimalInfinity => "cannot convert Infinity to integer"
  | .realOfLargeWhole => "int too large to convert to float"
  | .realOfSignallingNan => "cannot convert signaling NaN to float"

end NumberFault
end BoundSql
