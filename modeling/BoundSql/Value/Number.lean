import BoundSql.Number.Fault
import BoundSql.Value.Text

/-!
# Numbers from values

Conversion of values to whole numbers and to double-precision numbers. Numbers
are converted by their quantity, texts and bytes are read, and all else is a
fault that names the type. Whole numbers are written back only up to the number
of digits that are read.

An enumeration converts the value that a member is declared with to what its
members carry.
-/

namespace BoundSql
namespace Value

/-- The characters of bytes as number reading sees them: a byte beyond ASCII is never part of a
number. -/
def byteChars (content : List UInt8) : List Char :=
  content.map fun byte => if byte.toNat < 0x80 then Char.ofNat byte.toNat else '?'

/-- Read a whole number from characters; `shown` is the literal of what they come from. -/
def readWhole (shown : String) (s : List Char) : Except NumberFault Int :=
  match Literal.whole s with
  | .ok i => .ok i
  | .error .malformed => .error (.wholeText shown)
  | .error (.tooManyDigits count) => .error (.tooManyDigits count Literal.digitLimit)

/-- Read a real number from characters; `shown` is the literal of what they come from. -/
def readReal (shown : String) (s : List Char) : Except NumberFault Binary64 :=
  match Literal.real? s with
  | some x => .ok x
  | none => .error (.realText shown)

/-- The whole part of a double-precision number. -/
def wholeOfFloat : Binary64 → Except NumberFault Int
  | .nan => .error .wholeOfNan
  | x =>
      match x.truncate? with
      | some i => .ok i
      | none => .error .wholeOfInfinity

/-- The whole part of a decimal number. -/
def wholeOfDecimal : Decimal → Except NumberFault Int
  | .nan _ _ _ => .error .wholeOfDecimalNan
  | d =>
      match d.truncate? with
      | some i => .ok i
      | none => .error .wholeOfDecimalInfinity

/-- The double-precision number nearest to a whole number. -/
def realOfInt (i : Int) : Except NumberFault Binary64 :=
  let x := Binary64.ofInt i
  if x.isFinite then .ok x else .error .realOfLargeWhole

/-- The double-precision number nearest to a decimal number. -/
def realOfDecimal (d : Decimal) : Except NumberFault Binary64 :=
  match d.toBinary64? with
  | some x => .ok x
  | none => .error .realOfSignallingNan

/-- The text of a whole number. -/
def wholeText (i : Int) : Except NumberFault String :=
  if Literal.digitLimit < (Nat.toDigits 10 i.natAbs).length then
    .error (.tooLong Literal.digitLimit)
  else
    .ok (toString i)

/-- The display of a value, unless a whole number in it has too many digits to be written. -/
def displayText (value : Value) : Except NumberFault String :=
  if value.hasDisplay then .ok value.display else .error (.tooLong Literal.digitLimit)

/-- The bytes that are shown when they are no whole number. -/
def shownBytes (content : List UInt8) : Value :=
  .bytes (content.take NumberFault.shownLimit)

/-- The whole number of a value. -/
def toInt (value : Value) : Except NumberFault Int :=
  match value.int?, value.float?, value.text? with
  | some i, _, _ => .ok i
  | none, some x, _ => wholeOfFloat x
  | none, none, some s => readWhole value.literal s.toList
  | none, none, none =>
      match value with
      | .decimal d => wholeOfDecimal d
      | .bytes content => readWhole (shownBytes content).literal (byteChars content)
      | .uuid u => .ok u.value.toNat
      | _ => .error (.wholeType value.qualifiedTypeName)

/-- The double-precision number of a value. -/
def toReal (value : Value) : Except NumberFault Binary64 :=
  match value.int?, value.float?, value.text? with
  | some i, _, _ => realOfInt i
  | none, some x, _ => .ok x
  | none, none, some s => readReal value.literal s.toList
  | none, none, none =>
      match value with
      | .decimal d => realOfDecimal d
      | .bytes content => readReal value.literal (byteChars content)
      | _ => .error (.realType value.qualifiedTypeName)

end Value

namespace Carrier

/-- What a member carries that is declared without anything to convert. -/
def empty : Carrier → Value
  | .plain => .tuple []
  | .text => .text ""
  | .integer => .int 0
  | .real => .float (.finite false .zero)

/-- What a value is converted to. -/
def convert (carrier : Carrier) (value : Value) : Except NumberFault Value :=
  match carrier with
  | .plain => .ok value
  | .text => .ok (.text value.display)
  | .integer => value.toInt.map .int
  | .real => value.toReal.map .float

/-- What a member carries that is declared with a value. A tuple holds what is converted, except
where values are carried as they are. -/
def carried (carrier : Carrier) (value : Value) : Except NumberFault Value :=
  match carrier, value with
  | .plain, _ => .ok value
  | _, .tuple [] => .ok carrier.empty
  | _, .tuple [item] => carrier.convert item
  | _, _ => carrier.convert value

end Carrier

namespace Enumeration

/-- Whether members can be declared with texts only: those that are shown by the texts they
carry. -/
def takesTextsOnly (enumeration : Enumeration) : Bool :=
  enumeration.carrier == .text && !enumeration.showsName

/-- The member of an enumeration with a name that is declared with a value. -/
def declare
    (enumeration : Enumeration)
    (name : String)
    (value : Value) : Except NumberFault Value :=
  match enumeration.takesTextsOnly, value.items?, value.text? with
  | true, none, none => .error (.textType value.literal)
  | _, _, _ => (enumeration.carrier.carried value).map (.member enumeration name)

end Enumeration

end BoundSql
