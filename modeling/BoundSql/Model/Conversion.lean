import BoundSql.Model.FieldType
import BoundSql.Value.Equality
import BoundSql.Value.Number

/-!
# Values for fields

A field takes values of its type and values that stand for one: numbers without
a fraction for whole numbers, the two numbers zero and one for truth values,
texts for numbers, dates, identifiers and words of truth, dates for their
beginnings, and what a member of an enumeration carries for the member.
Converting a value of the type itself changes nothing but drops what an
enumeration adds to a text or a number.
-/

namespace BoundSql
namespace FieldText

/-- Whether a text has no digits but those of ASCII. -/
def hasPlainDigits (s : List Char) : Bool :=
  s.all fun c => c.isDigit || (Text.digitValue? c).isNone

/-- A text without a fraction of zeros behind a point. -/
def withoutZeroFraction (s : List Char) : List Char :=
  let (before, rest) := (Text.trimBy Literal.isBlank s).span (· != '.')
  match rest with
  | '.' :: fraction => if fraction.all (· == '0') then before else s
  | _ => s

/-- The whole number a text stands for. -/
def whole? (s : List Char) : Option Int :=
  if hasPlainDigits s then (Literal.whole (withoutZeroFraction s)).toOption else none

/-- The real number a text stands for. -/
def real? (s : List Char) : Option Binary64 :=
  if hasPlainDigits s then Literal.real? s else none

/-- Words for true. -/
def trueWords : List String := ["1", "on", "t", "true", "y", "yes"]

/-- Words for false. -/
def falseWords : List String := ["0", "off", "f", "false", "n", "no"]

/-- The truth value a text stands for, in any letter case. -/
def truth? (s : List Char) : Option Bool :=
  let word := String.ofList (s.map (·.toLower))
  if trueWords.contains word then some true
  else if falseWords.contains word then some false
  else none

end FieldText

/-- The member of an enumeration that a value is or stands for. -/
def EnumerationType.convert? (type : EnumerationType) (value : Value) : Option Value :=
  let found := type.members.find? fun (_, payload) => payload.same value
  let asMember := fun ((name, payload) : String × Value) =>
    Value.member type.enumeration name payload
  match value with
  | .member enumeration _ _ =>
      if enumeration == type.enumeration then some value else found.map asMember
  | _ => found.map asMember

namespace ScalarType

/-- The whole number that a value stands for. -/
def whole? (value : Value) : Option Int :=
  match value.int?, value.float?, value.text? with
  | some i, _, _ => some i
  | none, some x, _ => x.toInt?
  | none, none, some s => FieldText.whole? s.toList
  | none, none, none =>
      match value with
      | .decimal d => d.toInt?
      | _ => none

/-- The real number that a value stands for. -/
def real? (value : Value) : Option Binary64 :=
  match value.int?, value.float?, value.text? with
  | some i, _, _ => (Value.realOfInt i).toOption
  | none, some x, _ => some x
  | none, none, some s => FieldText.real? s.toList
  | none, none, none =>
      match value with
      | .decimal d => d.toBinary64?
      | _ => none

/-- The truth value that a value stands for. -/
def truth? (value : Value) : Option Bool :=
  match value, value.text? with
  | .bool b, _ => some b
  | _, some s => FieldText.truth? s.toList
  | _, none =>
      match whole? value with
      | some 0 => some false
      | some 1 => some true
      | _ => none

/-- The decimal number that a value stands for, which has to be finite. -/
def decimal? (value : Value) : Option Decimal :=
  let number :=
    match value, value.text?, value.int?, value.float? with
    | .decimal d, _, _, _ => some d
    | _, some s, _, _ => Decimal.ofText? s.toList
    | _, none, some i, _ => some (.finite (i < 0) i.natAbs 0)
    | _, none, none, some x => Decimal.ofText? (RealLayout.shown.text x).toList
    | _, none, none, none => none
  match number with
  | some (.finite negative coefficient exponent) => some (.finite negative coefficient exponent)
  | _ => none

/-- The point in time that a value stands for. A date stands for its beginning. -/
def datetime? (value : Value) : Option DateTime :=
  match value, value.text? with
  | .datetime d, _ => some d
  | .date d, _ => some (.atMidnight d)
  | _, some s => DateTime.ofIso? s.toList
  | _, none => none

/-- The date that a value stands for. A point in time stands for its date at midnight. -/
def date? (value : Value) : Option Date :=
  (datetime? value).bind fun moment =>
    if moment.time.microseconds == 0 then some moment.date else none

/-- The time of day that a value stands for. -/
def time? (value : Value) : Option TimeOfDay :=
  match value, value.text? with
  | .time t, _ => some t
  | _, some s => TimeOfDay.ofIso? s.toList
  | _, none => none

/-- The identifier that a value stands for. -/
def uuid? (value : Value) : Option Uuid :=
  match value, value.text? with
  | .uuid u, _ => some u
  | _, some s => Uuid.ofText? s.toList
  | _, none => none

/-- The value of a type that a value is or stands for. -/
def convert? (type : ScalarType) (value : Value) : Option Value :=
  match type with
  | .integer => (whole? value).map .int
  | .real => (real? value).map .float
  | .boolean => (truth? value).map .bool
  | .text => value.text?.map .text
  | .date => (date? value).map .date
  | .datetime => (datetime? value).map .datetime
  | .time => (time? value).map .time
  | .decimal => (decimal? value).map .decimal
  | .uuid => (uuid? value).map .uuid
  | .bytes => match value with | .bytes _ => some value | _ => none
  | .list => value.items?.map .list
  | .dict => match value with | .dict _ => some value | _ => none
  | .nothing => match value with | .null => some value | _ => none
  | .any => some value
  | .enumerated type => type.convert? value

end ScalarType

namespace TypeForm

/-- The value of a form of type that a value is or stands for. -/
def convert? (form : TypeForm) (value : Value) : Option Value :=
  match form with
  | .scalar type => type.convert? value
  | .literal values => values.find? fun listed => listed.same value
  | .generic _ parameters =>
      match parameters, value with
      | [item], _ => do
          let items ← value.items?
          (items.mapM item.convert?).map .list
      | [key, item], .dict entries =>
          (entries.mapM fun (k, v) => do pure (← key.convert? k, ← item.convert? v)).map .dict
      | _, _ => none

/-- Whether a value is one of a form of type as it stands. -/
def holds (form : TypeForm) (value : Value) : Bool :=
  match form.convert? value with
  | some converted => converted.typeName == value.typeName
  | none => false

end TypeForm

namespace FieldType

/-- The value of a field type that a value is or stands for. A union takes a value as it stands if
one of its members does. -/
def convert? (type : FieldType) (value : Value) : Option Value :=
  match type.members.find? fun form => form.holds value with
  | some form => form.convert? value
  | none => type.members.findSome? fun form => form.convert? value

end FieldType
end BoundSql
