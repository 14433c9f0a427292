import BoundSql.Argument.Tag
import BoundSql.Error

/-!
# Arguments

An argument is a value in serialized form together with a tag. Encoding chooses
the tag by the type of the value; the column that the value is compared with is
not consulted. Decoding turns an argument into the value that is bound, as the
tag says.

Truth values are whole numbers, members of enumerations are what they carry
unless they are numbers themselves, and calendar values are texts under tags of
their own.
-/

namespace BoundSql

/-- A serialized value and its tag. -/
structure Argument where
  value : Value
  tag : TagSpelling

namespace Argument

/-- An argument in serialized form. -/
def ofText (tag : TypeTag) (s : String) : Argument :=
  ⟨.text s, .exact tag⟩

/-- The serialized form of nothing, which is also its tag. -/
def nullText : String := "null"

/-- A real number as an argument. -/
def ofReal (x : Binary64) : Argument :=
  ofText .float (RealLayout.bound.text x)

/-- A whole number as an argument. -/
def ofWhole (i : Int) : Except Error Argument :=
  match Value.wholeText i with
  | .ok s => .ok (ofText .integer s)
  | .error fault => .error (.number fault)

/-- Serialize a value. -/
def encode : Value → Except Error Argument
  | .bool b => .ok (ofText .integer (if b then "1" else "0"))
  | .null => .ok (ofText .null nullText)
  | .int i => ofWhole i
  | .float x => .ok (ofReal x)
  | .decimal d =>
      match Value.realOfDecimal d with
      | .ok x => .ok (ofReal x)
      | .error fault => .error (.number fault)
  | .text s => .ok (ofText .text s)
  | .keyword k => .ok (ofText .text k.symbol)
  | .datetime d => .ok (ofText .datetime (String.ofList (d.isoText ' ')))
  | .date d => .ok (ofText .date (String.ofList d.isoText))
  | .uuid u => .ok (ofText .text u.text)
  | .member e name payload =>
      match e.carrier, payload.int?, payload.float? with
      | .integer, some i, _ =>
          if e.showsName then .ok (ofText .integer (Value.member e name payload).display)
          else ofWhole i
      | .real, _, some x => .ok (ofReal x)
      | _, _, _ => encode payload
  | value => .error (.showing value (.coercion value (.text value.typeName) .noEncoding))

/-- The number that a tag asks for, or the error that names the tag as it was spelled. Numbers out
of reach are not blamed on the tag. -/
def coerced
    {α : Type}
    (argument : Argument)
    (conversion : Except NumberFault α) : Except Error α :=
  match conversion with
  | .ok number => .ok number
  | .error fault =>
      match fault.kind with
      | .overflow => .error (.number fault)
      | _ =>
          .error (.showing argument.value
            (.coercion argument.value (.text argument.tag.text) (.conversion fault)))

/-- The value that is bound for an argument. -/
def decode (argument : Argument) : Except Error Value :=
  let reading := argument.tag.reading
  if reading.tag == .column then
    .error (.showing argument.value (.compile (.columnBound argument.value)))
  else if reading.tag == .null || (reading.nullable && argument.value.isText nullText) then
    .ok .null
  else
    match reading.tag with
    | .integer => (argument.coerced argument.value.toInt).map .int
    | .float => (argument.coerced argument.value.toReal).map .float
    | _ => (argument.value.displayText.mapError .number).map .text

/-- The values that are bound for several arguments, in order. -/
def decodeAll (arguments : List Argument) : Except Error (List Value) :=
  arguments.mapM decode

end Argument
end BoundSql
