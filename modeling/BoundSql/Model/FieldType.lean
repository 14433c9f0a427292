import BoundSql.Value.Text

/-!
# Types of fields

The type of a field tells what its values are. It is one form of type or
a union of several; a union with the type of nothing is optional. A union is
written between brackets or with bars. The two styles mix when one union becomes
part of another: only a union that has bars all over, and no literal in it, keeps
them.
-/

namespace BoundSql

/-- An enumeration used as a type, with its members. -/
structure EnumerationType where
  enumeration : Enumeration
  members : List (String × Value)

/-- A type that is no composition of others. -/
inductive ScalarType
  | integer
  | real
  | boolean
  | text
  | date
  | datetime
  | time
  | decimal
  | uuid
  | bytes
  | list
  | dict
  | nothing
  | any
  | enumerated (type : EnumerationType)

/-- The name of a scalar type. -/
def ScalarType.name : ScalarType → String
  | .integer => "int"
  | .real => "float"
  | .boolean => "bool"
  | .text => "str"
  | .date => "date"
  | .datetime => "datetime"
  | .time => "time"
  | .decimal => "Decimal"
  | .uuid => "UUID"
  | .bytes => "bytes"
  | .list => "list"
  | .dict => "dict"
  | .nothing => "NoneType"
  | .any => "Any"
  | .enumerated type => type.enumeration.name

/-- One form of type. -/
inductive TypeForm
  | scalar (type : ScalarType)
  | generic (head : ScalarType) (parameters : List ScalarType)
  | literal (values : List Value)

namespace TypeForm

/-- Whether a form is the type of nothing. -/
def isNone : TypeForm → Bool
  | .scalar .nothing => true
  | _ => false

/-- Whether a form lists values. -/
def isLiteral : TypeForm → Bool
  | .literal _ => true
  | _ => false

/-- The spelling of a form. -/
def spelling : TypeForm → String
  | .scalar type => type.name
  | .generic head parameters =>
      head.name ++ "[" ++ ", ".intercalate (parameters.map ScalarType.name) ++ "]"
  | .literal values => "typing.Literal[" ++ ", ".intercalate (values.map Value.literal) ++ "]"

end TypeForm

/-- How a union is written. -/
inductive UnionStyle
  | bracketed
  | barred
  deriving DecidableEq, Repr

/-- The type of a field. -/
structure FieldType where
  style : UnionStyle
  /-- The forms of a union, or a single one. -/
  members : List TypeForm

namespace FieldType

/-- The type that is one form. -/
def single (form : TypeForm) : FieldType :=
  ⟨.barred, [form]⟩

/-- The type that is one scalar type. -/
def scalar (type : ScalarType) : FieldType :=
  single (.scalar type)

/-- The type with nothing as a possible value, in a style. -/
def optional (style : UnionStyle) (type : FieldType) : FieldType :=
  if type.members.any TypeForm.isNone then
    type
  else
    let barred := style == .barred && type.style == .barred &&
      !type.members.any TypeForm.isLiteral
    ⟨if barred then .barred else .bracketed, type.members ++ [.scalar .nothing]⟩

/-- The scalar type of a field type and whether it is optional; there is none for unions of
several other types, generic types and literals. -/
def scalar? (type : FieldType) : Option (ScalarType × Bool) :=
  match type.members with
  | [.scalar type] => some (type, false)
  | members =>
      match members.filter fun form => !form.isNone with
      | [.scalar type] => some (type, true)
      | _ => none

/-- Whether nothing is a possible value. -/
def isOptional (type : FieldType) : Bool :=
  type.members.any TypeForm.isNone

/-- The spelling of a union with brackets. -/
def bracketedSpelling (members : List TypeForm) : String :=
  let others := members.filter fun form => !form.isNone
  match others, members.length with
  | [form], 2 => "typing.Optional[" ++ form.spelling ++ "]"
  | _, _ => "typing.Union[" ++ ", ".intercalate (members.map TypeForm.spelling) ++ "]"

/-- The spelling of a form between bars. -/
def barredSpelling (form : TypeForm) : String :=
  if form.isNone then "None" else form.spelling

/-- The spelling of a field type. -/
def spelling (type : FieldType) : String :=
  match type.members with
  | [form] => form.spelling
  | members =>
      match type.style with
      | .bracketed => bracketedSpelling members
      | .barred => " | ".intercalate (members.map barredSpelling)

end FieldType
end BoundSql
