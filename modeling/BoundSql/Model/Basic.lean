import BoundSql.Model.FieldType

/-!
# Models

A model describes the rows of a table: its fields with their types, the
options of their columns, and initial values. Models are told apart by a serial
number, since two of them may have the same name and the same table.

A model can extend another one. It takes over the fields and the table name, and
a field declared again keeps its place.
-/

namespace BoundSql

/-- The options of a column. -/
structure ColumnOptions where
  primaryKey : Bool
  /-- Whether the database makes up the key. -/
  auto : Bool
  unique : Bool
  /-- The length of a text, if it is set and not zero. -/
  size : Value
  /-- The value that the database fills in. -/
  default : Option Value
  /-- The column of another table that this one refers to, if it is set and not empty. It is
  declared as a text or nothing. -/
  foreignKey : Value
  /-- Whether a text is unbounded. -/
  text : Bool

/-- The options of a column that has none declared. -/
def ColumnOptions.plain : ColumnOptions :=
  { primaryKey := false
    auto := false
    unique := false
    size := .null
    default := none
    foreignKey := .null
    text := false }

/-- What a declaration of a field says about it besides its type. -/
inductive Remark
  | column (options : ColumnOptions)
  /-- A remark that is for others. -/
  | other

/-- The options that a remark gives, if it gives any. -/
def Remark.options? : Remark → Option ColumnOptions
  | .column options => some options
  | .other => none

/-- The options among remarks, of which the first ones count. -/
def ColumnOptions.among (remarks : List Remark) : ColumnOptions :=
  (remarks.findSome? Remark.options?).getD plain

/-- A field of a model. -/
structure Field where
  name : String
  type : FieldType
  options : ColumnOptions
  /-- The value of the field in an instance that is made without one. -/
  initial : Option Value

/-- The field of a declaration with remarks. -/
def Field.remarked
    (name : String)
    (type : FieldType)
    (remarks : List Remark)
    (initial : Option Value) : Field :=
  ⟨name, type, ColumnOptions.among remarks, initial⟩

/-- A description of the rows of a table. -/
structure Model where
  serial : Nat
  name : String
  /-- The name of the table where it is not the name of the model. -/
  table : Option String
  fields : List Field

/-- Declare a field: in its place if it is declared already, else behind the others. -/
def Field.declare (fields : List Field) (field : Field) : List Field :=
  if fields.any (·.name == field.name) then
    fields.map fun other => if other.name == field.name then field else other
  else
    fields ++ [field]

namespace Model

/-- The name of the table of a model; an empty one does not count. -/
def tableName (model : Model) : String :=
  match model.table with
  | some table => if table == "" then model.name else table
  | none => model.name

/-- The names of the fields in their order. -/
def fieldNames (model : Model) : List String :=
  model.fields.map Field.name

/-- Declare a model with fields of its own that extends another one, if there is one. The table
name is that of the model it extends unless it is set. -/
def declare
    (serial : Nat)
    (name : String)
    (base : Option Model)
    (table : Option (Option String))
    (fields : List Field) : Model :=
  let inheritedTable := base.bind Model.table
  let inheritedFields := (base.map Model.fields).getD []
  ⟨serial, name, table.getD inheritedTable, fields.foldl Field.declare inheritedFields⟩

/-- Whether two models are the same one. -/
def isSame (model other : Model) : Bool :=
  model.serial == other.serial

end Model
end BoundSql
