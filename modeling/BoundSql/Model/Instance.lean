import BoundSql.Error
import BoundSql.Model.Basic
import BoundSql.Model.Conversion

/-!
# Rows and instances

A row holds values by the names of columns. An instance of a model holds one
value for each of its fields. An instance is made from a row: every field takes
the value of its name, or its initial value where the row has none, and the
fields that cannot are reported together. Names that are no fields are ignored.
-/

namespace BoundSql

/-- Values by name. -/
abbrev Row := List (String × Value)

namespace Row

/-- The row of a list of pairs in which the first value of a name counts. -/
def ofFirst (pairs : List (String × Value)) : Row :=
  pairs.foldl
    (fun row pair => if row.any (·.1 == pair.1) then row else row ++ [pair]) []

/-- The row of a list of pairs in which the last value of a name counts. -/
def ofLast (pairs : List (String × Value)) : Row :=
  Entries.ofPairs (· == ·) pairs

end Row

/-- The value of a field for a row, if it has one. -/
def Field.valueIn? (row : Row) (field : Field) : Option Value :=
  match row.lookup field.name with
  | some value => field.type.convert? value
  | none => field.initial

/-- An instance of a model. -/
structure Instance where
  model : Model
  values : Row

namespace Instance

/-- The value of a field. -/
def value (self : Instance) (field : String) : Value :=
  (self.values.lookup field).getD .null

/-- The instance with another value of a field, which must be one of the model. -/
def assign (self : Instance) (field : String) (value : Value) : Except Error Instance :=
  let converted := do
    let declared ← self.model.fields.find? (·.name == field)
    declared.type.convert? value
  match converted with
  | some value =>
      .ok { self with values := self.values.map fun (name, old) =>
              (name, if name == field then value else old) }
  | none => .error (.validation [field])

end Instance

namespace Field

/-- Fields that have no value in a row. -/
def unfilled (row : Row) (fields : List Field) : List String :=
  (fields.filter fun field => (field.valueIn? row).isNone).map Field.name

/-- The values of fields in a row, for those that have one. -/
def filled (row : Row) (fields : List Field) : Row :=
  fields.filterMap fun field => (field.valueIn? row).map fun value => (field.name, value)

/-- The values of fields in a row, or the error that names those without one. -/
def fill (row : Row) (fields : List Field) : Except Error Row :=
  match unfilled row fields with
  | [] => .ok (filled row fields)
  | names => .error (.validation names)

end Field

/-- The instance of a model with the values of a row. -/
def Model.instanceOf (model : Model) (row : Row) : Except Error Instance :=
  (Field.fill row model.fields).map fun values => ⟨model, values⟩

end BoundSql
