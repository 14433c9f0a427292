import BoundSql.Model.Instance
import BoundSql.Selection.Basic

/-!
# Rows of a result

A result has column names and records. A record becomes a row by name, where the
first of several columns of one name counts, or it is cut into one group for each
of several models, as wide as the model has fields. Column names and values must
then match in number.

What a selection returns is made into instances by the shapes that are asked
for, or by the models it selects. Several shapes share out the columns of a
record between them. A single shape takes its own group when the selection names
the columns of all its models in their order, and otherwise takes the whole
record by name.
-/

namespace BoundSql

/-- The result of a query. -/
structure Rows where
  columns : List String
  records : List (List Value)

/-- Names and values in pairs, which must match in number. -/
def pairUp (names : List String) (values : List Value) : Except Error (List (String × Value)) :=
  if values.length < names.length then .error (.recordLength true)
  else if names.length < values.length then .error (.recordLength false)
  else .ok (names.zip values)

namespace Rows

/-- The records as rows by name. -/
def mappings (rows : Rows) : Except Error (List Row) :=
  rows.records.mapM fun record => (pairUp rows.columns record).map Row.ofFirst

/-- The number of fields of each shape. -/
def widths (shapes : List Model) : List Nat :=
  shapes.map fun shape => shape.fields.length

/-- Cut names and values into rows of given widths. -/
def cutRows (names : List String) (values : List Value) : List Nat → Except Error (List Row)
  | [] => .ok []
  | width :: widths => do
      let pairs ← pairUp (names.take width) (values.take width)
      let others ← cutRows (names.drop width) (values.drop width) widths
      pure (Row.ofLast pairs :: others)

/-- The records cut into a row for each shape. -/
def groups (rows : Rows) (shapes : List Model) : Except Error (List (List Row)) :=
  let expected := (widths shapes).foldl (· + ·) 0
  if expected != rows.columns.length then
    .error (.columnCount rows.columns.length (shapes.map Model.name) expected)
  else
    rows.records.mapM fun record => cutRows rows.columns record (widths shapes)

end Rows

/-- What becomes of a record: an instance of one shape, or one of each of several. -/
inductive Shaped
  | single (self : Instance)
  | several (selves : List Instance)

namespace Selection

/-- Whether a selection names the columns of several models and of nothing else, in their order. -/
def selectsModels (selection : Selection) : Bool :=
  1 < selection.models.length &&
    selection.clause == starClause (selection.models.map Model.tableName)

/-- The shapes for a result: those asked for, or the selected models. -/
def shapesFor (selection : Selection) (asked : List Model) : Except Error (List Model) :=
  let shapes := if asked.isEmpty then selection.models else asked
  if shapes.isEmpty then .error (.compile .noShape) else .ok shapes

/-- The place of the group of a shape, when it has one of its own. -/
def groupOf? (selection : Selection) (shape : Model) : Option Nat :=
  if selection.selectsModels then selection.models.findIdx? (·.isSame shape) else none

/-- The rows that one shape is made from. -/
def rowsOf (selection : Selection) (shape : Model) (rows : Rows) : Except Error (List Row) :=
  match selection.groupOf? shape with
  | some place => do
      let groups ← rows.groups selection.models
      pure (groups.map fun group => group.getD place [])
  | none => rows.mappings

/-- The instances of several shapes for a record. -/
def instancesOf (shapes : List Model) (group : List Row) : Except Error (List Instance) :=
  (shapes.zip group).mapM fun (shape, row) => shape.instanceOf row

/-- The records of a result as instances of shapes. -/
def shaped
    (selection : Selection)
    (shapes : List Model)
    (rows : Rows) : Except Error (List Shaped) :=
  match shapes with
  | [shape] => do
      let rows ← selection.rowsOf shape rows
      rows.mapM fun row => (shape.instanceOf row).map .single
  | shapes => do
      let groups ← rows.groups shapes
      groups.mapM fun group => (instancesOf shapes group).map .several

end Selection
end BoundSql
