import BoundSql.Model.Basic
import BoundSql.Sql.Dialect

/-!
# Table schemas

The text that creates the table of a model. Every field becomes a column, in the
order of the fields. The definition of a column is its name, its type or key
clause, and after that, as far as they apply, uniqueness, the default, the
exclusion of nothing, and the reference to another table.

Only scalar types have columns. Members of enumerations are stored as the texts
or whole numbers that they are.
-/

namespace BoundSql

/-- A field whose type is known. -/
structure Column where
  name : String
  type : ScalarType
  nullable : Bool
  options : ColumnOptions

/-- How values of a type are stored. -/
inductive Storage
  | boolean
  | integer
  | real
  | text
  | datetime
  | date
  deriving DecidableEq, Repr

/-- How values of a scalar type are stored, if they can be. -/
def ScalarType.storage? : ScalarType → Option Storage
  | .boolean => some .boolean
  | .integer => some .integer
  | .real => some .real
  | .text => some .text
  | .datetime => some .datetime
  | .date => some .date
  | .enumerated type =>
      match type.enumeration.carrier with
      | .integer => some .integer
      | .real => some .real
      | .text => some .text
      | .plain => none
  | _ => none

namespace Column

/-- The length of a text column that sets none. -/
def ordinarySize : String := "255"

/-- The value of an option as it is written. -/
def written (value : Value) : Except SchemaFault String :=
  value.displayText.mapError .number

/-- The length of a text column. -/
def sizeText (options : ColumnOptions) : Except SchemaFault String :=
  if options.size.truthy then written options.size else .ok ordinarySize

/-- The column of a field. -/
def ofField (field : Field) : Except SchemaFault Column :=
  match field.type.scalar? with
  | some (type, nullable) => .ok ⟨field.name, type, nullable, field.options⟩
  | none => .error (.composedType field.name field.type.spelling)

/-- The column of a field has its name and its options, and the scalar type that its type is. -/
theorem ofField_eq_ok_iff {field : Field} {column : Column} :
    ofField field = .ok column ↔
      ∃ type nullable, field.type.scalar? = some (type, nullable) ∧
        ⟨field.name, type, nullable, field.options⟩ = column := by
  unfold ofField
  cases field.type.scalar? with
  | none => simp
  | some inner =>
      obtain ⟨type, nullable⟩ := inner
      constructor
      · intro made
        exact ⟨type, nullable, rfl, Except.ok.inj made⟩
      · rintro ⟨_, _, same, rfl⟩
        cases same
        rfl

/-- Whether the column is a key that the database makes up. -/
def isAutoKey (column : Column) : Bool :=
  column.options.primaryKey && column.options.auto

/-- The SQL type of a column. -/
def sqlType (column : Column) : Except SchemaFault String :=
  match column.type.storage? with
  | some .boolean | some .integer => .ok "integer"
  | some .real => .ok "float"
  | some .text =>
      if column.options.text then
        .ok "text"
      else
        (sizeText column.options).map fun size => "varchar(" ++ size ++ ")"
  | some .datetime => .ok "varchar(40)"
  | some .date => .ok "varchar(10)"
  | none => .error (.type column.name column.type.name)

/-- The key clause of a key that the database makes up. -/
def autoKeyClause : Dialect → String
  | .postgres => "serial primary key"
  | .mysql => "integer primary key auto_increment"
  | .sqlite | .generic => "integer primary key autoincrement"

/-- The type of a column, with the key clause if it is the key. -/
def typeClause (dialect : Dialect) (column : Column) : Except SchemaFault String :=
  if column.isAutoKey then .ok (autoKeyClause dialect)
  else if column.options.primaryKey then column.sqlType.map (· ++ " primary key")
  else column.sqlType

/-- The text that stands for the current time as a default. -/
def nowText : String := "now"

/-- A text as an SQL literal: a quote inside it is written twice. -/
def sqlQuoted (s : String) : String :=
  let quote := Text.apostrophe
  let doubled := s.toList.flatMap fun c => if c == quote then [quote, quote] else [c]
  String.ofList (quote :: doubled ++ [quote])

/-- The current time as the default of a column. -/
def nowDefault (column : Column) : Except SchemaFault String :=
  match column.type.storage? with
  | some .datetime => .ok "current_timestamp"
  | some .date => .ok "current_date"
  | _ => .error (.nowOutsideDates column.name)

/-- Whether the column is one of truth values. -/
def isBoolean (column : Column) : Bool :=
  column.type.storage? == some .boolean

/-- The fault of a default value of a type that has no SQL text, which shows the value. -/
def defaultFault (column : Column) (value : Value) : SchemaFault :=
  if value.hasLiteral then
    .default value column.name
  else
    .number (.tooLong Literal.digitLimit)

/-- A default value as SQL text. -/
def defaultText (column : Column) (value : Value) : Except SchemaFault String :=
  if value.isText nowText then
    nowDefault column
  else
    match value with
    | .bool b => .ok (if b then "1" else "0")
    | _ =>
        if column.isBoolean then
          .error (.booleanDefault column.name)
        else
          match value.int?, value.float?, value.text? with
          | some _, _, _ | none, some _, _ => written value
          | none, none, some s => .ok (sqlQuoted s)
          | none, none, none => .error (column.defaultFault value)

/-- The default clause of a column. -/
def defaultClause (column : Column) : Except SchemaFault (List String) :=
  match column.options.default with
  | some value => (column.defaultText value).map fun text => ["default " ++ text]
  | none => .ok []

/-- The reference to a column of another table, written with a point between the names. -/
def referenceText? (reference : List Char) : Option String :=
  match reference.span (· != '.') with
  | (table, '.' :: column) =>
      if table.isEmpty || column.isEmpty || column.contains '.' then
        none
      else
        some ("references " ++ String.ofList table ++ "(" ++ String.ofList column ++ ")")
  | _ => none

/-- The reference clause of a column; an empty reference is none. References are declared as texts.
What is neither a text nor empty lies outside the declared type of the option, and is taken for a
text that names no column. -/
def referenceClause (column : Column) : Except SchemaFault (List String) :=
  let reference := column.options.foreignKey
  if !reference.truthy then
    .ok []
  else
    match reference.text?.bind fun s => referenceText? s.toList with
    | some text => .ok [text]
    | none => .error (.foreignKey reference.display)

/-- The parts of the definition of a column, in their order. -/
def tokens (dialect : Dialect) (column : Column) : Except SchemaFault (List String) := do
  let type ← column.typeClause dialect
  let unique := if column.options.unique then ["unique"] else []
  let default ← column.defaultClause
  let required := !column.nullable && !column.options.primaryKey
  let reference ← column.referenceClause
  pure (column.name :: type :: unique ++ default ++ (if required then ["not null"] else []) ++
    reference)

/-- The definition of a column. -/
def definition (dialect : Dialect) (column : Column) : Except SchemaFault String :=
  (column.tokens dialect).map (" ".intercalate ·)

/-- The only key among columns. -/
def key (columns : List Column) : Except SchemaFault Column :=
  match columns.filter (·.options.primaryKey) with
  | [column] => .ok column
  | keys => .error (.keyCount keys.length)

end Column

/-- What creates the table of a model. -/
structure TableSchema where
  table : String
  key : String
  ddl : String
  deriving DecidableEq, Repr

namespace TableSchema

/-- The text that creates a table with given column definitions, if there is none yet. -/
def createText (table : String) (definitions : List String) : String :=
  "create table if not exists " ++ table ++ " (" ++ ", ".intercalate definitions ++ ");"

/-- The schema of a table with given fields. -/
def ofFields
    (dialect : Dialect)
    (table : String)
    (fields : List Field) : Except SchemaFault TableSchema := do
  let columns ← fields.mapM Column.ofField
  if columns.isEmpty then
    throw .noFields
  let key ← Column.key columns
  let definitions ← columns.mapM (Column.definition dialect)
  pure ⟨table, key.name, createText table definitions⟩

end TableSchema

namespace Model

/-- The error of a fault in a model, which names the model. Numbers that are not written are an
error of their own. -/
def blame (model : Model) : SchemaFault → Error
  | .number fault => .number fault
  | fault => .schema (.text model.name) fault

/-- The result of a derivation from a model, with the model named in the error. -/
def blamed {α : Type} (model : Model) (result : Except SchemaFault α) : Except Error α :=
  result.mapError model.blame

/-- The columns of a model. -/
def columns (model : Model) : Except Error (List Column) :=
  model.blamed (model.fields.mapM Column.ofField)

/-- The schema of the table of a model. -/
def schema (dialect : Dialect) (model : Model) : Except Error TableSchema :=
  model.blamed (TableSchema.ofFields dialect model.tableName model.fields)

/-- The name of the key of a model, which does not depend on a dialect. -/
def primaryKey (model : Model) : Except Error String :=
  (model.schema Dialect.ordinary).map TableSchema.key

end Model
end BoundSql
