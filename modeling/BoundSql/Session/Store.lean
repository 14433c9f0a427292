import BoundSql.Model.Schema
import BoundSql.Session.Database

/-!
# Storing instances

The rows of a model in a database: creating its table, and reading and writing
its rows by conditions, by key, or as instances.

An instance that is saved leaves out a key that the database makes up and
columns that the database fills in, when their value is nothing.
-/

namespace BoundSql
namespace Database

/-- Create the table of a model; an existing one is dropped first if asked for. -/
def migrate (database : Database) (model : Model) (recreate : Bool) : Exchange Unit := do
  let schema ← Exchange.ofExcept (model.schema database.dialect)
  if recreate then
    let _ ← database.execute (Statement.dropTable schema.table)
  let _ ← database.execute (Statement.ofText schema.ddl)
  Exchange.log (.migrated schema.table)

/-- Create the tables of several models in order. -/
def migrateEach (database : Database) (recreate : Bool) : List Model → Exchange Unit
  | [] => pure ()
  | model :: models => do
      database.migrate model recreate
      migrateEach database recreate models

/-- Create the tables of the given models, or of all registered ones if none are given. -/
def migrateAll (database : Database) (models : List Model) (recreate : Bool) : Exchange Unit :=
  database.migrateEach recreate (if models.isEmpty then database.registry.models else models)

/-- Insert a row. -/
def create (database : Database) (model : Model) (values : Conditions) : Exchange Unit := do
  let statement ← Exchange.compile database.dialect (Statement.insert model.tableName values)
  let _ ← database.execute statement

/-- The instances of the rows that fit a filter. -/
def filter
    (database : Database)
    (model : Model)
    (conditions : Conditions) : Exchange (List Instance) := do
  let statement ← Exchange.compile database.dialect (Statement.filter model.tableName conditions)
  let rows ← database.fetchAll statement
  Exchange.ofExcept (rows.mapM model.instanceOf)

/-- The instance of the first row that fits a filter, if there is one. -/
def get
    (database : Database)
    (model : Model)
    (conditions : Conditions) : Exchange (Option Instance) := do
  let statement ← Exchange.compile database.dialect (Statement.filter model.tableName conditions)
  let row ← database.fetchOptional statement
  match row with
  | some row => Exchange.ofExcept ((model.instanceOf row).map some)
  | none => pure none

/-- The instances of all rows. -/
def all (database : Database) (model : Model) : Exchange (List Instance) := do
  let rows ← database.fetchAll (Statement.selectAll model.tableName)
  Exchange.ofExcept (rows.mapM model.instanceOf)

/-- Update the row with a key, for the number of rows updated. -/
def updateByKey
    (database : Database)
    (model : Model)
    (id : Value)
    (values : Conditions) : Exchange Int := do
  let key ← Exchange.ofExcept model.primaryKey
  let statement ← Exchange.compile database.dialect
    (Statement.updateByKey model.tableName key id values)
  database.execute statement

/-- The number of rows. No answer counts as zero. -/
def count (database : Database) (model : Model) : Exchange Int := do
  let value ← database.scalar (Statement.count model.tableName)
  if value.truthy then
    Exchange.ofExcept (value.toInt.mapError .number)
  else
    pure 0

/-- Delete all rows, for the number of rows deleted. -/
def deleteAll (database : Database) (model : Model) : Exchange Int :=
  database.execute (Statement.deleteAll model.tableName)

/-- Whether the database fills in a column whose value is nothing. -/
def leavesOut (column : Column) (value : Value) : Bool :=
  value.isNull && (column.isAutoKey || column.options.default.isSome)

/-- The columns of an instance that are saved, with their values. -/
def savedColumns (self : Instance) (columns : List Column) : List (String × Value) :=
  let pairs := columns.map fun column => (column, self.value column.name)
  (pairs.filter fun (column, value) => !leavesOut column value).map fun (column, value) =>
    (column.name, value)

/-- Insert an instance. -/
def save (database : Database) (self : Instance) : Exchange Unit := do
  let columns ← Exchange.ofExcept self.model.columns
  let values ← Exchange.ofExcept (Conditions.equalities (savedColumns self columns))
  database.create self.model values

/-- The fields of an instance besides the key, with their values. -/
def updatedFields (self : Instance) (key : String) : List (String × Value) :=
  (self.model.fieldNames.filter (· != key)).map fun name => (name, self.value name)

/-- Write the fields of an instance to the row with its key, for the number of rows updated. -/
def update (database : Database) (self : Instance) : Exchange Int := do
  let key ← Exchange.ofExcept self.model.primaryKey
  let fields := updatedFields self key
  if fields.isEmpty then
    pure 0
  else
    let values ← Exchange.ofExcept (Conditions.equalities fields)
    database.updateByKey self.model (self.value key) values

/-- Delete the row with the key of an instance, for the number of rows deleted. -/
def delete (database : Database) (self : Instance) : Exchange Int := do
  let key ← Exchange.ofExcept self.model.primaryKey
  let statement ← Exchange.ofExcept
    (Statement.deleteByKey self.model.tableName key (self.value key))
  database.execute statement

/-- What the rows of a selection are as instances of shapes, or of its models if none are asked
for. -/
def selectAll
    (database : Database)
    (selection : Selection)
    (asked : List Model) : Exchange (List Shaped) := do
  let shapes ← Exchange.ofExcept (selection.shapesFor asked)
  let statement ← Exchange.compile database.dialect selection.statement
  let rows ← database.fetch statement
  Exchange.ofExcept (selection.shaped shapes rows)

/-- The first of what the rows of a selection are, if there is one. -/
def selectOptional
    (database : Database)
    (selection : Selection)
    (asked : List Model) : Exchange (Option Shaped) := do
  let all ← database.selectAll selection asked
  pure all.head?

/-- The first of what the rows of a selection are. The error for no rows shows the statement, which
is made once more for it. -/
def selectOne
    (database : Database)
    (selection : Selection)
    (asked : List Model) : Exchange Shaped := do
  let first ← database.selectOptional selection asked
  match first with
  | some shaped => pure shaped
  | none =>
      let statement ← Exchange.compile database.dialect selection.statement
      Exchange.ofExcept (.error (database.zeroRows statement))

end Database
end BoundSql
