import BoundSql.Session.Call

/-!
# What calls run

A call runs statements on its database, each as a command or as a query.  Of a query the
rows are read as well.  Which statements a call runs is settled by what it is given and by
the instances and the models of the session, and does not depend on the connection: no
operation chooses a statement by the rows of another one.

What has to be computed for a statement comes before it.  Where that is refused, nothing
more is run.
-/

namespace BoundSql

/-- A statement that is run, for the number of rows it affects or for its rows. -/
inductive Run
  | command (statement : Statement)
  | query (statement : Statement)

namespace Run

/-- The statement that is run. -/
def statement : Run → Statement
  | .command statement => statement
  | .query statement => statement

/-- What is read of a statement that has been run: the rows of a query. -/
def read : Run → Cursor → Except Error Unit
  | .command _, _ => .ok ()
  | .query _, cursor => cursor.rows.map fun _ => ()

/-- What is run after something has been computed: nothing if that is refused. -/
def after {α : Type} (computed : Except Error α) (runs : α → List Run) : List Run :=
  match computed with
  | .ok value => runs value
  | .error _ => []

end Run

open Run (after)

/-- The commands for a table: the one that drops it, if that is asked for, and the one that creates
it. -/
def TableSchema.creation (recreate : Bool) (schema : TableSchema) : List Run :=
  (if recreate then [.command (Statement.dropTable schema.table)] else []) ++
    [.command (Statement.ofText schema.ddl)]

namespace Model

/-- The command that inserts a row. -/
def insertion (model : Model) (values : Conditions) : List Run :=
  after (Statement.insert model.tableName values).result fun statement => [.command statement]

/-- The query for the rows that fit a filter. -/
def filtering (model : Model) (conditions : Conditions) : List Run :=
  after (Statement.filter model.tableName conditions).result fun statement => [.query statement]

/-- The command that updates the row with a key. -/
def updating (model : Model) (id : Value) (values : Conditions) : List Run :=
  after model.primaryKey fun key =>
    after (Statement.updateByKey model.tableName key id values).result fun statement =>
      [.command statement]

/-- The commands for the tables of several models, up to the first model that has no schema. -/
def creations (dialect : Dialect) (recreate : Bool) : List Model → List Run
  | [] => []
  | model :: models =>
      after (model.schema dialect) fun schema =>
        schema.creation recreate ++ creations dialect recreate models

end Model

namespace Instance

/-- The command that saves an instance. -/
def saving (self : Instance) : List Run :=
  after self.model.columns fun columns =>
    after (Conditions.equalities (Database.savedColumns self columns)) self.model.insertion

/-- The command that writes an instance to the row with its key, if it has other fields. -/
def updating (self : Instance) : List Run :=
  after self.model.primaryKey fun key =>
    let fields := Database.updatedFields self key
    if fields.isEmpty then []
    else after (Conditions.equalities fields) (self.model.updating (self.value key))

/-- The command that deletes the row with the key of an instance. -/
def deletion (self : Instance) : List Run :=
  after self.model.primaryKey fun key =>
    after (Statement.deleteByKey self.model.tableName key (self.value key)) fun statement =>
      [.command statement]

end Instance

/-- The query of a selection, if there are shapes for its result. -/
def Selection.querying (selection : Selection) (asked : List Model) : List Run :=
  after (selection.shapesFor asked) fun _ =>
    after selection.statement.result fun statement => [.query statement]

/-- What a call runs in a session, in order, as far as nothing is refused and nothing fails. -/
def Call.runs (state : SessionState) : Call → List Run
  | .make _ _ _ | .assign _ _ _ | .fromRow _ _ _ | .register _ | .dispose | .openAndClose _ => []
  | .save name => after (state.find name) Instance.saving
  | .update name => after (state.find name) Instance.updating
  | .delete name => after (state.find name) Instance.deletion
  | .migrate model recreate =>
      after (model.schema state.database.dialect) (TableSchema.creation recreate)
  | .migrateAll models recreate =>
      Model.creations state.database.dialect recreate
        (if models.isEmpty then state.database.registry.models else models)
  | .create model values => after values.eval model.insertion
  | .filter model conditions => after conditions.eval model.filtering
  | .get _ model conditions => after conditions.eval model.filtering
  | .all model => [.query (Statement.selectAll model.tableName)]
  | .count model => [.query (Statement.count model.tableName)]
  | .deleteAll model => [.command (Statement.deleteAll model.tableName)]
  | .updateByKey model id values => after values.eval (model.updating id)
  | .execute statement => [.command statement]
  | .fetch statement | .fetchAll statement | .fetchOptional statement | .fetchOne statement
  | .scalar statement => [.query statement]
  | .select steps _ shapes =>
      after (SelectionStep.applyAll none steps) fun selection => selection.querying shapes
  | .ask selection _ shapes => selection.querying shapes

end BoundSql
