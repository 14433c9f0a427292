import BoundSql.Model.Registry
import BoundSql.Session.Exchange

/-!
# Databases

A database runs statements in its dialect on an engine or on a connection, and
knows the models of a registry. The arguments of a statement are decoded inside
the transaction, so one that does not decode rolls it back. The rows of a query
are read inside it as well, and made into rows by name after it.
-/

namespace BoundSql

/-- A database. -/
structure Database where
  binding : Binding
  dialect : Dialect
  registry : Registry

namespace Database

/-- The database for a connection whose engine has a name; a dialect that is given counts more. -/
def ofBinding
    (binding : Binding)
    (engineName : String)
    (dialect : Option Dialect)
    (registry : Registry) : Except Error Database :=
  match dialect with
  | some dialect => .ok ⟨binding, dialect, registry⟩
  | none => (Dialect.ofUrl engineName).map fun dialect => ⟨binding, dialect, registry⟩

/-- Send a statement with its decoded arguments, and take something of what it leaves. -/
def send
    {α : Type}
    (database : Database)
    (statement : Statement)
    (take : Cursor → Except Error α) : Exchange α :=
  Exchange.within database.binding do
    let parameters ← Exchange.ofExcept statement.bound
    let cursor ← Exchange.send (statement.text database.dialect) parameters
    Exchange.ofExcept (take cursor)

/-- Run a statement for the number of rows it affects. -/
def execute (database : Database) (statement : Statement) : Exchange Int := do
  Exchange.log
    (.executing (statement.text database.dialect) statement.arguments.length)
  database.send statement fun cursor => .ok cursor.rowCount

/-- Run a query for its result. -/
def fetch (database : Database) (statement : Statement) : Exchange Rows := do
  Exchange.log
    (.fetching (statement.text database.dialect) statement.arguments.length)
  database.send statement Cursor.rows

/-- All rows of a query. -/
def fetchAll (database : Database) (statement : Statement) : Exchange (List Row) := do
  let rows ← database.fetch statement
  Exchange.ofExcept rows.mappings

/-- The first row of a query, if there is one. -/
def fetchOptional (database : Database) (statement : Statement) : Exchange (Option Row) := do
  let rows ← database.fetchAll statement
  pure rows.head?

/-- The error of a query that should have had a row. -/
def zeroRows (database : Database) (statement : Statement) : Error :=
  .zeroRows (.text (statement.text database.dialect))

/-- The first row of a query. -/
def fetchOne (database : Database) (statement : Statement) : Exchange Row := do
  let row ← database.fetchOptional statement
  match row with
  | some row => pure row
  | none => Exchange.ofExcept (.error (database.zeroRows statement))

/-- The first value of the first row of a query, or nothing if there is no row. -/
def scalar (database : Database) (statement : Statement) : Exchange Value := do
  let rows ← database.fetch statement
  match rows.records with
  | [] => pure .null
  | [] :: _ => Exchange.ofExcept (.error (.noSuchItem (Value.tuple []).typeName))
  | (value :: _) :: _ => pure value

/-- Let go of the engine; a connection stays with its owner. -/
def dispose (database : Database) : Exchange Unit :=
  match database.binding with
  | .engine => Exchange.note .disposed
  | .connection => pure ()

/-- Use a database and let go of it at the end, also when the use fails. -/
def whileOpen (database : Database) {α : Type} (use : Exchange α) : Exchange α :=
  match database.binding with
  | .engine => Exchange.endingWith (fun _ => .disposed) use
  | .connection => use

end Database
end BoundSql
