import BoundSql.Sql.Fragment
import BoundSql.Traced

/-!
# Statements on one table

A statement is SQL text with numbered slots and the arguments bound to them, in
the order of the slots. The statements of this module read and write the rows of
a single table; the names of tables and columns are taken as they are given.

Making a statement leaves a trace of the fragments that it is made of.
-/

namespace BoundSql

/-- SQL text and the arguments bound to its slots. -/
structure Statement where
  sql : Sql
  arguments : List Argument

/-- A fragment, which is its own trace. -/
def Fragment.traced (fragment : Except Error Fragment) : Traced Fragment Fragment := do
  let fragment ← Traced.ofExcept fragment
  Traced.note fragment
  pure fragment

namespace Statement

/-- A statement that is one literal text. -/
def ofText (text : String) : Statement :=
  ⟨Sql.ofText text, []⟩

/-- The text of a statement in a dialect. -/
def text (dialect : Dialect) (statement : Statement) : String :=
  statement.sql.render dialect

/-- The values that are bound to the slots, in order. -/
def bound (statement : Statement) : Except Error (List Value) :=
  Argument.decodeAll statement.arguments

/-- Insert a row. -/
def insert (table : String) (conditions : Conditions) : Traced Fragment Statement := do
  let values ← Fragment.traced (Fragment.forInsert conditions)
  let columns := ", ".intercalate values.columns
  pure ⟨.text ("insert into " ++ table ++ " (" ++ columns ++ ") values (") :: values.sql ++
    [.text ");"], values.arguments⟩

/-- Update the row with a key. The key is bound behind the assigned values. -/
def updateByKey
    (table key : String)
    (id : Value)
    (conditions : Conditions) : Traced Fragment Statement := do
  let assigned ← Fragment.traced (Fragment.forUpdate conditions 1)
  let id ← Traced.ofExcept (Argument.encode id)
  pure ⟨.text ("update " ++ table ++ " set ") :: assigned.sql ++
    [.text (" where " ++ key ++ "="), .slot assigned.nextIndex, .text ";"],
    assigned.arguments ++ [id]⟩

/-- Read the rows that fit a filter, or all rows if the filter is empty. -/
def filter (table : String) (conditions : Conditions) : Traced Fragment Statement := do
  let body ← Fragment.traced (Fragment.forFilter conditions 1)
  if body.parts.isEmpty then
    pure (ofText ("SELECT * FROM " ++ table ++ ";"))
  else
    pure ⟨.text ("SELECT * FROM " ++ table ++ " WHERE ") :: body.sql ++ [.text ";"],
      body.arguments⟩

/-- Read all rows. -/
def selectAll (table : String) : Statement :=
  ofText ("select * from " ++ table)

/-- Count the rows. -/
def count (table : String) : Statement :=
  ofText ("select count(*) from " ++ table)

/-- Delete the row with a key. -/
def deleteByKey (table key : String) (id : Value) : Except Error Statement := do
  let id ← Argument.encode id
  pure ⟨[.text ("delete from " ++ table ++ " where " ++ key ++ "="), .slot 1, .text ";"], [id]⟩

/-- Delete all rows. -/
def deleteAll (table : String) : Statement :=
  ofText ("delete from " ++ table ++ ";")

/-- Remove a table if there is one. -/
def dropTable (table : String) : Statement :=
  ofText ("drop table if exists " ++ table ++ ";")

end Statement
end BoundSql
