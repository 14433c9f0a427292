import BoundSql.Sql.Fragment

/-!
# Log entries

What the library reports about its work: fragments and statements as a dialect
spells them, registrations of models, created tables and connections. An entry
has a level and comes from one of the activities of the library.
-/

namespace BoundSql

/-- How important a log entry is. -/
inductive LogLevel
  | debug
  | info
  | warning
  deriving DecidableEq, Repr

/-- The name of a level. -/
def LogLevel.name : LogLevel → String
  | .debug => "DEBUG"
  | .info => "INFO"
  | .warning => "WARNING"

/-- The activity that a log entry is about. -/
inductive LogSource
  | compilation
  | connection
  | registration
  | migration
  deriving DecidableEq, Repr

/-- The name under which an activity reports. -/
def LogSource.name : LogSource → String
  | .compilation => "compiler"
  | .connection => "database"
  | .registration => "registry"
  | .migration => "model"

/-- A log entry. -/
inductive LogEntry
  | compiled (dialect : Dialect) (fragment : Fragment)
  | executing (statement : String) (arguments : Nat)
  | fetching (statement : String) (arguments : Nat)
  | connected (dialect : Dialect)
  | registered (model table : String)
  | replaced (table model previous : String)
  | migrated (table : String)

/-- The names of the columns of an insertion as SQL text. -/
def Fragment.columnText (fragment : Fragment) : String :=
  ", ".intercalate fragment.columns

/-- The text of a fragment in a dialect. -/
def Fragment.text (dialect : Dialect) (fragment : Fragment) : String :=
  fragment.sql.render dialect

namespace LogEntry

/-- The level of an entry. -/
def level : LogEntry → LogLevel
  | .compiled _ _ | .executing _ _ | .fetching _ _ | .registered _ _ => .debug
  | .connected _ | .migrated _ => .info
  | .replaced _ _ _ => .warning

/-- The activity of an entry. -/
def source : LogEntry → LogSource
  | .compiled _ _ => .compilation
  | .executing _ _ | .fetching _ _ | .connected _ => .connection
  | .registered _ _ | .replaced _ _ _ => .registration
  | .migrated _ => .migration

/-- What is said of a fragment. -/
def fragmentMessage (dialect : Dialect) (fragment : Fragment) : String :=
  let text := fragment.text dialect
  match fragment.shape with
  | .insertion => "Compiled insert (" ++ fragment.columnText ++ ") values (" ++ text ++ ")"
  | .update => "Compiled set " ++ text
  | .filter => "Compiled where " ++ (if fragment.parts.isEmpty then "<empty>" else text)

/-- What an entry says. -/
def message : LogEntry → String
  | .compiled dialect fragment => fragmentMessage dialect fragment
  | .executing statement arguments => "Executing " ++ statement ++ s!" [{arguments} args]"
  | .fetching statement arguments => "Fetching " ++ statement ++ s!" [{arguments} args]"
  | .connected dialect => "Connected " ++ dialect.name ++ " database engine"
  | .registered model table => "Registered model " ++ model ++ " as table '" ++ table ++ "'"
  | .replaced table model previous =>
      "Table '" ++ table ++ "' re-registered: " ++ model ++ " replaces " ++ previous
  | .migrated table => "Migrated table " ++ table

end LogEntry
end BoundSql
