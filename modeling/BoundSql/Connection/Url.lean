import BoundSql.Sql.Dialect

/-!
# Connection addresses

The scheme of a connection address names an engine, or an engine and a driver
with a plus between them. An address that names no driver is given the driver
that works without blocking, where there is one for its engine.
-/

namespace BoundSql
namespace Connection

/-- Schemes without a driver and the schemes with the driver for them. -/
def drivers : List (String × String) :=
  [("sqlite", "sqlite+aiosqlite"), ("postgres", "postgresql+asyncpg"),
    ("postgresql", "postgresql+asyncpg"), ("mysql", "mysql+aiomysql"),
    ("mariadb", "mariadb+aiomysql")]

/-- The scheme with the driver for a scheme in any letter case. -/
def driverFor? (scheme : List Char) : Option String :=
  drivers.lookup (String.ofList (Text.lower scheme))

/-- An address with a driver in its scheme. An address whose engine is not known is left as it
is. -/
def driverUrl (url : String) : Except Error String :=
  match url.toList.span (· != ':') with
  | (scheme, ':' :: rest) =>
      if scheme.contains '+' then
        .ok url
      else
        match driverFor? scheme with
        | some driver => .ok (driver ++ ":" ++ String.ofList rest)
        | none => .ok url
  | _ => .error (.configuration (.missingScheme url))

end Connection
end BoundSql
