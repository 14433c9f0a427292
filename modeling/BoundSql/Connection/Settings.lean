import BoundSql.Connection.Url
import BoundSql.Model.Instance

/-!
# Settings

Settings of a connection: its address, whether statements are echoed, the size of
the pool, and the dialect if it is not the one of the address. They are given
directly or read from the environment, where their names have a beginning of
their own and may be in any letter case, and where empty values do not count.
-/

namespace BoundSql

/-- Settings of a connection. -/
structure Settings where
  url : Option String
  echo : Bool
  poolSize : Int
  dialect : Option Dialect
  deriving DecidableEq, Repr

namespace Settings

/-- The dialects as an enumeration of texts. -/
def dialectType : EnumerationType where
  enumeration := ⟨"Dialect", .text, true⟩
  members := Dialect.all.map fun dialect => (dialect.name, .text dialect.name)

/-- A setting with its type and its initial value. -/
def setting (name : String) (type : FieldType) (initial : Value) : Field :=
  ⟨name, type, ColumnOptions.plain, some initial⟩

/-- The settings. -/
def fields : List Field :=
  [setting "url" ((FieldType.scalar .text).optional .barred) .null,
    setting "echo" (FieldType.scalar .boolean) (.bool false),
    setting "pool_size" (FieldType.scalar .integer) (.int 5),
    setting "dialect" ((FieldType.scalar (.enumerated dialectType)).optional .barred) .null]

/-- The beginning of the names of settings in the environment. -/
def environmentStart : String := "DATABASE_"

/-- The name of a setting in the environment, in small letters. -/
def environmentName (field : String) : List Char :=
  Text.lower (environmentStart ++ field).toList

/-- The value of a setting in the environment. Of several spellings of its name the last counts. -/
def inEnvironment? (environment : List (String × String)) (field : String) : Option String :=
  let matching := environment.filter fun (name, value) =>
    value != "" && Text.lower name.toList == environmentName field
  matching.getLast?.map (·.2)

/-- The values of settings in the environment. -/
def environmentRow (environment : List (String × String)) : Row :=
  fields.filterMap fun field =>
    (inEnvironment? environment field.name).map fun value => (field.name, .text value)

/-- The settings whose values are in a row. -/
def ofRow (row : Row) : Settings :=
  let value (name : String) : Value := (row.lookup name).getD .null
  { url := (value "url").text?
    echo := (value "echo").truthy
    poolSize := (value "pool_size").int?.getD 0
    dialect := (value "dialect").text?.bind Dialect.ofName? }

/-- Read settings. Values that are given count more than those of the environment. -/
def read (environment : List (String × String)) (given : Row) : Except Error Settings :=
  (Field.fill (given ++ environmentRow environment) fields).map ofRow

/-- The address, which must not be missing or empty. -/
def givenUrl (settings : Settings) : Except Error String :=
  match settings.url with
  | some url => if url == "" then .error (.configuration .urlNotSet) else .ok url
  | none => .error (.configuration .urlNotSet)

/-- The address with a driver in its scheme. -/
def driverUrl (settings : Settings) : Except Error String :=
  settings.givenUrl.bind Connection.driverUrl

/-- The dialect that is set, or else the one of the address. -/
def resolvedDialect (settings : Settings) : Except Error Dialect :=
  match settings.dialect with
  | some dialect => .ok dialect
  | none => settings.givenUrl.bind Dialect.ofUrl

end Settings
end BoundSql
