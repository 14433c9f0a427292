import BoundSql.Text.Case
import BoundSql.Value.Equality
import BoundSql.Error

/-!
# Dialects

The families of database engines, which differ in how they spell the slot for an
argument. Some dialects number their slots and some do not; the place of an
argument is the same in all of them.
-/

namespace BoundSql

/-- A family of database engines. -/
inductive Dialect
  | sqlite
  | postgres
  | mysql
  | generic
  deriving DecidableEq, Repr

namespace Dialect

/-- All dialects. -/
def all : List Dialect := [.sqlite, .postgres, .mysql, .generic]

/-- The dialect where none is chosen. -/
def ordinary : Dialect := .sqlite

/-- The name of a dialect. -/
def name : Dialect → String
  | .sqlite => "sqlite"
  | .postgres => "postgres"
  | .mysql => "mysql"
  | .generic => "generic"

/-- The dialect with a name. -/
def ofName? (s : String) : Option Dialect :=
  all.find? fun dialect => dialect.name == s

/-- The dialect with a name, or the error that shows the name. -/
def ofName (s : String) : Except Error Dialect :=
  match ofName? s with
  | some dialect => .ok dialect
  | none => .error (.unknownDialect s)

/-- What a slot begins with. -/
def mark : Dialect → String
  | .sqlite => "?"
  | .postgres => "$"
  | .mysql => "%s"
  | .generic => "?"

/-- Whether a slot carries its number. -/
def isNumbered : Dialect → Bool
  | .sqlite | .postgres => true
  | .mysql | .generic => false

/-- The slot for an index that is given by its text. -/
def slotText (dialect : Dialect) (index : String) : String :=
  if dialect.isNumbered then dialect.mark ++ index else dialect.mark

/-- The slot with a number. -/
def slot (dialect : Dialect) (index : Int) : String :=
  dialect.slotText (toString index)

/-- Whether an index can be compared with one: a number can, but for a decimal that is none. -/
def hasOrder (index : Value) : Bool :=
  match index with
  | .decimal (.nan _ _ _) => false
  | _ => index.quantity?.isSome

/-- The slot for an index of any type of number, which must not be below one. -/
def slotFor (dialect : Dialect) (index : Value) : Except Error String :=
  if !hasOrder index then
    .error (.unordered index)
  else if (index.quantity?.map Quantity.isBelowOne).getD false then
    .error (.slotIndex index)
  else
    .ok (dialect.slotText index.display)

/-- Beginnings of the schemes of connection addresses, with the dialects they stand for. -/
def schemes : List (String × Dialect) :=
  [("sqlite", .sqlite), ("libsql", .sqlite), ("postgres", .postgres), ("mysql", .mysql),
    ("mariadb", .mysql)]

/-- The dialect that a connection address stands for by its scheme, which ends at the first
colon. -/
def ofUrl (url : String) : Except Error Dialect :=
  let scheme := Text.lower (url.toList.takeWhile (· != ':'))
  match schemes.find? fun (beginning, _) => beginning.toList.isPrefixOf scheme with
  | some (_, dialect) => .ok dialect
  | none => .error (.configuration (.unknownScheme (String.ofList scheme) (schemes.map (·.1))))

end Dialect
end BoundSql
