import BoundSql.Condition.Expression
import BoundSql.Model.Basic
import BoundSql.Sql.Statement

/-!
# Selections

A selection reads from one table or from several that are joined. It names its
targets, models or tables; several targets select the columns of each, one after
the other. The table it begins with is that of a single target; with several
targets it stays open until the first join, which may name it.

The conditions of the joins and the filter share the numbers of their slots: each
part begins where the one before it stopped.
-/

namespace BoundSql

/-- What a selection reads from. -/
inductive Target
  | table (name : String)
  | model (model : Model)

namespace Target

/-- The table of a target. -/
def tableName : Target → String
  | .table name => name
  | .model described => described.tableName

/-- The model that a target is. -/
def model? : Target → Option Model
  | .table _ => none
  | .model described => some described

end Target

/-- A table joined to a selection. -/
structure Join where
  kind : JoinKind
  table : String
  on : Conditions

/-- A selection. -/
structure Selection where
  targets : List Target
  /-- The table that the selection begins with, if it is fixed. -/
  base : Option String
  joins : List Join
  conditions : Conditions

namespace Selection

/-- The columns of tables as an SQL clause. -/
def starClause (tables : List String) : String :=
  ", ".intercalate (tables.map (· ++ ".*"))

/-- The clause that names the columns of a selection. -/
def clause (selection : Selection) : String :=
  match selection.targets with
  | [_] => "*"
  | targets => starClause (targets.map Target.tableName)

/-- The models among the targets. -/
def models (selection : Selection) : List Model :=
  selection.targets.filterMap Target.model?

/-- The selection of given targets. -/
def ofTargets : List Target → Except Error Selection
  | [] => .error (.compile .noTarget)
  | [target] => .ok ⟨[target], some target.tableName, [], []⟩
  | targets => .ok ⟨targets, none, [], []⟩

/-- The selection with its first table fixed: the one given, or that of the first model. -/
def withBase (given : Option Target) (selection : Selection) : Selection :=
  let candidate :=
    match given with
    | some target => some target.tableName
    | none => selection.models.head?.map Model.tableName
  { selection with base := selection.base.or candidate }

/-- Join a table. A join whose kind is refused leaves no join, but the first table stays fixed. -/
def join
    (kind : Value)
    (table : Target)
    (on : Conditions)
    (base : Option Target)
    (selection : Selection) : Except Error Unit × Selection :=
  let selection := selection.withBase base
  match JoinKind.ofToken kind with
  | .ok kind =>
      (.ok (), { selection with joins := selection.joins ++ [⟨kind, table.tableName, on⟩] })
  | .error error => (.error error, selection)

/-- Restrict a selection by conditions, besides those it has. -/
def restrict (conditions : Conditions) (selection : Selection) : Selection :=
  { selection with conditions := Conditions.connect .and selection.conditions conditions }

/-- A joined table as SQL text. -/
def joinSql (join : Join) (on : Fragment) : Sql :=
  .text (" " ++ join.kind.symbol ++ " JOIN " ++ join.table ++ " ON ") :: on.sql

/-- The joined tables as SQL text with their arguments, and the next number of a slot. -/
def joinsSql (next : Int) : List Join → Traced Fragment (Sql × List Argument × Int)
  | [] => pure ([], [], next)
  | join :: joins => do
      if join.on.isEmpty then
        Traced.fail (.compile (.joinWithoutConditions join.table))
      else
        let on ← Fragment.traced (Fragment.forFilter join.on next)
        let (sql, arguments, next) ← joinsSql on.nextIndex joins
        pure (joinSql join on ++ sql, on.arguments ++ arguments, next)

/-- The filter of a selection as SQL text; there is none without conditions. -/
def filterSql (filter : Fragment) : Sql :=
  if filter.parts.isEmpty then [] else .text " WHERE " :: filter.sql

/-- The statement of a selection. -/
def statement (selection : Selection) : Traced Fragment Statement := do
  match selection.base with
  | none => Traced.fail (.compile .openBaseTable)
  | some base =>
      let (joined, arguments, next) ← joinsSql 1 selection.joins
      let filter ← Fragment.traced (Fragment.forFilter selection.conditions next)
      pure ⟨.text ("SELECT " ++ selection.clause ++ " FROM " ++ base) :: joined ++
        filterSql filter ++ [.text ";"], arguments ++ filter.arguments⟩

end Selection

/-- A step of making a selection. Selecting targets begins anew. -/
inductive SelectionStep
  | select (targets : List Target)
  | join (kind : Value) (table : Target) (on : Expression) (base : Option Target)
  | restrict (conditions : Expression)

namespace SelectionStep

/-- Change a selection that has been begun. -/
def change (begun : Option Selection) (step : Selection → Except Error Unit × Selection) :
    Except Error Unit × Option Selection :=
  match begun with
  | some selection =>
      let (outcome, selection) := step selection
      (outcome, some selection)
  | none => (.error (.compile .noTarget), none)

/-- The selection after a step, and whether the step failed. -/
def apply (begun : Option Selection) : SelectionStep → Except Error Unit × Option Selection
  | .select targets =>
      match Selection.ofTargets targets with
      | .ok selection => (.ok (), some selection)
      | .error error => (.error error, begun)
  | .join kind table on base =>
      match on.eval with
      | .ok on => change begun (Selection.join kind table on base)
      | .error error => (.error error, begun)
  | .restrict conditions =>
      match conditions.eval with
      | .ok conditions => change begun fun selection => (.ok (), selection.restrict conditions)
      | .error error => (.error error, begun)

/-- The selection after several steps, or the error of the first that fails. -/
def applyAll (begun : Option Selection) : List SelectionStep → Except Error Selection
  | [] =>
      match begun with
      | some selection => .ok selection
      | none => .error (.compile .noTarget)
  | step :: steps =>
      match step.apply begun with
      | (.ok (), begun) => applyAll begun steps
      | (.error error, _) => .error error

end SelectionStep
end BoundSql
