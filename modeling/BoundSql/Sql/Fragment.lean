import BoundSql.Condition.Basic
import BoundSql.Sql.Dialect

/-!
# Fragments of SQL text

SQL text is a list of pieces: literal text, and slots for arguments by their
numbers. It becomes a string only when a dialect is chosen, so what a value is
cannot change the text around its slot.

A fragment is made from a sequence of conditions: the value list of an
insertion, the assignments of an update, or the body of a filter. Each bound
predicate takes the next number, beginning with the start of the fragment, and
adds its argument at the same place. Predicates that compare columns are written
out and take no number.

In a filter a connective must stand between two predicates, and predicates side
by side are joined by `and`. In an update connectives are skipped. In an
insertion neither connectives nor column references are allowed.
-/

namespace BoundSql

/-- A piece of SQL text. -/
inductive Piece
  | text (s : String)
  | slot (index : Int)
  deriving DecidableEq, Repr

/-- SQL text with numbered slots. -/
abbrev Sql := List Piece

/-- A piece in a dialect. -/
def Piece.render (dialect : Dialect) : Piece → String
  | .text s => s
  | .slot index => dialect.slot index

/-- The number of the slot that a piece is. -/
def Piece.slot? : Piece → Option Int
  | .text _ => none
  | .slot index => some index

namespace Sql

/-- SQL text in a dialect. -/
def render (dialect : Dialect) (sql : Sql) : String :=
  String.join (sql.map (Piece.render dialect))

/-- SQL text that is one literal. -/
def ofText (s : String) : Sql :=
  [.text s]

/-- SQL texts with a separator between them. -/
def joinWith (separator : String) (parts : List Sql) : Sql :=
  [Piece.text separator].intercalate parts

/-- The numbers of the slots of SQL text, from left to right. -/
def slots (sql : Sql) : List Int :=
  sql.filterMap Piece.slot?

@[simp] theorem render_nil (dialect : Dialect) : render dialect [] = "" := rfl

@[simp] theorem render_cons (dialect : Dialect) (piece : Piece) (sql : Sql) :
    render dialect (piece :: sql) = piece.render dialect ++ render dialect sql := by
  simp [render, String.join_cons]

@[simp] theorem render_append (dialect : Dialect) (sql more : Sql) :
    render dialect (sql ++ more) = render dialect sql ++ render dialect more := by
  induction sql with
  | nil => simp
  | cons piece sql rendered => simp [rendered, String.append_assoc]

@[simp] theorem slots_nil : slots [] = [] := rfl

@[simp] theorem slots_text (s : String) (sql : Sql) : slots (.text s :: sql) = slots sql := rfl

@[simp] theorem slots_slot (index : Int) (sql : Sql) :
    slots (.slot index :: sql) = index :: slots sql := rfl

@[simp] theorem slots_append (sql more : Sql) : slots (sql ++ more) = slots sql ++ slots more :=
  List.filterMap_append

/-- A separator brings no slots with it. -/
@[simp] theorem slots_joinWith (separator : String) (parts : List Sql) :
    (joinWith separator parts).slots = parts.flatMap slots := by
  induction parts with
  | nil => rfl
  | cons part parts joined =>
      cases parts with
      | nil => simp [joinWith]
      | cons next parts =>
          simp only [joinWith, List.intercalate_cons_cons] at joined ⊢
          simp [joined]

end Sql

/-- What a fragment is part of. -/
inductive FragmentShape
  | insertion
  | update
  | filter
  deriving DecidableEq, Repr

/-- What stands between the parts of a fragment. -/
def FragmentShape.separator : FragmentShape → String
  | .insertion | .update => ", "
  | .filter => " "

/-- SQL text made from a sequence of conditions, with its arguments. -/
structure Fragment where
  shape : FragmentShape
  /-- The parts of the text, which the separator of the shape joins. -/
  parts : List Sql
  arguments : List Argument
  /-- The names of the columns of an insertion. -/
  columns : List String
  /-- The number of the first slot. -/
  start : Int

namespace Fragment

/-- The SQL text of a fragment. -/
def sql (fragment : Fragment) : Sql :=
  Sql.joinWith fragment.shape.separator fragment.parts

/-- The first slot number that a fragment does not use. -/
def nextIndex (fragment : Fragment) : Int :=
  fragment.start + fragment.arguments.length

/-- The slot with a number, which must not be below one. -/
def slotAt (index : Int) : Except Error Piece :=
  if index < 1 then .error (.slotIndex (.int index)) else .ok (.slot index)

/-- The error for a member that is no condition. -/
def foreignError (position : Nat) (value : Value) : Error :=
  .compile (.foreignItem position value.typeName)

/-- A predicate as SQL text, with its argument if it has one. -/
def bindPredicate
    (operator : String)
    (next : Int)
    (p : Predicate) : Except Error (Sql × List Argument) :=
  if p.isColumn then
    .ok ([.text (p.field ++ operator ++ p.value.display)], [])
  else do
    let slot ← slotAt next
    pure ([.text (p.field ++ operator), slot], [p.argument])

/-- The predicates of an insertion, or the error of the first member that is not allowed. -/
def insertable (position : Nat) : Conditions → Except Error (List Predicate)
  | [] => .ok []
  | .connective c :: _ => .error (.sequence (.insideInsert c position))
  | .foreign value :: _ => .error (foreignError position value)
  | .predicate p :: rest =>
      if p.isColumn then
        .error (.compile (.columnInserted p.value p.field))
      else
        (insertable (position + 1) rest).map (p :: ·)

/-- The columns and the slots of an insertion. -/
def forInsert (conditions : Conditions) : Except Error Fragment := do
  let predicates ← insertable 0 conditions
  if predicates.isEmpty then
    .error (.compile .emptyInsert)
  else
    .ok
      { shape := .insertion
        parts := (List.range predicates.length).map fun n => [Piece.slot (n + 1 : Nat)]
        arguments := predicates.map Predicate.argument
        columns := predicates.map Predicate.field
        start := 1 }

/-- The assignments of an update and their arguments. -/
def assignments (next : Int) (position : Nat) :
    Conditions → Except Error (List Sql × List Argument)
  | [] => .ok ([], [])
  | .connective _ :: rest => assignments next (position + 1) rest
  | .foreign value :: _ => .error (foreignError position value)
  | .predicate p :: rest => do
      let (sql, bound) ← bindPredicate "=" next p
      let (parts, arguments) ← assignments (next + bound.length) (position + 1) rest
      pure (sql :: parts, bound ++ arguments)

/-- The assignments of an update as a fragment. -/
def forUpdate (conditions : Conditions) (start : Int) : Except Error Fragment := do
  let (parts, arguments) ← assignments start 0 conditions
  if parts.isEmpty then
    .error (.compile .emptyUpdate)
  else
    .ok ⟨.update, parts, arguments, [], start⟩

/-- Check that every connective stands between two predicates; `expecting` tells whether the
members before `position` leave a predicate to be expected. -/
def checkShape (expecting : Bool) (position : Nat) : Conditions → Except Error Unit
  | [] =>
      if expecting && position != 0 then .error (.sequence (.trailing (position - 1))) else .ok ()
  | .connective c :: rest =>
      if expecting then .error (.sequence (.nothingOnLeft c position))
      else checkShape true (position + 1) rest
  | _ :: rest => checkShape false (position + 1) rest

/-- The predicates and connectives of a filter and the arguments; `joined` tells whether the last
member written was a predicate. -/
def filterParts (joined : Bool) (next : Int) (position : Nat) :
    Conditions → Except Error (List Sql × List Argument)
  | [] => .ok ([], [])
  | .connective c :: rest => do
      let (parts, arguments) ← filterParts false next (position + 1) rest
      pure (Sql.ofText c.symbol :: parts, arguments)
  | .foreign value :: _ => .error (foreignError position value)
  | .predicate p :: rest => do
      let (sql, bound) ← bindPredicate p.operator.symbol next p
      let (parts, arguments) ← filterParts true (next + bound.length) (position + 1) rest
      let written := if joined then [Sql.ofText Connective.and.symbol, sql] else [sql]
      pure (written ++ parts, bound ++ arguments)

/-- The body of a filter as a fragment; an empty sequence makes an empty one. -/
def forFilter (conditions : Conditions) (start : Int) : Except Error Fragment := do
  checkShape true 0 conditions
  let (parts, arguments) ← filterParts false start 0 conditions
  pure ⟨.filter, parts, arguments, [], start⟩

end Fragment
end BoundSql
