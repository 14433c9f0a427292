import BoundSql.Condition.Token
import BoundSql.Value.Equality

/-!
# Sequences of conditions

A sequence of conditions is a flat list of predicates and connectives. A
predicate compares a field with an argument, or with another column, whose name
is its value under the column tag. Nothing forces a sequence into a shape: two
predicates may stand side by side, and a sequence made by hand may hold anything
at all.

Joining two sequences by a connective adds the connective only when there is
something on both sides of it.
-/

namespace BoundSql

/-- A comparison of a field with a value or with a column. -/
structure Predicate where
  field : String
  value : Value
  tag : TypeTag
  operator : Comparison

/-- A member of a sequence of conditions. -/
inductive Item
  | predicate (p : Predicate)
  | connective (c : Connective)
  /-- Something that is no condition. -/
  | foreign (value : Value)

/-- A sequence of conditions. -/
abbrev Conditions := List Item

namespace Predicate

/-- Whether a predicate compares with a column. -/
def isColumn (p : Predicate) : Bool :=
  p.tag == .column

/-- The argument of a predicate. -/
def argument (p : Predicate) : Argument :=
  ⟨p.value, .exact p.tag⟩

/-- The predicate that compares a field with a value. -/
def ofValue (field : String) (operator value : Value) : Except Error Predicate := do
  let argument ← Argument.encode value
  let operator ← Comparison.ofToken operator
  pure ⟨field, argument.value, argument.tag.reading.tag, operator⟩

/-- The predicate that compares two columns. -/
def ofColumns (left : String) (operator : Value) (right : String) : Except Error Predicate := do
  let operator ← Comparison.ofToken operator
  pure ⟨left, .text right, .column, operator⟩

/-- Whether two predicates are equal. -/
def same (p q : Predicate) : Bool :=
  p.field == q.field && p.value.same q.value && p.tag == q.tag && p.operator == q.operator

/-- The literal of a predicate. -/
def literal (p : Predicate) : String :=
  Value.application "FieldCondition"
    ["field=" ++ Value.quotedText p.field, "value=" ++ p.value.literal,
      "type_tag=" ++ (Value.keyword (.tag p.tag)).literal,
      "operator=" ++ (Value.keyword (.comparison p.operator)).literal]

end Predicate

namespace Item

/-- The predicate a member is. -/
def predicate? : Item → Option Predicate
  | .predicate p => some p
  | _ => none

/-- Whether a member is a connective. -/
def isConnective : Item → Bool
  | .connective _ => true
  | _ => false

/-- The first value in a member that can be no key. -/
def unfitKey? : Item → Option Value
  | .predicate p => p.value.unfitKey?
  | .connective _ => none
  | .foreign value => value.unfitKey?

/-- Whether two members are equal. -/
def same : Item → Item → Bool
  | .predicate p, .predicate q => p.same q
  | .connective c, .connective d => c == d
  | .foreign a, .foreign b => a.same b
  | _, _ => false

/-- The literal of a member. -/
def literal : Item → String
  | .predicate p => p.literal
  | .connective c =>
      Value.application "LogicalOperator" ["operator=" ++ (Value.keyword (.connective c)).literal]
  | .foreign value => value.literal

end Item

namespace Conditions

/-- The sequence with one predicate that compares a field with a value. -/
def test (field : String) (operator value : Value) : Except Error Conditions := do
  let p ← Predicate.ofValue field operator value
  pure [.predicate p]

/-- The sequence with one predicate that compares two columns. -/
def columns (left : String) (operator : Value) (right : String) : Except Error Conditions := do
  let p ← Predicate.ofColumns left operator right
  pure [.predicate p]

/-- Equalities of fields with values, side by side without connectives. -/
def equalities (pairs : List (String × Value)) : Except Error Conditions :=
  pairs.mapM fun (field, value) => do
    let p ← Predicate.ofValue field (.keyword (.comparison .eq)) value
    pure (Item.predicate p)

/-- Join two sequences by a connective. Next to an empty sequence there is nothing to connect. -/
def connect (connective : Connective) (a b : Conditions) : Conditions :=
  if a.isEmpty || b.isEmpty then a ++ b else a ++ .connective connective :: b

/-- Join any number of sequences by a connective. -/
def connectAll (connective : Connective) (parts : List Conditions) : Conditions :=
  parts.foldl (connect connective) []

/-- The predicates of a sequence. -/
def predicates (conditions : Conditions) : List Predicate :=
  conditions.filterMap Item.predicate?

/-- Whether two sequences are equal member by member. -/
def same : Conditions → Conditions → Bool
  | [], [] => true
  | a :: items, b :: others => a.same b && same items others
  | _, _ => false

/-- The literal of a sequence. -/
def literal (conditions : Conditions) : String :=
  Value.application "Conditions" ["[" ++ Value.commaSeparated (conditions.map Item.literal) ++ "]"]

theorem connect_nil_left (connective : Connective) (b : Conditions) :
    connect connective [] b = b := by
  simp [connect]

theorem connect_nil_right (connective : Connective) (a : Conditions) :
    connect connective a [] = a := by
  simp [connect]

@[simp] theorem predicates_append (a b : Conditions) :
    predicates (a ++ b) = predicates a ++ predicates b :=
  List.filterMap_append

/-- Joining two sequences keeps their predicates, in order. -/
@[simp] theorem predicates_connect (connective : Connective) (a b : Conditions) :
    predicates (connect connective a b) = predicates a ++ predicates b := by
  unfold connect
  split
  · exact predicates_append a b
  · simp [predicates, List.filterMap_cons, Item.predicate?]

end Conditions
end BoundSql
