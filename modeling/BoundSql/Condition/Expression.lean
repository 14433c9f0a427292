import BoundSql.Condition.Basic
import BoundSql.Condition.Slice
import BoundSql.Entries

/-!
# Condition expressions

Sequences of conditions as applications write them: leaves, joins by
connectives, chains, slices, sequences made by hand, and runs of builder steps,
nested in one another. An expression is evaluated in reading order and fails
with the first leaf or step that fails. Of several equalities that name one field
the last counts, in the place of the first.

A builder keeps one sequence and adds to it step by step. A step that fails
leaves the sequence as it was.
-/

namespace BoundSql

/-- How a sequence is added to another one. -/
inductive Combinator
  | connect (connective : Connective)
  | append
  deriving DecidableEq, Repr

/-- What holds a sequence made by hand. -/
inductive SequenceForm
  | conditions
  | list
  | tuple
  deriving DecidableEq, Repr

/-- The name of the type that holds the members; those of a sequence of conditions are in a
tuple. -/
def SequenceForm.typeName : SequenceForm → String
  | .list => (Value.list []).typeName
  | .conditions | .tuple => (Value.tuple []).typeName

/-- A member of a sequence made by hand: given, or a test that is yet to be made. -/
inductive Entry
  | given (item : Item)
  | test (field : String) (operator value : Value)

mutual

/-- A condition expression. -/
inductive Expression
  | test (field : String) (operator value : Value)
  | equalities (pairs : List (String × Value))
  | columns (left : String) (operator : Value) (right : String)
  | joined (connective : Connective) (parts : List Expression)
  | chain (first : Expression) (rest : List (Combinator × Expression))
  | entries (form : SequenceForm) (members : List Entry)
  | slice (source : Expression) (start stop step : Option Int)
  | built (steps : List BuilderStep)

/-- A step of a builder. -/
inductive BuilderStep
  | test (connective : Connective) (field : String) (operator value : Value)
  | columns (connective : Connective) (left : String) (operator : Value) (right : String)
  | add (conditions : Expression) (connective : Value)
  | reset
  | build

end

/-- Add a sequence to another one. -/
def Combinator.apply : Combinator → Conditions → Conditions → Conditions
  | .connect connective, a, b => Conditions.connect connective a b
  | .append, a, b => a ++ b

/-- The member of a sequence made by hand. -/
def Entry.item : Entry → Except Error Item
  | .given item => .ok item
  | .test field operator value => (Predicate.ofValue field operator value).map .predicate

namespace Expression

/-- What holds the sequence of an expression. -/
def form : Expression → SequenceForm
  | .entries form _ => form
  | .slice source _ _ _ => source.form
  | .chain first _ => first.form
  | _ => .conditions

end Expression

mutual

/-- The sequence of an expression. -/
def Expression.eval : Expression → Except Error Conditions
  | .test field operator value => Conditions.test field operator value
  | .equalities pairs => Conditions.equalities (Entries.ofPairs (· == ·) pairs)
  | .columns left operator right => Conditions.columns left operator right
  | .joined connective parts => do
      let parts ← Expression.evalAll parts
      pure (Conditions.connectAll connective parts)
  | .chain first rest => do
      let conditions ← first.eval
      Expression.evalChain conditions rest
  | .entries _ members => members.mapM Entry.item
  | .slice source start stop step => do
      let conditions ← source.eval
      Slice.slice conditions start stop step
  | .built steps => BuilderStep.applyAll [] steps

/-- The sequences of several expressions. -/
def Expression.evalAll : List Expression → Except Error (List Conditions)
  | [] => pure []
  | part :: parts => do
      let conditions ← part.eval
      let others ← Expression.evalAll parts
      pure (conditions :: others)

/-- Add the sequences of a chain one after the other. -/
def Expression.evalChain (conditions : Conditions) :
    List (Combinator × Expression) → Except Error Conditions
  | [] => pure conditions
  | (combinator, part) :: rest => do
      let added ← part.eval
      Expression.evalChain (combinator.apply conditions added) rest

/-- Take a step from the sequence that a builder holds. -/
def BuilderStep.apply (conditions : Conditions) : BuilderStep → Except Error Conditions
  | .test connective field operator value => do
      let added ← Conditions.test field operator value
      pure (Conditions.connect connective conditions added)
  | .columns connective left operator right => do
      let added ← Conditions.columns left operator right
      pure (Conditions.connect connective conditions added)
  | .add part connective => do
      let added ← part.eval
      let connective ← Connective.ofToken connective
      pure (Conditions.connect connective conditions added)
  | .reset => pure []
  | .build => pure conditions

/-- Take several steps from the sequence that a builder holds. -/
def BuilderStep.applyAll (conditions : Conditions) : List BuilderStep → Except Error Conditions
  | [] => pure conditions
  | step :: steps => do
      let conditions ← step.apply conditions
      BuilderStep.applyAll conditions steps

end

namespace Expression

/-- Places beyond this bound on either side are not asked for in any sequence. -/
def placeReach : Int := Nat.pow 2 63

/-- The member at a place of the sequence of an expression. -/
def item (expression : Expression) (place : Int) : Except Error Item := do
  let items ← expression.eval
  if place < -placeReach || placeReach ≤ place then
    throw .placeOutOfReach
  match Slice.item? items place with
  | some item => pure item
  | none => throw (.noSuchItem expression.form.typeName)

end Expression

namespace BuilderStep

/-- Whether a step hands back the builder; only building does not. -/
def keepsBuilder : BuilderStep → Bool
  | .build => false
  | _ => true

/-- The sequence that a builder holds after a step: what the step makes of it, or the sequence as
it was if the step fails. -/
def after (conditions : Conditions) (step : BuilderStep) : Conditions :=
  match step.apply conditions with
  | .ok changed => changed
  | .error _ => conditions

end BuilderStep

/-- A value that a sequence of conditions may be compared with. -/
inductive Comparand
  | sequence (form : SequenceForm) (items : Conditions)
  | other

namespace Comparand

/-- The comparand a value is: a list or a tuple of values, or nothing comparable. -/
def ofValue : Value → Comparand
  | .list items => .sequence .list (items.map .foreign)
  | .tuple items => .sequence .tuple (items.map .foreign)
  | _ => .other

/-- Equality of comparands. A sequence of conditions equals a list and a tuple of the same members;
lists and tuples are not equal to each other. -/
def same : Comparand → Comparand → Bool
  | .sequence form items, .sequence otherForm others =>
      (form == otherForm || form == .conditions || otherForm == .conditions) &&
        Conditions.same items others
  | _, _ => false

/-- Whether a comparand is a sequence of conditions. -/
def isConditions : Comparand → Bool
  | .sequence .conditions _ => true
  | _ => false

/-- The first value in a sequence that can be no key. -/
def unfitKey? : Comparand → Option Value
  | .sequence _ items => items.findSome? Item.unfitKey?
  | .other => none

/-- Whether two comparands are equal, and whether they stand for one key: only sequences of
conditions are keys, and only those without lists and dictionaries. -/
def compare (left right : Comparand) : Except Error (Bool × Bool) :=
  if left.same right && left.isConditions && right.isConditions then
    match left.unfitKey? with
    | some value => .error (.unfitKey value)
    | none => .ok (true, true)
  else
    .ok (left.same right, false)

end Comparand
end BoundSql
