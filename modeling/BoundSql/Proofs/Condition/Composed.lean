import BoundSql.Condition.Expression
import BoundSql.Proofs.Argument.Encoding
import BoundSql.Proofs.Condition.Shape

/-!
# Composed expressions

A composed expression is built from tests, equalities and comparisons of columns by
joins, chains and runs of builder steps alone: it has no members made by hand and no
slices.  It may be empty anywhere, and a builder in it may be reset.

If all leaves of a composed expression construct, the expression has a well-shaped
sequence, which holds the leaves that no reset discards in reading order.  So it is
always accepted as a filter.
-/

namespace BoundSql

/-- A leaf of an expression. -/
inductive Leaf
  | test (field : String) (operator value : Value)
  | columns (left : String) (operator : Value) (right : String)

namespace Leaf

/-- The predicate of a leaf. -/
def predicate : Leaf → Except Error Predicate
  | .test field operator value => Predicate.ofValue field operator value
  | .columns left operator right => Predicate.ofColumns left operator right

/-- The value that a leaf compares with, unless it compares columns. -/
def value? : Leaf → Option Value
  | .test _ _ value => some value
  | .columns _ _ _ => none

/-- Whether a leaf constructs. -/
def Constructs (leaf : Leaf) : Prop :=
  ∃ p, leaf.predicate = .ok p

/-- The leaves of equalities. -/
def ofPairs (pairs : List (String × Value)) : List Leaf :=
  (Entries.ofPairs (· == ·) pairs).map fun (field, value) =>
    .test field (.keyword (.comparison .eq)) value

end Leaf

mutual

/-- Whether an expression is composed and all its leaves construct. -/
def Expression.Composed : Expression → Prop
  | .test field operator value => (Leaf.test field operator value).Constructs
  | .equalities pairs => ∀ leaf ∈ Leaf.ofPairs pairs, leaf.Constructs
  | .columns left operator right => (Leaf.columns left operator right).Constructs
  | .joined _ parts => Expression.ComposedAll parts
  | .chain first rest => first.Composed ∧ Expression.ComposedChain rest
  | .entries _ members => members = []
  | .slice _ _ _ _ => False
  | .built steps => BuilderStep.ComposedAll steps

/-- Whether several expressions are composed. -/
def Expression.ComposedAll : List Expression → Prop
  | [] => True
  | part :: parts => part.Composed ∧ Expression.ComposedAll parts

/-- Whether the expressions of a chain are composed. -/
def Expression.ComposedChain : List (Combinator × Expression) → Prop
  | [] => True
  | (_, part) :: rest => part.Composed ∧ Expression.ComposedChain rest

/-- Whether a builder step adds a composed expression, by a token that names a connective. -/
def BuilderStep.Composed : BuilderStep → Prop
  | .test _ field operator value => (Leaf.test field operator value).Constructs
  | .columns _ left operator right => (Leaf.columns left operator right).Constructs
  | .add part token => part.Composed ∧ ∃ connective, Connective.ofToken token = .ok connective
  | .reset => True
  | .build => True

/-- Whether the steps of a builder are composed. -/
def BuilderStep.ComposedAll : List BuilderStep → Prop
  | [] => True
  | step :: steps => step.Composed ∧ BuilderStep.ComposedAll steps

end

mutual

/-- The leaves of an expression that no reset discards, in reading order. -/
def Expression.survivors : Expression → List Leaf
  | .test field operator value => [.test field operator value]
  | .equalities pairs => Leaf.ofPairs pairs
  | .columns left operator right => [.columns left operator right]
  | .joined _ parts => Expression.survivorsAll parts
  | .chain first rest => first.survivors ++ Expression.survivorsChain rest
  | .entries _ _ => []
  | .slice source _ _ _ => source.survivors
  | .built steps => BuilderStep.survivorsAfter [] steps

/-- The leaves of several expressions. -/
def Expression.survivorsAll : List Expression → List Leaf
  | [] => []
  | part :: parts => part.survivors ++ Expression.survivorsAll parts

/-- The leaves of the expressions of a chain. -/
def Expression.survivorsChain : List (Combinator × Expression) → List Leaf
  | [] => []
  | (_, part) :: rest => part.survivors ++ Expression.survivorsChain rest

/-- The leaves that are left after a builder step when some were held before it. -/
def BuilderStep.survivors (held : List Leaf) : BuilderStep → List Leaf
  | .test _ field operator value => held ++ [.test field operator value]
  | .columns _ left operator right => held ++ [.columns left operator right]
  | .add part _ => held ++ part.survivors
  | .reset => []
  | .build => held

/-- The leaves that are left after several builder steps. -/
def BuilderStep.survivorsAfter (held : List Leaf) : List BuilderStep → List Leaf
  | [] => held
  | step :: steps => BuilderStep.survivorsAfter (step.survivors held) steps

end

namespace Predicate

/-- A predicate that compares with a value has the encoded value as its argument. -/
theorem ofValue_eq_ok
    {field : String}
    {operator value : Value}
    {p : Predicate}
    (made : ofValue field operator value = .ok p) :
    p.field = field ∧ p.isColumn = false ∧ Argument.encode value = .ok p.argument := by
  obtain ⟨argument, encodes, made⟩ := bind_eq_ok.mp made
  obtain ⟨comparison, _, finished⟩ := bind_eq_ok.mp made
  obtain ⟨tag, s, rfl, notColumn⟩ := Argument.encode_eq_ok encodes
  cases finished
  exact ⟨rfl, beq_false_of_ne notColumn, encodes⟩

/-- A predicate that compares columns has no argument. -/
theorem ofColumns_eq_ok
    {left right : String}
    {operator : Value}
    {p : Predicate}
    (made : ofColumns left operator right = .ok p) :
    p.isColumn = true := by
  obtain ⟨comparison, _, finished⟩ := bind_eq_ok.mp made
  cases finished
  rfl

end Predicate

namespace Leaf

/-- The predicates of leaves have the encoded values that the leaves compare with as their
arguments. -/
theorem mapM_encode_values
    {leaves : List Leaf}
    {predicates : List Predicate}
    (made : leaves.mapM predicate = .ok predicates) :
    (leaves.filterMap value?).mapM Argument.encode =
      .ok ((predicates.filter fun p => !p.isColumn).map Predicate.argument) := by
  induction leaves generalizing predicates with
  | nil =>
      cases made
      rfl
  | cons leaf leaves encoded =>
      obtain ⟨p, others, first, rest, rfl⟩ := mapM_cons_eq_ok.mp made
      cases leaf with
      | test field operator value =>
          obtain ⟨_, bound, encodes⟩ := Predicate.ofValue_eq_ok first
          rw [List.filter_cons_of_pos (by simp [bound])]
          exact mapM_cons_eq_ok.mpr ⟨_, _, encodes, encoded rest, rfl⟩
      | columns left operator right =>
          rw [List.filter_cons_of_neg (by simp [Predicate.ofColumns_eq_ok first])]
          exact encoded rest

end Leaf

namespace Combinator

variable (combinator : Combinator) {a b : Conditions}

/-- Adding a sequence to another one keeps the shape. -/
theorem shaped_apply (first : a.Shaped) (second : b.Shaped) : (combinator.apply a b).Shaped := by
  cases combinator with
  | connect connective => exact first.connect connective second
  | append => exact first.append second

/-- Adding a sequence to another one keeps their predicates, in order. -/
theorem predicates_apply : (combinator.apply a b).predicates = a.predicates ++ b.predicates := by
  cases combinator with
  | connect connective => exact Conditions.predicates_connect connective a b
  | append => exact Conditions.predicates_append a b

end Combinator

/-- A well-shaped sequence whose predicates are those of given leaves, in their order. -/
structure Conditions.Holds (conditions : Conditions) (leaves : List Leaf) : Prop where
  shaped : conditions.Shaped
  predicates_eq : leaves.mapM Leaf.predicate = .ok conditions.predicates

namespace Conditions.Holds

variable {a b : Conditions} {first second : List Leaf}

theorem empty : Holds [] [] :=
  ⟨.empty, rfl⟩

theorem single {leaf : Leaf} {p : Predicate} (made : leaf.predicate = .ok p) :
    Holds [.predicate p] [leaf] :=
  ⟨.single p, mapM_cons_eq_ok.mpr ⟨p, [], made, rfl, rfl⟩⟩

/-- However a sequence is added to another one, the leaves of both are held in their order. -/
theorem combine
    (combinator : Combinator)
    (holdsFirst : Holds a first)
    (holdsSecond : Holds b second) :
    Holds (combinator.apply a b) (first ++ second) where
  shaped := combinator.shaped_apply holdsFirst.shaped holdsSecond.shaped
  predicates_eq := by
    rw [combinator.predicates_apply]
    exact mapM_append_ok holdsFirst.predicates_eq holdsSecond.predicates_eq

theorem append (holdsFirst : Holds a first) (holdsSecond : Holds b second) :
    Holds (a ++ b) (first ++ second) :=
  combine .append holdsFirst holdsSecond

theorem connect
    (connective : Connective)
    (holdsFirst : Holds a first)
    (holdsSecond : Holds b second) :
    Holds (Conditions.connect connective a b) (first ++ second) :=
  combine (.connect connective) holdsFirst holdsSecond

end Conditions.Holds

/-- Equalities that all construct stand side by side. -/
theorem Conditions.exists_equalities
    {pairs : List (String × Value)}
    (construct : ∀ pair ∈ pairs,
      (Leaf.test pair.1 (.keyword (.comparison .eq)) pair.2).Constructs) :
    ∃ conditions, Conditions.equalities pairs = .ok conditions ∧
      conditions.Holds
        (pairs.map fun pair => .test pair.1 (.keyword (.comparison .eq)) pair.2) := by
  induction pairs with
  | nil => exact ⟨[], rfl, .empty⟩
  | cons pair pairs restConstructs =>
      obtain ⟨p, made⟩ := construct pair List.mem_cons_self
      obtain ⟨rest, restMade, restHolds⟩ := restConstructs fun other member =>
        construct other (List.mem_cons_of_mem _ member)
      refine ⟨.predicate p :: rest, ?_, (Holds.single made).append restHolds⟩
      exact mapM_cons_eq_ok.mpr ⟨_, _, bind_eq_ok.mpr ⟨p, made, rfl⟩, restMade, rfl⟩

mutual

/-- A composed expression has a well-shaped sequence of the leaves that survive in it. -/
theorem Expression.exists_eval (expression : Expression) (composed : expression.Composed) :
    ∃ conditions, expression.eval = .ok conditions ∧ conditions.Holds expression.survivors := by
  cases expression with
  | test field operator value =>
      obtain ⟨p, made⟩ := composed
      exact ⟨_, bind_eq_ok.mpr ⟨p, made, rfl⟩, .single made⟩
  | equalities pairs =>
      exact Conditions.exists_equalities fun pair member =>
        composed _ (List.mem_map_of_mem member)
  | columns left operator right =>
      obtain ⟨p, made⟩ := composed
      exact ⟨_, bind_eq_ok.mpr ⟨p, made, rfl⟩, .single made⟩
  | joined connective parts =>
      obtain ⟨sequences, evaluated, holds⟩ := Expression.exists_evalAll parts composed
      exact ⟨_, bind_eq_ok.mpr ⟨sequences, evaluated, rfl⟩, holds connective .empty⟩
  | chain first rest =>
      obtain ⟨conditions, evaluated, holds⟩ := Expression.exists_eval first composed.1
      obtain ⟨chained, chain, chainHolds⟩ :=
        Expression.exists_evalChain rest composed.2 holds
      exact ⟨chained, bind_eq_ok.mpr ⟨conditions, evaluated, chain⟩, chainHolds⟩
  | entries form members =>
      obtain rfl : members = [] := composed
      exact ⟨[], rfl, .empty⟩
  | slice source start stop step => exact composed.elim
  | built steps => exact BuilderStep.exists_applyAll steps composed .empty

/-- Composed expressions have well-shaped sequences, which can be joined behind any other one. -/
theorem Expression.exists_evalAll
    (parts : List Expression)
    (composed : Expression.ComposedAll parts) :
    ∃ sequences, Expression.evalAll parts = .ok sequences ∧
      ∀ (connective : Connective) {a : Conditions} {leaves : List Leaf}, a.Holds leaves →
        (sequences.foldl (Conditions.connect connective) a).Holds
          (leaves ++ Expression.survivorsAll parts) := by
  cases parts with
  | nil =>
      refine ⟨[], rfl, fun _ _ _ holds => ?_⟩
      simpa [Expression.survivorsAll] using holds
  | cons part parts =>
      obtain ⟨conditions, evaluated, holds⟩ := Expression.exists_eval part composed.1
      obtain ⟨sequences, others, othersHold⟩ := Expression.exists_evalAll parts composed.2
      refine ⟨conditions :: sequences, ?_, fun connective _ _ before => ?_⟩
      · exact bind_eq_ok.mpr ⟨_, evaluated, bind_eq_ok.mpr ⟨_, others, rfl⟩⟩
      · rw [Expression.survivorsAll, ← List.append_assoc]
        exact othersHold connective (before.connect connective holds)

/-- A chain of composed expressions goes on from any well-shaped sequence. -/
theorem Expression.exists_evalChain
    (rest : List (Combinator × Expression))
    (composed : Expression.ComposedChain rest)
    {a : Conditions}
    {leaves : List Leaf}
    (before : a.Holds leaves) :
    ∃ conditions, Expression.evalChain a rest = .ok conditions ∧
      conditions.Holds (leaves ++ Expression.survivorsChain rest) := by
  cases rest with
  | nil =>
      refine ⟨a, rfl, ?_⟩
      simpa [Expression.survivorsChain] using before
  | cons link rest =>
      obtain ⟨combinator, part⟩ := link
      obtain ⟨added, evaluated, holds⟩ := Expression.exists_eval part composed.1
      obtain ⟨conditions, chain, chainHolds⟩ :=
        Expression.exists_evalChain rest composed.2 (before.combine combinator holds)
      refine ⟨conditions, bind_eq_ok.mpr ⟨added, evaluated, chain⟩, ?_⟩
      rw [Expression.survivorsChain, ← List.append_assoc]
      exact chainHolds

/-- A composed builder step keeps the sequence that is held well shaped. -/
theorem BuilderStep.exists_apply
    (step : BuilderStep)
    (composed : step.Composed)
    {a : Conditions}
    {leaves : List Leaf}
    (before : a.Holds leaves) :
    ∃ conditions, step.apply a = .ok conditions ∧ conditions.Holds (step.survivors leaves) := by
  cases step with
  | test connective field operator value =>
      obtain ⟨p, made⟩ := composed
      refine ⟨_, bind_eq_ok.mpr ⟨_, bind_eq_ok.mpr ⟨p, made, rfl⟩, rfl⟩, ?_⟩
      exact before.connect connective (.single made)
  | columns connective left operator right =>
      obtain ⟨p, made⟩ := composed
      refine ⟨_, bind_eq_ok.mpr ⟨_, bind_eq_ok.mpr ⟨p, made, rfl⟩, rfl⟩, ?_⟩
      exact before.connect connective (.single made)
  | add part token =>
      obtain ⟨added, evaluated, holds⟩ := Expression.exists_eval part composed.1
      obtain ⟨connective, named⟩ := composed.2
      refine ⟨_, bind_eq_ok.mpr ⟨added, evaluated, bind_eq_ok.mpr ⟨_, named, rfl⟩⟩, ?_⟩
      exact before.connect connective holds
  | reset => exact ⟨[], rfl, .empty⟩
  | build => exact ⟨a, rfl, before⟩

/-- A run of composed builder steps keeps the sequence that is held well shaped. -/
theorem BuilderStep.exists_applyAll
    (steps : List BuilderStep)
    (composed : BuilderStep.ComposedAll steps)
    {a : Conditions}
    {leaves : List Leaf}
    (before : a.Holds leaves) :
    ∃ conditions, BuilderStep.applyAll a steps = .ok conditions ∧
      conditions.Holds (BuilderStep.survivorsAfter leaves steps) := by
  cases steps with
  | nil => exact ⟨a, rfl, before⟩
  | cons step steps =>
      obtain ⟨conditions, applied, holds⟩ := BuilderStep.exists_apply step composed.1 before
      obtain ⟨last, run, lastHolds⟩ := BuilderStep.exists_applyAll steps composed.2 holds
      exact ⟨last, bind_eq_ok.mpr ⟨conditions, applied, run⟩, lastHolds⟩

end

namespace Expression

/-- A composed expression is accepted as a filter from any positive number on.  The arguments are
the encoded values of the surviving leaves in reading order, and every dialect has a placeholder
for each of the slots. -/
theorem exists_filter_of_composed
    {expression : Expression}
    (composed : expression.Composed)
    {start : Int}
    (positive : 1 ≤ start) :
    ∃ conditions fragment, expression.eval = .ok conditions ∧
      Fragment.forFilter conditions start = .ok fragment ∧
      (expression.survivors.filterMap Leaf.value?).mapM Argument.encode =
        .ok fragment.arguments ∧
      ∀ (dialect : Dialect), ∀ index ∈ fragment.sql.slots,
        dialect.slotFor (.int index) = .ok (dialect.slot index) := by
  obtain ⟨conditions, evaluated, holds⟩ := exists_eval expression composed
  obtain ⟨fragment, made, sameArguments, slots⟩ :=
    Fragment.exists_forFilter holds.shaped positive
  refine ⟨conditions, fragment, evaluated, made, ?_, ?_⟩
  · rw [sameArguments]
    exact Leaf.mapM_encode_values holds.predicates_eq
  · intro dialect index member
    rw [slots] at member
    obtain ⟨place, _, rfl⟩ := List.mem_map.mp member
    exact dialect.slotFor_int (by omega)

/-- Empty operands, adjacent predicates, and a builder that is reset after a first test. -/
def joinedAroundReset : Expression :=
  .joined .or
    [.entries .conditions [],
      .chain (.entries .conditions [])
        [(.connect .and, .test "a" (.text "=") (.text "1")),
          (.append, .columns "b" (.text "<>") "c.d"),
          (.connect .or, .entries .conditions [])],
      .built
        [.test .or "lost" (.text ">") (.text "2"), .reset,
          .add (.joined .and []) (.text " OR "),
          .add (.equalities [("x", .null), ("y", .bool true)]) (.keyword (.connective .and)),
          .build, .columns .or "e" (.text "<") "f.g"]]

theorem exists_filter_of_composed_reset :
    ∃ conditions fragment, joinedAroundReset.eval = .ok conditions ∧
      Fragment.forFilter conditions 3 = .ok fragment ∧
      fragment.arguments = [.ofText .text "1", .ofText .null "null", .ofText .integer "1"] := by
  have composed : joinedAroundReset.Composed := by
    refine ⟨rfl, ⟨rfl, ⟨_, rfl⟩, ⟨_, rfl⟩, rfl, trivial⟩, ⟨⟨_, rfl⟩, trivial, ⟨trivial, _, rfl⟩,
      ⟨?_, _, rfl⟩, trivial, ⟨_, rfl⟩, trivial⟩, trivial⟩
    intro leaf member
    change leaf ∈ [_, _] at member
    simp only [List.mem_cons, List.not_mem_nil, or_false] at member
    obtain rfl | rfl := member
    · exact ⟨_, rfl⟩
    · exact ⟨_, rfl⟩
  obtain ⟨conditions, fragment, evaluated, made, encoded, _⟩ :=
    exists_filter_of_composed composed (show (1 : Int) ≤ 3 by decide)
  exact ⟨conditions, fragment, evaluated, made, (Except.ok.inj encoded).symm⟩

end Expression
end BoundSql
