import BoundSql.Proofs.Sql.Erasure
import BoundSql.Proofs.Sql.Recipe

/-!
# Texts without values

Erasing the values that a selection binds commutes with the steps that make it and with
making its statement.  So whatever way a statement is built in, its text and the number
of its arguments do not depend on the values that its conditions bind, and neither does
the error when there is no statement.
-/

namespace BoundSql

/-- A join without the values that it binds. -/
def Join.erased (join : Join) : Join :=
  { join with on := join.on.erased }

namespace Selection

/-- A selection without the values that it binds. -/
def erased (selection : Selection) : Selection :=
  { selection with
    joins := selection.joins.map Join.erased
    conditions := selection.conditions.erased }

/-- A joined table has the text of its erased conditions, with as many arguments. -/
theorem joinsSql_erased (next : Int) (joins : List Join) :
    (joinsSql next (joins.map Join.erased)).result =
      (joinsSql next joins).result.map fun (sql, arguments, after) =>
        (sql, arguments.map fun _ => Argument.erased, after) := by
  induction joins generalizing next with
  | nil => rfl
  | cons join joins sameOthers =>
      rw [List.map_cons, joinsSql, joinsSql, Join.erased, Conditions.isEmpty_erased]
      split
      · rfl
      · simp only [Traced.result_bind, Fragment.result_traced, Fragment.forFilter_erased]
        refine map_bind_of_commutes fun on => ?_
        rw [Fragment.nextIndex_erased, sameOthers]
        refine map_bind_of_commutes fun written => ?_
        obtain ⟨sql, arguments, after⟩ := written
        simp [joinSql, Fragment.sql, Fragment.erased, Except.map]

/-- The statement of an erased selection. -/
theorem statement_erased (selection : Selection) :
    selection.erased.statement.result = selection.statement.result.map Statement.erased := by
  have sameBase : selection.erased.base = selection.base := rfl
  unfold Selection.statement
  rw [sameBase]
  cases selection.base with
  | none => rfl
  | some base =>
      simp only [Traced.result_bind, Fragment.result_traced]
      rw [erased]
      dsimp only
      rw [joinsSql_erased]
      refine map_bind_of_commutes fun written => ?_
      obtain ⟨sql, arguments, after⟩ := written
      rw [Fragment.forFilter_erased]
      refine map_bind_of_commutes fun filter => ?_
      simp [filterSql, Fragment.sql, Fragment.erased, Statement.erased, clause, Except.map]

/-- Joining a table commutes with erasing. -/
theorem erased_join
    (kind : Value)
    (table : Target)
    (on : Conditions)
    (base : Option Target)
    (selection : Selection) :
    (selection.join kind table on base).2.erased =
      (selection.erased.join kind table on.erased base).2 := by
  unfold Selection.join
  cases JoinKind.ofToken kind with
  | error error => rfl
  | ok kind => simp [erased, withBase, models, Join.erased]

/-- Restricting commutes with erasing. -/
theorem erased_restrict (conditions : Conditions) (selection : Selection) :
    (selection.restrict conditions).erased = selection.erased.restrict conditions.erased := by
  rw [restrict, erased, Conditions.erased_connect]
  rfl

end Selection

/-- Whether two expressions have sequences that are the same but for the values that they bind, or
both fail. -/
def Expression.Alike (expression other : Expression) : Prop :=
  match expression.eval, other.eval with
  | .ok conditions, .ok others => conditions.Alike others
  | .error _, .error _ => True
  | _, _ => False

/-- Expressions that are alike have sequences that are the same when they are erased, or fail. -/
theorem Expression.Alike.eval_eq {expression other : Expression} (alike : expression.Alike other) :
    (∃ conditions others, expression.eval = .ok conditions ∧ other.eval = .ok others ∧
        conditions.erased = others.erased) ∨
      ∃ error otherError, expression.eval = .error error ∧ other.eval = .error otherError := by
  unfold Expression.Alike at alike
  split at alike
  · rename_i conditions others made otherMade
    exact .inl ⟨conditions, others, made, otherMade, Conditions.Alike.erased_eq alike⟩
  · rename_i error otherError failed otherFailed
    exact .inr ⟨error, otherError, failed, otherFailed⟩
  · exact alike.elim

namespace SelectionStep

/-- Whether two steps are the same but for the values that their conditions bind. -/
inductive Alike : SelectionStep → SelectionStep → Prop
  | select (targets : List Target) : Alike (.select targets) (.select targets)
  | join (kind : Value) (table : Target) (base : Option Target) {on other : Expression} :
      on.Alike other → Alike (.join kind table on base) (.join kind table other base)
  | restrict {conditions other : Expression} :
      conditions.Alike other → Alike (.restrict conditions) (.restrict other)

/-- Changing erased selections in the same way keeps them the same. -/
theorem erased_change
    {begun other : Option Selection}
    {step otherStep : Selection → Except Error Unit × Selection}
    (same : begun.map Selection.erased = other.map Selection.erased)
    (keeps : ∀ selection held : Selection, selection.erased = held.erased →
      (step selection).2.erased = (otherStep held).2.erased) :
    (change begun step).2.map Selection.erased =
      (change other otherStep).2.map Selection.erased := by
  cases begun with
  | none =>
      cases other with
      | none => rfl
      | some held => cases same
  | some selection =>
      cases other with
      | none => cases same
      | some held => exact congrArg some (keeps selection held (Option.some.inj same))

/-- Steps that are alike keep selections the same but for the values. -/
theorem erased_apply
    {step otherStep : SelectionStep}
    {begun other : Option Selection}
    (alike : step.Alike otherStep)
    (same : begun.map Selection.erased = other.map Selection.erased) :
    (step.apply begun).2.map Selection.erased =
      (otherStep.apply other).2.map Selection.erased := by
  cases alike with
  | select targets =>
      rw [apply, apply]
      cases Selection.ofTargets targets with
      | error error => exact same
      | ok selection => rfl
  | join kind table base evaluated =>
      rw [apply, apply]
      obtain ⟨conditions, others, made, otherMade, sameConditions⟩ | ⟨_, _, failed, otherFailed⟩ :=
        evaluated.eval_eq
      · rw [made, otherMade]
        refine erased_change same fun selection held sameHeld => ?_
        rw [Selection.erased_join, Selection.erased_join, sameHeld, sameConditions]
      · rw [failed, otherFailed]
        exact same
  | restrict evaluated =>
      rw [apply, apply]
      obtain ⟨conditions, others, made, otherMade, sameConditions⟩ | ⟨_, _, failed, otherFailed⟩ :=
        evaluated.eval_eq
      · rw [made, otherMade]
        refine erased_change same fun selection held sameHeld => ?_
        change (selection.restrict conditions).erased = (held.restrict others).erased
        rw [Selection.erased_restrict, Selection.erased_restrict, sameHeld, sameConditions]
      · rw [failed, otherFailed]
        exact same

/-- Runs of steps that are alike leave selections that are the same but for the values. -/
theorem erased_run
    {steps others : List SelectionStep}
    (alike : List.Forall₂ Alike steps others) :
    (run steps).map Selection.erased = (run others).map Selection.erased := by
  suffices fromAny : ∀ begun other : Option Selection,
      begun.map Selection.erased = other.map Selection.erased →
        (steps.foldl (fun begun step => (step.apply begun).2) begun).map Selection.erased =
          (others.foldl (fun begun step => (step.apply begun).2) other).map Selection.erased by
    exact fromAny none none rfl
  induction alike with
  | nil => exact fun _ _ same => same
  | cons first _ rest => exact fun begun other same => rest _ _ (erased_apply first same)

end SelectionStep

namespace Statement.Recipe

/-- Whether two recipes are the same but for the values that their conditions bind and for the keys
of the rows that they write, which can be encoded. -/
inductive Alike : Recipe → Recipe → Prop
  | insert (table : String) {values others : Conditions} :
      values.Alike others → Alike (.insert table values) (.insert table others)
  | updateByKey (table key : String)
      {id otherId : Value}
      {encoded otherEncoded : Argument}
      {values others : Conditions} :
      Argument.encode id = .ok encoded → Argument.encode otherId = .ok otherEncoded →
      values.Alike others →
      Alike (.updateByKey table key id values) (.updateByKey table key otherId others)
  | filter (table : String) {conditions others : Conditions} :
      conditions.Alike others → Alike (.filter table conditions) (.filter table others)
  | deleteByKey (table key : String)
      {id otherId : Value}
      {encoded otherEncoded : Argument} :
      Argument.encode id = .ok encoded → Argument.encode otherId = .ok otherEncoded →
      Alike (.deleteByKey table key id) (.deleteByKey table key otherId)
  | selection {steps others : List SelectionStep} :
      List.Forall₂ SelectionStep.Alike steps others →
      Alike (.selection steps) (.selection others)

/-- Recipes that differ in values alone build statements with one text and equally many arguments,
or fail with the same error. -/
theorem sameText_build {recipe other : Recipe} (alike : recipe.Alike other) :
    SameText recipe.build other.build := by
  apply SameText.of_erased
  cases alike with
  | insert table values =>
      rw [build, build, ← insert_erased, ← insert_erased, values.erased_eq]
  | updateByKey table key encodes otherEncodes values =>
      rw [build, build, updateByKey_erased _ encodes, updateByKey_erased _ otherEncodes,
        values.erased_eq]
  | filter table conditions =>
      rw [build, build, ← filter_erased, ← filter_erased, conditions.erased_eq]
  | deleteByKey table key encodes otherEncodes =>
      rw [build, build, deleteByKey_erased encodes, deleteByKey_erased otherEncodes]
  | @selection steps others stepsAlike =>
      have sameRun := SelectionStep.erased_run stepsAlike
      rw [build, build]
      cases left : SelectionStep.run steps with
      | none =>
          rw [left] at sameRun
          rw [Option.map_eq_none_iff.mp sameRun.symm]
      | some selection =>
          rw [left] at sameRun
          obtain ⟨held, otherLeft, sameHeld⟩ := Option.map_eq_some_iff.mp sameRun.symm
          rw [otherLeft]
          dsimp only
          rw [← Selection.statement_erased, ← Selection.statement_erased, sameHeld]

/-- A selection that binds two values in the conditions of a join and in the filter. -/
def boundTo (first second : Value) : Recipe :=
  .selection
    [.select [.table "a", .table "b"],
      .join (.text "left") (.table "b")
        (.chain (.columns "a.id" (.text "=") "b.a_id")
          [(.connect .or, .test "b.x" (.text ">") first)])
        (some (.table "a")),
      .restrict (.test "a.z" (.text "=") second)]

theorem sameText_build_bound_to :
    ∃ statement other,
      (boundTo (.int 1) (.text "z")).build = .ok statement ∧
      (boundTo .null (.text "0; drop table a; --")).build = .ok other ∧
      statement.arguments = [.ofText .integer "1", .ofText .text "z"] ∧
      other.arguments = [.ofText .null "null", .ofText .text "0; drop table a; --"] ∧
      (∀ dialect, statement.text dialect = other.text dialect) ∧
      statement.arguments.length = other.arguments.length := by
  have alike : (boundTo (.int 1) (.text "z")).Alike
      (boundTo .null (.text "0; drop table a; --")) := by
    refine .selection (.cons (.select _) (.cons (.join _ _ _ ?_) (.cons (.restrict ?_) .nil)))
    · exact .cons (.same _) (.cons (.same _) (.cons (.bound rfl rfl rfl rfl) .nil))
    · exact .cons (.bound rfl rfl rfl rfl) .nil
  exact ⟨_, _, rfl, rfl, rfl, rfl, sameText_build alike⟩

end Statement.Recipe
end BoundSql
