import BoundSql.Proofs.Selection.Slots

/-!
# Recipes of statements

A recipe is one of the ways to build a statement with arguments: an insertion, an
update or a deletion by key, a filter, or the steps of a selection.  Its source
names arguments in an order of its own: the predicates of a sequence as they stand,
the key of an update behind the assigned values, and the conditions of joins before
those of the filter.

The main result is that a statement binds exactly these arguments in exactly this
order, whatever connectives and comparisons of columns stand between them.
-/

namespace BoundSql
namespace Statement

/-- A way to build a statement. -/
inductive Recipe
  | insert (table : String) (values : Conditions)
  | updateByKey (table key : String) (id : Value) (values : Conditions)
  | filter (table : String) (conditions : Conditions)
  | deleteByKey (table key : String) (id : Value)
  | selection (steps : List SelectionStep)

namespace Recipe

/-- The statement that a recipe makes. -/
def build : Recipe → Except Error Statement
  | .insert table values => (Statement.insert table values).result
  | .updateByKey table key id values => (Statement.updateByKey table key id values).result
  | .filter table conditions => (Statement.filter table conditions).result
  | .deleteByKey table key id => Statement.deleteByKey table key id
  | .selection steps =>
      match SelectionStep.run steps with
      | some begun => begun.statement.result
      | none => .error (.compile .noTarget)

/-- The arguments that the source of a recipe names, in their order. -/
def arguments : Recipe → Except Error (List Argument)
  | .insert _ values => .ok values.arguments
  | .updateByKey _ _ id values => (Argument.encode id).map fun id => values.arguments ++ [id]
  | .filter _ conditions => .ok conditions.arguments
  | .deleteByKey _ _ id => (Argument.encode id).map fun id => [id]
  | .selection steps => .ok (SelectionStep.source steps).arguments

end Recipe

theorem insert_binds
    {table : String}
    {values : Conditions}
    {statement : Statement}
    (made : (insert table values).result = .ok statement) :
    statement.BindsInOrder values.arguments := by
  obtain ⟨fragment, fragmentMade, finished⟩ := Traced.result_bind_eq_ok.mp made
  rw [Fragment.result_traced] at fragmentMade
  obtain ⟨sameArguments, slots⟩ := Fragment.forInsert_eq_ok fragmentMade
  cases finished
  apply BindsInOrder.of_slots sameArguments
  rw [← sameArguments]
  simp [slots]

theorem updateByKey_binds
    {table key : String}
    {id : Value}
    {values : Conditions}
    {statement : Statement}
    (made : (updateByKey table key id values).result = .ok statement) :
    ∃ encoded, Argument.encode id = .ok encoded ∧
      statement.BindsInOrder (values.arguments ++ [encoded]) := by
  obtain ⟨fragment, fragmentMade, made⟩ := Traced.result_bind_eq_ok.mp made
  obtain ⟨encoded, encodes, finished⟩ := Traced.result_bind_eq_ok.mp made
  rw [Fragment.result_traced] at fragmentMade
  rw [Traced.result_ofExcept] at encodes
  obtain ⟨starts, sameArguments, slots⟩ := Fragment.forUpdate_eq_ok fragmentMade
  cases finished
  refine ⟨encoded, encodes, BindsInOrder.of_slots (by rw [sameArguments]) ?_⟩
  rw [← sameArguments]
  simp [slots, Fragment.nextIndex, starts, numbered_add]

theorem filter_binds
    {table : String}
    {conditions : Conditions}
    {statement : Statement}
    (made : (filter table conditions).result = .ok statement) :
    statement.BindsInOrder conditions.arguments := by
  obtain ⟨fragment, fragmentMade, finished⟩ := Traced.result_bind_eq_ok.mp made
  rw [Fragment.result_traced] at fragmentMade
  obtain ⟨starts, sameArguments, slots⟩ := Fragment.forFilter_eq_ok fragmentMade
  split at finished
  · rename_i noParts
    cases finished
    rw [← sameArguments, Fragment.arguments_eq_nil_of_parts (starts ▸ slots)
      (List.isEmpty_iff.mp noParts)]
    exact ofText_bindsInOrder _
  · cases finished
    apply BindsInOrder.of_slots sameArguments
    rw [← sameArguments]
    simp [slots]

theorem deleteByKey_binds
    {table key : String}
    {id : Value}
    {statement : Statement}
    (made : deleteByKey table key id = .ok statement) :
    ∃ encoded, Argument.encode id = .ok encoded ∧ statement.BindsInOrder [encoded] := by
  obtain ⟨encoded, encodes, finished⟩ := bind_eq_ok.mp made
  cases finished
  exact ⟨encoded, encodes, BindsInOrder.of_slots rfl (by simp)⟩

namespace Recipe

/-- A statement that is built from a recipe binds the arguments that the source of the recipe names,
each to the slot of its place, in every dialect. -/
theorem bindsInOrder_of_build
    {recipe : Recipe}
    {statement : Statement}
    (built : recipe.build = .ok statement) :
    ∃ arguments, recipe.arguments = .ok arguments ∧ statement.BindsInOrder arguments := by
  cases recipe with
  | insert table values => exact ⟨_, rfl, insert_binds built⟩
  | updateByKey table key id values =>
      obtain ⟨encoded, encodes, binds⟩ := updateByKey_binds built
      exact ⟨_, by rw [Recipe.arguments, encodes]; rfl, binds⟩
  | filter table conditions => exact ⟨_, rfl, filter_binds built⟩
  | deleteByKey table key id =>
      obtain ⟨encoded, encodes, binds⟩ := deleteByKey_binds built
      exact ⟨_, by rw [Recipe.arguments, encodes]; rfl, binds⟩
  | selection steps =>
      rw [build] at built
      split at built
      · rename_i begun left
        refine ⟨_, rfl, ?_⟩
        rw [← (SelectionStep.describes_run left).arguments_eq]
        exact Selection.statement_binds built
      · cases built

/-- A selection over two joins whose parts mix bound predicates, comparisons of columns and
connectives, with a join that is refused in between. -/
def joinedWithRefusal : Recipe :=
  .selection
    [.select [.table "a", .table "b", .table "c"],
      .join (.keyword (.join .left)) (.table "b")
        (.chain (.columns "a.id" (.text "=") "b.a_id")
          [(.connect .or, .test "b.x" (.text ">") (.text "1"))])
        (some (.table "a")),
      .join (.text "sideways") (.table "d") (.test "d.y" (.text "=") (.text "lost")) none,
      .restrict (.test "a.z" (.text "!=") (.bool true)),
      .join (.text " full ") (.table "c")
        (.chain (.test "c.y" (.text "=") .null) [(.append, .columns "c.id" (.text "==") "b.c_id")])
        none,
      .restrict
        (.joined .or
          [.test "b.w" (.text "<") (.text "2"), .test "c.w" (.text "<>") (.text "3")])]

theorem bindsInOrder_of_build_joined :
    ∃ statement, joinedWithRefusal.build = .ok statement ∧
      statement.BindsInOrder
        [.ofText .text "1", .ofText .null "null", .ofText .integer "1", .ofText .text "2",
          .ofText .text "3"] := by
  obtain ⟨arguments, named, binds⟩ := bindsInOrder_of_build
    (show joinedWithRefusal.build = .ok _ from rfl)
  have listed : _ = arguments := Except.ok.inj named
  subst listed
  exact ⟨_, rfl, binds⟩

end Recipe
end Statement
end BoundSql
