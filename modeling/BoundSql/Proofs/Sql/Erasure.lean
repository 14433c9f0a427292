import BoundSql.Proofs.Sql.Placeholder
import Mathlib.Data.List.Forall2

/-!
# Erased values

A sequence of conditions is erased by dropping the values and the tags of its bound
predicates.  Members that are written out (columns, connectives) stay as they are.

Making a fragment or a statement commutes with erasing: the text of an erased sequence
is the text of the sequence, its arguments are as many, and it fails where and as the
sequence fails.  So two sequences that differ in bound values alone make the same
text.
-/

namespace BoundSql

/-- An argument without its value and its tag. -/
def Argument.erased : Argument :=
  ⟨.null, .exact .null⟩

/-- A predicate without the value that it is bound to; one that compares columns stays. -/
def Predicate.erased (p : Predicate) : Predicate :=
  if p.isColumn then p else ⟨p.field, .null, .null, p.operator⟩

theorem Predicate.erased_of_column {p : Predicate} (column : p.isColumn = true) :
    p.erased = p := by
  rw [erased, if_pos column]

theorem Predicate.erased_of_bound {p : Predicate} (bound : p.isColumn = false) :
    p.erased = ⟨p.field, .null, .null, p.operator⟩ := by
  rw [erased, bound, if_neg Bool.false_ne_true]

@[simp] theorem Predicate.field_erased (p : Predicate) : p.erased.field = p.field := by
  unfold erased
  split <;> rfl

@[simp] theorem Predicate.operator_erased (p : Predicate) : p.erased.operator = p.operator := by
  unfold erased
  split <;> rfl

/-- A member without the value that it is bound to. -/
def Item.erased : Item → Item
  | .predicate p => .predicate p.erased
  | item => item

namespace Conditions

/-- A sequence without the values that it binds. -/
def erased (conditions : Conditions) : Conditions :=
  conditions.map Item.erased

@[simp] theorem erased_cons (item : Item) (rest : Conditions) :
    erased (item :: rest) = item.erased :: erased rest := rfl

@[simp] theorem isEmpty_erased (conditions : Conditions) :
    (erased conditions).isEmpty = conditions.isEmpty :=
  List.isEmpty_map

/-- Joining commutes with erasing. -/
theorem erased_connect (connective : Connective) (a b : Conditions) :
    erased (connect connective a b) = connect connective (erased a) (erased b) := by
  unfold connect
  rw [isEmpty_erased, isEmpty_erased]
  split
  · exact List.map_append
  · rw [erased, List.map_append, List.map_cons]
    rfl

end Conditions

/-- Whether two members are the same but for the value and the tag that they bind. -/
inductive Item.Alike : Item → Item → Prop
  | same (item : Item) : Alike item item
  | bound {p q : Predicate}
      (field : p.field = q.field)
      (operator : p.operator = q.operator)
      (firstBound : p.isColumn = false)
      (secondBound : q.isColumn = false) :
      Alike (.predicate p) (.predicate q)

theorem Item.Alike.erased_eq {item other : Item} (alike : item.Alike other) :
    item.erased = other.erased := by
  cases alike with
  | same item => rfl
  | bound field operator firstBound secondBound =>
      rw [Item.erased, Item.erased, Predicate.erased_of_bound firstBound,
        Predicate.erased_of_bound secondBound, field, operator]

/-- Whether two sequences of one length are the same member by member, but for the values and the
tags that they bind. -/
def Conditions.Alike (conditions other : Conditions) : Prop :=
  List.Forall₂ Item.Alike conditions other

theorem Conditions.Alike.erased_eq
    {conditions other : Conditions}
    (alike : conditions.Alike other) :
    conditions.erased = other.erased := by
  induction alike with
  | nil => rfl
  | cons first _ rest => rw [erased_cons, erased_cons, first.erased_eq, rest]

namespace Fragment

/-- Parts of SQL text with arguments that are erased. -/
def eraseBound {α : Type} (written : α × List Argument) : α × List Argument :=
  (written.1, written.2.map fun _ => Argument.erased)

/-- A fragment with the same text and its arguments erased. -/
def erased (fragment : Fragment) : Fragment :=
  { fragment with arguments := fragment.arguments.map fun _ => Argument.erased }

@[simp] theorem nextIndex_erased (fragment : Fragment) :
    fragment.erased.nextIndex = fragment.nextIndex := by
  simp [nextIndex, erased]

theorem bindPredicate_erased (operator : String) (next : Int) (p : Predicate) :
    bindPredicate operator next p.erased = (bindPredicate operator next p).map eraseBound := by
  cases column : p.isColumn with
  | true =>
      rw [Predicate.erased_of_column column, bindPredicate, column]
      rfl
  | false =>
      have staysBound : (⟨p.field, .null, .null, p.operator⟩ : Predicate).isColumn = false := rfl
      rw [Predicate.erased_of_bound column, bindPredicate, bindPredicate, staysBound, column,
        if_neg Bool.false_ne_true, if_neg Bool.false_ne_true]
      cases slotAt next <;> rfl

theorem checkShape_erased (expecting : Bool) (position : Nat) (conditions : Conditions) :
    checkShape expecting position conditions.erased =
      checkShape expecting position conditions := by
  induction conditions generalizing expecting position with
  | nil => rfl
  | cons item rest sameRest =>
      cases item with
      | predicate p => exact sameRest false (position + 1)
      | foreign value => exact sameRest false (position + 1)
      | connective c =>
          rw [Conditions.erased_cons, Item.erased, checkShape, checkShape, sameRest]
          exact nofun

theorem filterParts_erased
    (joined : Bool)
    (next : Int)
    (position : Nat)
    (conditions : Conditions) :
    filterParts joined next position conditions.erased =
      (filterParts joined next position conditions).map eraseBound := by
  induction conditions generalizing joined next position with
  | nil => rfl
  | cons item rest sameRest =>
      cases item with
      | foreign value => rfl
      | connective c =>
          rw [Conditions.erased_cons, Item.erased, filterParts, filterParts, sameRest]
          · exact map_bind_of_commutes fun _ => rfl
          · exact nofun
      | predicate p =>
          rw [Conditions.erased_cons, Item.erased, filterParts, filterParts,
            Predicate.operator_erased, bindPredicate_erased]
          refine map_bind_of_commutes fun (sql, bound) => ?_
          dsimp only [eraseBound]
          rw [List.length_map, sameRest]
          exact map_bind_of_commutes fun (parts, later) => by
            simp [eraseBound, pure, Except.pure, Except.map]

theorem assignments_erased (next : Int) (position : Nat) (conditions : Conditions) :
    assignments next position conditions.erased =
      (assignments next position conditions).map eraseBound := by
  induction conditions generalizing next position with
  | nil => rfl
  | cons item rest sameRest =>
      cases item with
      | foreign value => rfl
      | connective c => exact sameRest next (position + 1)
      | predicate p =>
          rw [Conditions.erased_cons, Item.erased, assignments, assignments, bindPredicate_erased]
          refine map_bind_of_commutes fun (sql, bound) => ?_
          dsimp only [eraseBound]
          rw [List.length_map, sameRest]
          exact map_bind_of_commutes fun (parts, later) => by
            simp [eraseBound, pure, Except.pure, Except.map]

theorem insertable_erased (position : Nat) (conditions : Conditions) :
    insertable position conditions.erased =
      (insertable position conditions).map (List.map Predicate.erased) := by
  induction conditions generalizing position with
  | nil => rfl
  | cons item rest sameRest =>
      cases item with
      | foreign value => rfl
      | connective c => rfl
      | predicate p =>
          rw [Conditions.erased_cons, Item.erased, insertable, insertable]
          cases column : p.isColumn with
          | true =>
              rw [Predicate.erased_of_column column, column]
              rfl
          | false =>
              have staysBound : p.erased.isColumn = false := by
                rw [Predicate.erased_of_bound column]
                rfl
              rw [staysBound, if_neg Bool.false_ne_true, if_neg Bool.false_ne_true, sameRest]
              cases insertable (position + 1) rest <;> rfl

/-- What may be inserted compares with values. -/
theorem bound_of_insertable
    {position : Nat}
    {conditions : Conditions}
    {predicates : List Predicate}
    (allowed : insertable position conditions = .ok predicates) :
    ∀ p ∈ predicates, p.isColumn = false := by
  induction conditions generalizing position predicates with
  | nil =>
      cases allowed
      exact nofun
  | cons item rest restBound =>
      cases item with
      | foreign value => cases allowed
      | connective c => cases allowed
      | predicate first =>
          rw [insertable] at allowed
          split at allowed
          · cases allowed
          · rename_i noColumn
            obtain ⟨others, othersAllowed, rfl⟩ := map_eq_ok.mp allowed
            intro p member
            obtain rfl | later := List.mem_cons.mp member
            · exact eq_false_of_ne_true noColumn
            · exact restBound othersAllowed p later

/-- The filter of an erased sequence. -/
theorem forFilter_erased (conditions : Conditions) (start : Int) :
    forFilter conditions.erased start = (forFilter conditions start).map erased := by
  rw [forFilter, forFilter, checkShape_erased, filterParts_erased]
  cases checkShape true 0 conditions with
  | error error => rfl
  | ok _ => exact map_bind_of_commutes fun _ => rfl

/-- The update of an erased sequence. -/
theorem forUpdate_erased (conditions : Conditions) (start : Int) :
    forUpdate conditions.erased start = (forUpdate conditions start).map erased := by
  rw [forUpdate, forUpdate, assignments_erased]
  refine map_bind_of_commutes fun (parts, bound) => ?_
  dsimp only [eraseBound]
  split <;> rfl

/-- The insertion of an erased sequence. -/
theorem forInsert_erased (conditions : Conditions) :
    forInsert conditions.erased = (forInsert conditions).map erased := by
  rw [forInsert, forInsert, insertable_erased]
  cases allowed : insertable 0 conditions with
  | error error => rfl
  | ok predicates =>
      have fields : (predicates.map Predicate.erased).map Predicate.field =
          predicates.map Predicate.field := by
        rw [List.map_map]
        exact List.map_congr_left fun p _ => p.field_erased
      have arguments : (predicates.map Predicate.erased).map Predicate.argument =
          (predicates.map Predicate.argument).map fun _ => Argument.erased := by
        rw [List.map_map, List.map_map]
        apply List.map_congr_left
        intro p member
        rw [Function.comp_apply, Predicate.erased_of_bound (bound_of_insertable allowed p member)]
        rfl
      change (if (predicates.map Predicate.erased).isEmpty then _ else _) = _
      rw [List.isEmpty_map, List.length_map, fields, arguments]
      change _ = Except.map erased (if predicates.isEmpty then _ else _)
      split <;> rfl

end Fragment

namespace Statement

/-- A statement with the same text and its arguments erased. -/
def erased (statement : Statement) : Statement :=
  ⟨statement.sql, statement.arguments.map fun _ => Argument.erased⟩

/-- Whether two outcomes of making a statement are the same but for the values of the arguments:
both fail with the same error, or both have the same text in every dialect and equally many
arguments. -/
def SameText : Except Error Statement → Except Error Statement → Prop
  | .ok statement, .ok other =>
      (∀ dialect, statement.text dialect = other.text dialect) ∧
        statement.arguments.length = other.arguments.length
  | .error error, .error other => error = other
  | _, _ => False

/-- Outcomes that are the same when they are erased are the same but for the values. -/
theorem SameText.of_erased
    {made other : Except Error Statement}
    (same : made.map erased = other.map erased) :
    SameText made other := by
  cases made with
  | error error =>
      cases other with
      | error _ => exact Except.error.inj same
      | ok _ => cases same
  | ok statement =>
      cases other with
      | error _ => cases same
      | ok other =>
          have sameErased : statement.erased = other.erased := Except.ok.inj same
          have sameSql : statement.erased.sql = other.erased.sql :=
            congrArg Statement.sql sameErased
          have sameLength : statement.erased.arguments.length = other.erased.arguments.length :=
            congrArg (fun made => made.arguments.length) sameErased
          refine ⟨fun dialect => ?_, ?_⟩
          · exact congrArg (Sql.render dialect) sameSql
          · simpa [erased] using sameLength

theorem insert_erased (table : String) (values : Conditions) :
    (insert table values.erased).result = (insert table values).result.map erased := by
  simp only [insert, Traced.result_bind, Fragment.result_traced, Fragment.forInsert_erased]
  exact map_bind_of_commutes fun _ => rfl

theorem filter_erased (table : String) (conditions : Conditions) :
    (filter table conditions.erased).result = (filter table conditions).result.map erased := by
  simp only [filter, Traced.result_bind, Fragment.result_traced, Fragment.forFilter_erased]
  refine map_bind_of_commutes fun fragment => ?_
  change Traced.result (if fragment.parts.isEmpty then _ else _) = _
  split <;> rfl

/-- An erased update is that of the erased assignments, whatever the key of the row. -/
theorem updateByKey_erased
    {table key : String}
    {id : Value}
    {encoded : Argument}
    (values : Conditions)
    (encodes : Argument.encode id = .ok encoded) :
    (updateByKey table key id values).result.map erased =
      (Fragment.forUpdate values.erased 1).map fun assigned =>
        ⟨.text ("update " ++ table ++ " set ") :: assigned.sql ++
          [.text (" where " ++ key ++ "="), .slot assigned.nextIndex, .text ";"],
          assigned.arguments ++ [Argument.erased]⟩ := by
  simp only [updateByKey, Traced.result_bind, Fragment.result_traced, Traced.result_ofExcept,
    encodes, Fragment.forUpdate_erased]
  cases Fragment.forUpdate values 1 with
  | error error => rfl
  | ok assigned =>
      simp [Except.bind, Except.map, erased, Fragment.erased, Fragment.sql, Fragment.nextIndex]

/-- An erased deletion does not depend on the key of the row. -/
theorem deleteByKey_erased
    {table key : String}
    {id : Value}
    {encoded : Argument}
    (encodes : Argument.encode id = .ok encoded) :
    (deleteByKey table key id).map erased =
      .ok ⟨[.text ("delete from " ++ table ++ " where " ++ key ++ "="), .slot 1, .text ";"],
        [Argument.erased]⟩ := by
  rw [deleteByKey, encodes]
  rfl

end Statement
end BoundSql
