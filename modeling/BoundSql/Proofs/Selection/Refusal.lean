import BoundSql.Proofs.Selection.Slots

/-!
# Refused joins

A join is refused when its kind names none.  A refused join adds no join and no
condition, but the first table that it would have fixed stays fixed.  So a selection
survives a refused join unchanged exactly when its first table is fixed already, or
when neither the call nor the selection has a table to fix it by.

In the other cases the refused join shows: a selection whose first table is open
makes no statement for want of it, and after the refused join it no longer fails so.
-/

namespace BoundSql

namespace Fragment

/-- The failures of writing conditions: a connective out of place, a member that is no condition,
and a slot numbered below one. -/
def IsConditionFault : Error → Prop
  | .sequence _ => True
  | .compile (.foreignItem _ _) => True
  | .slotIndex _ => True
  | _ => False

theorem isConditionFault_of_checkShape
    {conditions : Conditions}
    {expecting : Bool}
    {position : Nat}
    {error : Error}
    (failed : checkShape expecting position conditions = .error error) :
    IsConditionFault error := by
  induction conditions generalizing expecting position with
  | nil =>
      rw [checkShape] at failed
      split at failed
      · cases failed
        trivial
      · cases failed
  | cons item rest restFails =>
      cases item with
      | predicate p => exact restFails failed
      | foreign value => exact restFails failed
      | connective c =>
          rw [checkShape] at failed
          split at failed
          · cases failed
            trivial
          · exact restFails failed

theorem isConditionFault_of_bindPredicate
    {operator : String}
    {next : Int}
    {p : Predicate}
    {error : Error}
    (failed : bindPredicate operator next p = .error error) :
    IsConditionFault error := by
  unfold bindPredicate slotAt at failed
  split at failed
  · cases failed
  · split at failed
    · cases failed
      trivial
    · cases failed

theorem isConditionFault_of_filterParts
    {conditions : Conditions}
    {joined : Bool}
    {next : Int}
    {position : Nat}
    {error : Error}
    (failed : filterParts joined next position conditions = .error error) :
    IsConditionFault error := by
  induction conditions generalizing joined next position with
  | nil => cases failed
  | cons item rest restFails =>
      cases item with
      | foreign value =>
          cases failed
          trivial
      | connective c =>
          obtain failedRest | ⟨_, _, finished⟩ := bind_eq_error.mp failed
          · exact restFails failedRest
          · cases finished
      | predicate p =>
          obtain failedFirst | ⟨_, _, failed⟩ := bind_eq_error.mp failed
          · exact isConditionFault_of_bindPredicate failedFirst
          · obtain failedRest | ⟨_, _, finished⟩ := bind_eq_error.mp failed
            · exact restFails failedRest
            · cases finished

/-- A filter fails for its conditions. -/
theorem isConditionFault_of_forFilter
    {conditions : Conditions}
    {start : Int}
    {error : Error}
    (failed : forFilter conditions start = .error error) :
    IsConditionFault error := by
  obtain failedShape | ⟨_, _, failed⟩ := bind_eq_error.mp failed
  · exact isConditionFault_of_checkShape failedShape
  · obtain failedParts | ⟨_, _, finished⟩ := bind_eq_error.mp failed
    · exact isConditionFault_of_filterParts failedParts
    · cases finished

end Fragment

namespace Selection

variable {selection left : Selection} {base : Option Target} {error : Error}

/-- Whether a join with a first table to fix, if one is given, finds none to fix: the selection has
its first table, or there is no table given and no model selected. -/
def KeepsBase (selection : Selection) (base : Option Target) : Prop :=
  selection.base ≠ none ∨ base = none ∧ selection.models = []

/-- The table that a join fixes, where the first table is open. -/
theorem base_withBase (base : Option Target) (selection : Selection) :
    (selection.withBase base).base =
      selection.base.or ((base.map Target.tableName).or
        (selection.models.head?.map Model.tableName)) := by
  cases base <;> rfl

/-- Fixing the first table changes nothing else. -/
theorem withBase_eq_self
    (same : (selection.withBase base).base = selection.base) :
    selection.withBase base = selection := by
  change { selection with base := (selection.withBase base).base } = selection
  rw [same]

/-- Fixing the first table leaves a selection as it is exactly when there is none to fix. -/
theorem withBase_eq_self_iff :
    selection.withBase base = selection ↔ selection.KeepsBase base := by
  have sameBase : selection.withBase base = selection ↔
      (selection.withBase base).base = selection.base :=
    ⟨congrArg Selection.base, withBase_eq_self⟩
  rw [sameBase, base_withBase, KeepsBase]
  cases fixed : selection.base with
  | some table => simp
  | none =>
      cases base with
      | some target => simp
      | none => simp [List.head?_eq_none_iff]

/-- A refused join fixes the first table and changes nothing else. -/
theorem eq_withBase_of_refused
    {kind : Value}
    {table : Target}
    {on : Conditions}
    (refused : selection.join kind table on base = (.error error, left)) :
    left = selection.withBase base := by
  unfold Selection.join at refused
  cases named : JoinKind.ofToken kind with
  | ok kind =>
      rw [named] at refused
      cases refused
  | error refusal =>
      rw [named] at refused
      exact (congrArg Prod.snd refused).symm

/-- Joins are not made for want of conditions, or for their conditions. -/
theorem joinsSql_ne_openBaseTable
    {next : Int}
    {joins : List Join} :
    (joinsSql next joins).result ≠ .error (.compile .openBaseTable) := by
  induction joins generalizing next with
  | nil => nofun
  | cons join joins othersFail =>
      intro failed
      rw [joinsSql] at failed
      split at failed
      · cases failed
      · obtain failedOn | ⟨on, _, failed⟩ := Traced.result_bind_eq_error.mp failed
        · rw [Fragment.result_traced] at failedOn
          exact Fragment.isConditionFault_of_forFilter failedOn
        · obtain failedOthers | ⟨_, _, finished⟩ := Traced.result_bind_eq_error.mp failed
          · exact othersFail failedOthers
          · cases finished

/-- The statement of a selection fails for want of a first table exactly when that is open. -/
theorem statement_eq_openBaseTable_iff :
    selection.statement.result = .error (.compile .openBaseTable) ↔ selection.base = none := by
  unfold Selection.statement
  cases selection.base with
  | none => exact iff_of_true rfl rfl
  | some table =>
      refine iff_of_false (fun failed => ?_) nofun
      obtain failedJoins | ⟨⟨_, _, next⟩, _, failed⟩ := Traced.result_bind_eq_error.mp failed
      · exact joinsSql_ne_openBaseTable failedJoins
      · obtain failedFilter | ⟨_, _, finished⟩ := Traced.result_bind_eq_error.mp failed
        · rw [Fragment.result_traced] at failedFilter
          exact Fragment.isConditionFault_of_forFilter failedFilter
        · cases finished

/-- The statement that a selection makes after further steps, of which some may fail. -/
def builtAfter (selection : Selection) (later : List SelectionStep) : Except Error Statement :=
  match later.foldl (fun begun step => (step.apply begun).2) (some selection) with
  | some begun => begun.statement.result
  | none => .error (.compile .noTarget)

/-- Fixing the first table shows in a later statement exactly when there is one to fix. -/
theorem builtAfter_withBase_iff :
    (∀ later, (selection.withBase base).builtAfter later = selection.builtAfter later) ↔
      selection.KeepsBase base := by
  constructor
  · intro unnoticed
    cases fixed : selection.base with
    | some table => exact .inl (by rw [fixed]; nofun)
    | none =>
        -- The statement without further steps fails for want of a first table, also afterwards.
        have failsAfter : (selection.withBase base).statement.result =
            .error (.compile .openBaseTable) :=
          (unnoticed []).trans (statement_eq_openBaseTable_iff.mpr fixed)
        have stillOpen := statement_eq_openBaseTable_iff.mp failsAfter
        exact withBase_eq_self_iff.mp (withBase_eq_self (stillOpen.trans fixed.symm))
  · intro keeps later
    rw [withBase_eq_self_iff.mpr keeps]

/-- After a refused join a selection has the same targets, joins and conditions, and its first table
is the one that it had, or else the one that the join names, or else that of its first model.  It is
the selection as it was, and makes the same statements after any further steps, exactly when the
join had no first table to fix. -/
theorem join_refused
    {kind : Value}
    {table : Target}
    {on : Conditions}
    (refused : selection.join kind table on base = (.error error, left)) :
    left.targets = selection.targets ∧ left.joins = selection.joins ∧
      left.conditions = selection.conditions ∧
      left.base = selection.base.or ((base.map Target.tableName).or
        (selection.models.head?.map Model.tableName)) ∧
      (left = selection ↔ selection.KeepsBase base) ∧
      ((∀ later, left.builtAfter later = selection.builtAfter later) ↔
        selection.KeepsBase base) := by
  obtain rfl := eq_withBase_of_refused refused
  exact ⟨rfl, rfl, rfl, base_withBase base selection, withBase_eq_self_iff,
    builtAfter_withBase_iff⟩

/-- Two tables whose first one is open. -/
def twoTables : Selection :=
  ⟨[.table "a", .table "b"], none, [], []⟩

theorem join_refused_two_tables :
    ∃ error left, twoTables.join (.text "cross") (.table "b") [] none = (.error error, left) ∧
      left = twoTables ∧ ∀ later, left.builtAfter later = twoTables.builtAfter later := by
  obtain ⟨_, _, _, _, same, unnoticed⟩ := join_refused
    (show twoTables.join (.text "cross") (.table "b") [] none = (.error _, _) from rfl)
  have keeps : twoTables.KeepsBase none := .inr ⟨rfl, rfl⟩
  exact ⟨_, _, rfl, same.mpr keeps, unnoticed.mpr keeps⟩

/-- A join of the second table to the first one, which it names. -/
def joinedToFirst : List SelectionStep :=
  [.join (.keyword (.join .inner)) (.table "b") (.columns "a.id" (.text "=") "b.a_id")
    (some (.table "a"))]

/-- A refused join that names a first table: the next join no longer chooses the first table. -/
theorem join_refused_fixes_base :
    ∃ error left chosen fixed,
      twoTables.join (.text "cross") (.table "b") [] (some (.table "b")) = (.error error, left) ∧
      twoTables.base = none ∧ left.base = some "b" ∧
      twoTables.builtAfter joinedToFirst = .ok chosen ∧
      chosen.text .sqlite = "SELECT a.*, b.* FROM a INNER JOIN b ON a.id=b.a_id;" ∧
      left.builtAfter joinedToFirst = .ok fixed ∧
      fixed.text .sqlite = "SELECT a.*, b.* FROM b INNER JOIN b ON a.id=b.a_id;" := by
  refine ⟨_, _, _, _, rfl, rfl, rfl, rfl, ?_, rfl, ?_⟩
  · decide +kernel
  · decide +kernel

end Selection
end BoundSql
