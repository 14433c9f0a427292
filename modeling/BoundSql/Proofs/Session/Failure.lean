import BoundSql.Proofs.Outcome
import BoundSql.Session.Call

/-!
# Kinds of failures

Which errors a part of a call can fail with.  Arguments that do not decode, and a
connection that refuses a statement, fail with other errors than rows that do not become
instances.  So the error of a call tells how far the call came.
-/

namespace BoundSql

namespace Error

/-- Whether an error says that what is given makes no statement: conditions that do not compile, an
operator that is none, a model without a table, or a value without a form under its tag. -/
def isRefusal : Error → Bool
  | .compile _ | .unknownOperator _ _ | .sequence _ | .schema _ _ | .coercion _ _ _ => true
  | _ => false

/-- Whether an error says that rows do not become instances: a record or a result of another width,
or values that do not fit the fields. -/
def isRowFault : Error → Bool
  | .recordLength _ | .columnCount _ _ _ | .validation _ => true
  | _ => false

/-- Whether an error comes from the connection. -/
def isDriver : Error → Bool
  | .driver _ => true
  | _ => false

/-- An error of the decoding of arguments or of the connection. -/
def isExecutionFault : Error → Bool
  | .compile _ | .coercion _ _ _ | .number _ | .driver _ => true
  | _ => false

/-- Whether an error says anything else than that what is given makes no statement. -/
def isNoRefusal (error : Error) : Bool :=
  !error.isRefusal

theorem not_isRefusal {error : Error} (other : error.isNoRefusal) : ¬error.isRefusal := by
  rw [isNoRefusal, Bool.not_eq_true'] at other
  rw [other]
  exact Bool.false_ne_true

theorem isNoRefusal_of_isRowFault {error : Error} (fault : error.isRowFault) :
    error.isNoRefusal := by
  cases error <;> first | rfl | cases fault

theorem isNoRefusal_of_isDriver {error : Error} (fault : error.isDriver) :
    error.isNoRefusal := by
  cases error <;> first | rfl | cases fault

theorem not_isExecutionFault_of_isRowFault {error : Error} (fault : error.isRowFault) :
    error.isExecutionFault = false := by
  cases error <;> first | rfl | cases fault

theorem isExecutionFault_of_isDriver {error : Error} (fault : error.isDriver) :
    error.isExecutionFault := by
  cases error <;> first | rfl | cases fault

/-- What replaces an error that shows a value is an error of the decoding too. -/
theorem isExecutionFault_showing {error : Error} (fault : error.isExecutionFault) (value : Value) :
    (error.showing value).isExecutionFault := by
  unfold showing
  split
  · exact fault
  · rfl

end Error

/-- Whether a result is a value or an error of a kind. -/
def FailsWith {α : Type} (kind : Error → Bool) (result : Except Error α) : Prop :=
  ∀ error, result = .error error → kind error

namespace FailsWith

variable {α β : Type} {kind : Error → Bool}

theorem ok (value : α) : FailsWith kind (.ok value : Except Error α) := nofun

theorem error {error : Error} (ofKind : kind error) :
    FailsWith kind (.error error : Except Error α) := by
  intro other same
  cases same
  exact ofKind

theorem mono
    {wider : Error → Bool}
    {result : Except Error α}
    (fails : FailsWith kind result)
    (widens : ∀ {error}, kind error → wider error) :
    FailsWith wider result :=
  fun error failed => widens (fails error failed)

theorem bind
    {first : Except Error α}
    {next : α → Except Error β}
    (fails : FailsWith kind first)
    (failsNext : ∀ value, FailsWith kind (next value)) :
    FailsWith kind (first >>= next) := by
  intro error failed
  rcases bind_eq_error.mp failed with failed | ⟨value, _, failed⟩
  · exact fails error failed
  · exact failsNext value error failed

theorem map {result : Except Error α} (fails : FailsWith kind result) (change : α → β) :
    FailsWith kind (result.map change) := by
  cases result with
  | ok value => exact ok _
  | error failure => exact error (fails failure rfl)

theorem mapM
    {f : α → Except Error β}
    (fails : ∀ item, FailsWith kind (f item))
    (items : List α) :
    FailsWith kind (items.mapM f) := by
  induction items with
  | nil => exact ok []
  | cons item items failsRest =>
      rw [List.mapM_cons]
      exact (fails item).bind fun value => failsRest.bind fun others => ok (value :: others)

end FailsWith

namespace Argument

variable {α : Type}

theorem failsWith_coerced (argument : Argument) (conversion : Except NumberFault α) :
    FailsWith Error.isExecutionFault (argument.coerced conversion) := by
  unfold coerced
  split
  · exact .ok _
  · split
    · exact .error rfl
    · exact .error (Error.isExecutionFault_showing rfl argument.value)

theorem failsWith_displayText (value : Value) :
    FailsWith Error.isExecutionFault (value.displayText.mapError Error.number) := by
  unfold Value.displayText
  split
  · exact .ok _
  · exact .error rfl

theorem failsWith_decode (argument : Argument) :
    FailsWith Error.isExecutionFault argument.decode := by
  unfold decode
  dsimp only
  split
  · exact .error (Error.isExecutionFault_showing rfl argument.value)
  · split
    · exact .ok _
    · split
      · exact (failsWith_coerced argument _).map _
      · exact (failsWith_coerced argument _).map _
      · exact (failsWith_displayText argument.value).map _

end Argument

theorem Statement.failsWith_bound (statement : Statement) :
    FailsWith Error.isExecutionFault statement.bound :=
  .mapM Argument.failsWith_decode statement.arguments

namespace Reply

theorem failsWith_cursor (reply : Reply) : FailsWith Error.isDriver reply.cursor := by
  cases reply with
  | result rowCount rows => exact .ok _
  | refusal text => exact .error rfl
  | unreadable rowCount text => exact .ok _

/-- The rows of what a reply leaves are only missing where the connection does not read them. -/
theorem failsWith_rows {reply : Reply} {cursor : Cursor} (left : reply.cursor = .ok cursor) :
    FailsWith Error.isDriver cursor.rows := by
  cases reply with
  | result rowCount rows =>
      cases left
      exact .ok rows
  | refusal text => cases left
  | unreadable rowCount text =>
      cases left
      exact .error rfl

end Reply

theorem failsWith_pairUp (names : List String) (values : List Value) :
    FailsWith Error.isRowFault (pairUp names values) := by
  unfold pairUp
  split
  · exact .error rfl
  · split
    · exact .error rfl
    · exact .ok _

namespace Rows

theorem failsWith_mappings (rows : Rows) : FailsWith Error.isRowFault rows.mappings :=
  .mapM (fun record => (failsWith_pairUp rows.columns record).map _) rows.records

theorem failsWith_cutRows (names : List String) (values : List Value) (widths : List Nat) :
    FailsWith Error.isRowFault (cutRows names values widths) := by
  induction widths generalizing names values with
  | nil => exact .ok []
  | cons width widths failsRest =>
      exact (failsWith_pairUp _ _).bind fun pairs => (failsRest _ _).bind fun _ => .ok _

theorem failsWith_groups (rows : Rows) (shapes : List Model) :
    FailsWith Error.isRowFault (rows.groups shapes) := by
  unfold groups
  dsimp only
  split
  · exact .error rfl
  · exact .mapM (fun record => failsWith_cutRows rows.columns record _) rows.records

end Rows

theorem Model.failsWith_instanceOf (model : Model) (row : Row) :
    FailsWith Error.isRowFault (model.instanceOf row) := by
  unfold instanceOf Field.fill
  split
  · exact .ok _
  · exact .error rfl

namespace Selection

theorem failsWith_rowsOf (selection : Selection) (shape : Model) (rows : Rows) :
    FailsWith Error.isRowFault (selection.rowsOf shape rows) := by
  unfold rowsOf
  split
  · exact (rows.failsWith_groups selection.models).bind fun groups => .ok _
  · exact rows.failsWith_mappings

/-- Making the instances of a selection fails only with faults of its rows. -/
theorem failsWith_shaped (selection : Selection) (shapes : List Model) (rows : Rows) :
    FailsWith Error.isRowFault (selection.shaped shapes rows) := by
  unfold shaped
  split
  · rename_i shape
    exact (selection.failsWith_rowsOf shape rows).bind fun rows =>
      .mapM (fun row => (shape.failsWith_instanceOf row).map _) rows
  · exact (rows.failsWith_groups _).bind fun groups =>
      .mapM (fun group => FailsWith.map
        (.mapM (fun (shape, row) => shape.failsWith_instanceOf row) _) _) groups

end Selection
end BoundSql
