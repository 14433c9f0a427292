import BoundSql.Proofs.Session.Transaction

/-!
# Transactions of calls

On an engine the statements that a call runs are all that it does with the connection, each
in a transaction of its own.  A call that goes on to another statement has committed the
transactions before it, and a transaction that is rolled back ends the call with its
failure.  Rows are made into instances behind the transaction of their query, when it is
committed.

So what passes between a database and the connection is one transaction after the other,
over a single call and over any run of calls.  On a connection of its own no transaction
begins or ends.
-/

namespace BoundSql

/-- What goes on with a result goes on with all that is behind it. -/
theorem Exchange.ofExcept_bind_bind
    {α β γ : Type}
    (computed : Except Error α)
    (next : α → Exchange β)
    (last : β → Exchange γ) :
    (ofExcept computed >>= next) >>= last =
      ofExcept computed >>= fun value => next value >>= last := by
  cases computed <;> rfl

namespace Database

open Exchange

variable {database : Database} (engine : database.binding = .engine)

include engine

theorem performs_fetchAll (statement : Statement) :
    (database.fetchAll statement).Performs database.dialect [.query statement] :=
  (executes_fetch engine statement).performs.finish fun _ => quiet_ofExcept _

theorem performs_fetchOptional (statement : Statement) :
    (database.fetchOptional statement).Performs database.dialect [.query statement] :=
  (performs_fetchAll engine statement).finish fun _ => quiet_pure _

theorem performs_fetchOne (statement : Statement) :
    (database.fetchOne statement).Performs database.dialect [.query statement] := by
  refine (performs_fetchOptional engine statement).finish fun row => ?_
  cases row with
  | some row => exact quiet_pure row
  | none => exact quiet_ofExcept _

theorem performs_scalar (statement : Statement) :
    (database.scalar statement).Performs database.dialect [.query statement] := by
  refine (executes_fetch engine statement).performs.finish fun rows => ?_
  split
  · exact quiet_pure _
  · exact quiet_ofExcept _
  · exact quiet_pure _

/-- The table of a schema is dropped, if that is asked for, and created. -/
theorem executes_creation (schema : TableSchema) (recreate : Bool) :
    Executes database.dialect (schema.creation recreate) (do
      if recreate then
        let _ ← database.execute (Statement.dropTable schema.table)
      let _ ← database.execute (Statement.ofText schema.ddl)
      Exchange.log (.migrated schema.table)) := by
  have created : Executes database.dialect [.command (Statement.ofText schema.ddl)] (do
      let _ ← database.execute (Statement.ofText schema.ddl)
      Exchange.log (.migrated schema.table)) :=
    (executes_execute engine _).bind fun _ => .log _
  cases recreate with
  | false => exact created
  | true => exact (executes_execute engine _).bind fun _ => created

theorem performs_migrate (model : Model) (recreate : Bool) :
    (database.migrate model recreate).Performs database.dialect
      (Run.after (model.schema database.dialect) (TableSchema.creation recreate)) :=
  .compute fun schema => (executes_creation engine schema recreate).performs

theorem performs_migrateEach (recreate : Bool) (models : List Model) :
    (database.migrateEach recreate models).Performs database.dialect
      (Model.creations database.dialect recreate models) := by
  induction models with
  | nil => exact (quiet_pure ()).performs
  | cons model models performs =>
      -- Without a schema the first model ends the creation, so it is brought to the front.
      rw [migrateEach, migrate, ofExcept_bind_bind]
      exact .compute fun schema =>
        (executes_creation engine schema recreate).performs_bind fun _ => performs

theorem performs_create (model : Model) (values : Conditions) :
    (database.create model values).Performs database.dialect (model.insertion values) :=
  .compile fun statement => (executes_execute engine statement).performs.finish fun _ =>
    quiet_pure ()

theorem performs_filter (model : Model) (conditions : Conditions) :
    (database.filter model conditions).Performs database.dialect (model.filtering conditions) :=
  .compile fun statement => (performs_fetchAll engine statement).finish fun _ => quiet_ofExcept _

theorem performs_get (model : Model) (conditions : Conditions) :
    (database.get model conditions).Performs database.dialect (model.filtering conditions) := by
  refine .compile fun statement => (performs_fetchOptional engine statement).finish fun row => ?_
  cases row with
  | some row => exact quiet_ofExcept _
  | none => exact quiet_pure none

theorem performs_all (model : Model) :
    (database.all model).Performs database.dialect
      [.query (Statement.selectAll model.tableName)] :=
  (performs_fetchAll engine _).finish fun _ => quiet_ofExcept _

theorem performs_updateByKey (model : Model) (id : Value) (values : Conditions) :
    (database.updateByKey model id values).Performs database.dialect (model.updating id values) :=
  .compute fun _ => .compile fun statement => (executes_execute engine statement).performs

theorem performs_count (model : Model) :
    (database.count model).Performs database.dialect
      [.query (Statement.count model.tableName)] := by
  refine (performs_scalar engine _).finish fun value => ?_
  split
  · exact quiet_ofExcept _
  · exact quiet_pure 0

theorem performs_save (self : Instance) :
    (database.save self).Performs database.dialect self.saving :=
  .compute fun _ => .compute fun values => performs_create engine self.model values

theorem performs_update (self : Instance) :
    (database.update self).Performs database.dialect self.updating := by
  refine .compute fun key => ?_
  dsimp only
  split
  · exact (quiet_pure 0).performs
  · exact .compute fun values => performs_updateByKey engine self.model _ values

theorem performs_delete (self : Instance) :
    (database.delete self).Performs database.dialect self.deletion :=
  .compute fun _ => .compute fun statement => (executes_execute engine statement).performs

theorem performs_selectAll (selection : Selection) (asked : List Model) :
    (database.selectAll selection asked).Performs database.dialect (selection.querying asked) :=
  .compute fun _ => .compile fun statement =>
    (executes_fetch engine statement).performs.finish fun _ => quiet_ofExcept _

theorem performs_selectOptional (selection : Selection) (asked : List Model) :
    (database.selectOptional selection asked).Performs database.dialect
      (selection.querying asked) :=
  (performs_selectAll engine selection asked).finish fun _ => quiet_pure _

/-- The statement that is made once more for an error is not run. -/
theorem performs_selectOne (selection : Selection) (asked : List Model) :
    (database.selectOne selection asked).Performs database.dialect (selection.querying asked) := by
  refine (performs_selectOptional engine selection asked).finish fun first => ?_
  cases first with
  | some shaped => exact quiet_pure shaped
  | none => exact (quiet_compile _ _).bind fun _ => quiet_ofExcept _

end Database

namespace SessionState

@[simp] theorem database_keepAs
    (state : SessionState)
    (name : Option String)
    (self : Option Instance) :
    (state.keepAs name self).database = state.database := by
  cases name with
  | none => rfl
  | some name => cases self <;> rfl

end SessionState

namespace Call

open Exchange

theorem performs_unchanged
    {α : Type}
    {dialect : Dialect}
    {runs : List Run}
    {state : SessionState}
    {outcome : α → Outcome}
    {exchange : Exchange α}
    (performs : exchange.Performs dialect runs) :
    (unchanged state outcome exchange).Performs dialect runs :=
  performs.finish fun _ => quiet_pure _

theorem quiet_keeping
    (state : SessionState)
    (name : Option String)
    (result : Except Error Instance) :
    (keeping state name result).Quiet :=
  (quiet_ofExcept result).bind fun _ => quiet_pure _

theorem performs_asked
    {database : Database}
    (engine : database.binding = .engine)
    (selection : Selection)
    (extent : Extent)
    (shapes : List Model) :
    (asked database selection extent shapes).Performs database.dialect
      (selection.querying shapes) := by
  cases extent with
  | all => exact (Database.performs_selectAll engine selection shapes).finish fun _ => quiet_pure _
  | optional =>
      exact (Database.performs_selectOptional engine selection shapes).finish fun _ => quiet_pure _
  | one => exact (Database.performs_selectOne engine selection shapes).finish fun _ => quiet_pure _

/-- On an engine a call performs what it runs. -/
theorem performs_run
    {state : SessionState}
    (engine : state.database.binding = .engine)
    (call : Call) :
    (call.run state).Performs state.database.dialect (call.runs state) := by
  cases call with
  | make | assign | fromRow => exact (quiet_keeping state _ _).performs
  | save name =>
      exact performs_unchanged (.compute fun self => Database.performs_save engine self)
  | update name =>
      exact performs_unchanged (.compute fun self => Database.performs_update engine self)
  | delete name =>
      exact performs_unchanged (.compute fun self => Database.performs_delete engine self)
  | migrate model recreate =>
      exact performs_unchanged (Database.performs_migrate engine model recreate)
  | migrateAll models recreate =>
      exact performs_unchanged (Database.performs_migrateEach engine recreate _)
  | register model => exact ((quiet_forM_log _).bind fun _ => quiet_pure _).performs
  | create model values =>
      exact performs_unchanged (.compute fun values => Database.performs_create engine model values)
  | filter model conditions =>
      exact performs_unchanged
        (.compute fun conditions => Database.performs_filter engine model conditions)
  | get name model conditions =>
      exact .compute fun conditions =>
        (Database.performs_get engine model conditions).finish fun _ => quiet_pure _
  | all model => exact performs_unchanged (Database.performs_all engine model)
  | count model => exact performs_unchanged (Database.performs_count engine model)
  | deleteAll model => exact performs_unchanged (Database.executes_execute engine _).performs
  | updateByKey model id values =>
      exact performs_unchanged
        (.compute fun values => Database.performs_updateByKey engine model id values)
  | execute statement =>
      exact performs_unchanged (Database.executes_execute engine statement).performs
  | fetch statement =>
      refine (Database.executes_fetch engine statement).performs.finish fun rows => ?_
      exact (quiet_ofExcept _).bind fun _ => quiet_pure _
  | fetchAll statement => exact performs_unchanged (Database.performs_fetchAll engine statement)
  | fetchOptional statement =>
      exact performs_unchanged (Database.performs_fetchOptional engine statement)
  | fetchOne statement => exact performs_unchanged (Database.performs_fetchOne engine statement)
  | scalar statement => exact performs_unchanged (Database.performs_scalar engine statement)
  | select steps extent shapes =>
      exact performs_unchanged
        (.compute fun selection => performs_asked engine selection extent shapes)
  | ask selection extent shapes =>
      exact performs_unchanged (performs_asked engine selection extent shapes)
  | dispose => exact performs_unchanged (quiet_dispose state.database).performs
  | openAndClose failure =>
      exact performs_unchanged (quiet_whileOpen state.database failure).performs

variable {state after : SessionState} {replies : List Reply} {outcome : Outcome}

theorem eq_of_unchanged
    {α : Type}
    {present : α → Outcome}
    {exchange : Exchange α}
    (succeeds : (unchanged state present exchange).result replies = .ok (outcome, after)) :
    after = state := by
  obtain ⟨value, rest, _, returned, _⟩ := Exchange.bind_succeeds succeeds
  cases returned
  rfl

theorem database_of_keeping
    {name : Option String}
    {result : Except Error Instance}
    (succeeds : (keeping state name result).result replies = .ok (outcome, after)) :
    after.database = state.database := by
  obtain ⟨self, _, returned, _⟩ := Exchange.ofExcept_succeeds succeeds
  cases returned
  exact state.database_keepAs name (some self)

/-- A call that succeeds changes nothing of the database but its registry. -/
theorem database_of_run
    {call : Call}
    (succeeds : (call.run state).result replies = .ok (outcome, after)) :
    after.database = { state.database with registry := after.database.registry } := by
  cases call with
  | make | assign | fromRow => rw [database_of_keeping succeeds]
  | register model =>
      obtain ⟨_, rest, _, returned, _⟩ := Exchange.bind_succeeds succeeds
      cases returned
      rfl
  | get name model conditions =>
      obtain ⟨conditions, _, found, _⟩ := Exchange.ofExcept_succeeds succeeds
      obtain ⟨self, rest, _, returned, _⟩ := Exchange.bind_succeeds found
      cases returned
      rw [state.database_keepAs]
  | fetch statement =>
      obtain ⟨rows, rest, _, mapped, _⟩ := Exchange.bind_succeeds succeeds
      obtain ⟨mappings, _, returned, _⟩ := Exchange.ofExcept_succeeds mapped
      cases returned
      rfl
  | _ => rw [eq_of_unchanged succeeds]

end Call

/-- Whether what is done for a call in a state, with given replies, is the transactions of what the
call runs there: all but the last one are committed, and all of them when the call fails because
rows do not become instances. -/
structure Transacted
    (state : SessionState)
    (call : Call)
    (replies : List Reply)
    (done : Traced Happening Outcome) : Prop
    extends Transacts state.database.dialect (call.runs state) replies done where
  commits : ∀ transaction ∈ (Run.transactions (call.runs state) replies).dropLast,
    transaction.outcome = .ok ()
  commitsRows : ∀ error, done.result = .error error → error.isRowFault →
    ∀ transaction ∈ Run.transactions (call.runs state) replies, transaction.outcome = .ok ()

/-- Whether what is done for calls one after the other is the transactions of each of them, in the
state that the calls before it leave. -/
inductive EachTransacted :
    SessionState → List (Call × List Reply) → List (Traced Happening Outcome) → Prop
  | none (state : SessionState) : EachTransacted state [] []
  | call {state : SessionState} {call : Call} {replies : List Reply}
      {calls : List (Call × List Reply)}
      {done : Traced Happening Outcome} {others : List (Traced Happening Outcome)} :
      Transacted state call replies done →
      EachTransacted (state.step call replies).2 calls others →
      EachTransacted state ((call, replies) :: calls) (done :: others)

namespace SessionState

/-- The transactions of calls one after the other, each in the state that the calls before it
leave. -/
def transactions (state : SessionState) : List (Call × List Reply) → List Transaction
  | [] => []
  | (call, replies) :: calls =>
      Run.transactions (call.runs state) replies ++ transactions (state.step call replies).2 calls

/-- A call leaves the database on its engine or connection and with its dialect. -/
theorem database_step (state : SessionState) (call : Call) (replies : List Reply) :
    (state.step call replies).2.database =
      { state.database with registry := (state.step call replies).2.database.registry } := by
  unfold step
  dsimp only
  split
  · rename_i succeeds
    exact Call.database_of_run succeeds
  · rfl

@[simp] theorem binding_step (state : SessionState) (call : Call) (replies : List Reply) :
    (state.step call replies).2.database.binding = state.database.binding := by
  rw [database_step]

@[simp] theorem dialect_step (state : SessionState) (call : Call) (replies : List Reply) :
    (state.step call replies).2.database.dialect = state.database.dialect := by
  rw [database_step]

/-- On an engine a call is the transactions of what it runs, and faults of rows come after they are
all committed. -/
theorem transacted_step
    {state : SessionState}
    (engine : state.database.binding = .engine)
    (call : Call)
    (replies : List Reply) :
    Transacted state call replies (state.step call replies).1 := by
  have transacts := ((call.performs_run engine) replies).1.map fun value => value.1
  refine ⟨transacts, fun _ member => Run.outcome_of_mem_dropLast member, ?_⟩
  intro error failed fault
  apply transacts.committed
  intro other otherwise
  cases failed.symm.trans otherwise
  exact Error.not_isExecutionFault_of_isRowFault fault

/-- On a connection of its own no transaction begins or ends in a call. -/
theorem step_not_isTransactional
    {state : SessionState}
    (connection : state.database.binding = .connection)
    (call : Call)
    (replies : List Reply) :
    ∀ happening ∈ (state.step call replies).1.trace, happening.isTransactional = false :=
  (call.composed_run state).not_isTransactional connection replies

theorem runAll_cons
    (state : SessionState)
    (call : Call × List Reply)
    (calls : List (Call × List Reply)) :
    (state.runAll (call :: calls)).1 =
      (state.step call.1 call.2).1 :: ((state.step call.1 call.2).2.runAll calls).1 := rfl

/-- What an engine does for the calls of a run, one by one. -/
theorem eachTransacted_runAll
    {state : SessionState}
    (engine : state.database.binding = .engine)
    (calls : List (Call × List Reply)) :
    EachTransacted state calls (state.runAll calls).1 := by
  induction calls generalizing state with
  | nil => exact .none state
  | cons call calls others =>
      rw [runAll_cons]
      exact .call (transacted_step engine call.1 call.2)
        (others ((state.binding_step call.1 call.2).trans engine))

/-- What an engine does for the calls of a run, over the whole run. -/
theorem traffic_runAll
    {state : SessionState}
    (engine : state.database.binding = .engine)
    (calls : List (Call × List Reply)) :
    ((state.runAll calls).1.flatMap Traced.trace).filter Happening.isTraffic =
      (state.transactions calls).flatMap (Transaction.happenings state.database.dialect) := by
  induction calls generalizing state with
  | nil => rfl
  | cons call calls followed =>
      have others := followed ((state.binding_step call.1 call.2).trans engine)
      rw [dialect_step] at others
      rw [runAll_cons, List.flatMap_cons, List.filter_append,
        (transacted_step engine call.1 call.2).traffic_eq, others, transactions,
        List.flatMap_append]

/-- On an engine every call of a run is the transactions of what it runs, and so is the whole run:
each of them begins, executes its statement if the arguments are decoded, and is committed if the
statement is run and the rows of a query are read, and rolled back if not.  What fails while
instances are made of rows comes after all transactions of the call are committed.  On a connection
of its own no transaction begins or ends. -/
theorem transacts_runAll (state : SessionState) (calls : List (Call × List Reply)) :
    (state.database.binding = .engine →
      EachTransacted state calls (state.runAll calls).1 ∧
      ((state.runAll calls).1.flatMap Traced.trace).filter Happening.isTraffic =
        (state.transactions calls).flatMap (Transaction.happenings state.database.dialect)) ∧
    (state.database.binding = .connection →
      ∀ done ∈ (state.runAll calls).1, ∀ happening ∈ done.trace,
        happening.isTransactional = false) := by
  constructor
  · exact fun engine => ⟨eachTransacted_runAll engine calls, traffic_runAll engine calls⟩
  · intro connection
    induction calls generalizing state with
    | nil => exact nofun
    | cons call calls silent =>
        rw [runAll_cons]
        exact List.forall_mem_cons.mpr ⟨step_not_isTransactional connection _ _,
          silent _ ((state.binding_step call.1 call.2).trans connection)⟩

/-- A run in which the argument of a statement is no whole number, the rows of a query cannot be
read, those of a command are not asked for, and a record has no value for its column. -/
def shortRun : List (Call × List Reply) :=
  [(.execute ⟨[.text "delete from t where id=", .slot 1, .text ";"],
      [⟨.text "x", .exact .integer⟩]⟩, []),
    (.fetchAll (Statement.selectAll "t"), [.unreadable 0 "closed"]),
    (.execute (Statement.deleteAll "t"), [.unreadable 3 "closed"]),
    (.fetchAll (Statement.selectAll "t"), [.result 0 ⟨["id"], [[]]⟩])]

theorem transacts_runAll_short :
    (∃ undecoded unread deleted short,
      (runAll ⟨⟨.engine, .sqlite, .empty⟩, []⟩ shortRun).1 = [undecoded, unread, deleted, short] ∧
      EachTransacted ⟨⟨.engine, .sqlite, .empty⟩, []⟩ shortRun
        [undecoded, unread, deleted, short] ∧
      undecoded.trace.filter Happening.isTraffic = [.begun, .rolledBack] ∧
      unread.trace.filter Happening.isTraffic =
        [.begun, .executed "select * from t" [], .rolledBack] ∧
      unread.result = .error (.driver "closed") ∧
      deleted.trace.filter Happening.isTraffic =
        [.begun, .executed "delete from t;" [], .committed] ∧
      short.trace.filter Happening.isTraffic =
        [.begun, .executed "select * from t" [], .committed] ∧
      short.result = .error (.recordLength true)) ∧
    ∀ done ∈ (runAll ⟨⟨.connection, .sqlite, .empty⟩, []⟩ shortRun).1,
      ∀ happening ∈ done.trace, happening.isTransactional = false := by
  constructor
  · obtain ⟨each, _⟩ := (transacts_runAll ⟨⟨.engine, .sqlite, .empty⟩, []⟩ shortRun).1 rfl
    exact ⟨_, _, _, _, rfl, each, rfl, rfl, rfl, rfl, rfl, rfl⟩
  · exact (transacts_runAll ⟨⟨.connection, .sqlite, .empty⟩, []⟩ shortRun).2 rfl

end SessionState
end BoundSql
