import BoundSql.Proofs.Session.Failure
import BoundSql.Proofs.Session.Sent

/-!
# What calls are composed of

A call reports, computes, and runs statements on its database; nothing else reaches the
connection.  So each operation is composed of quiet parts and of runs of single
statements, in an order that may depend on the results before.

The order matters where what is given is refused.  An operation computes what it needs,
and makes its statements, before it runs the first one.  The arguments of a statement
may still be refused then, but what comes after a statement is not refused any more.
Only the creation of several tables goes on to things that may be.

What holds of these parts, and is kept when one follows the other, holds of every call.
-/

namespace BoundSql

/-- Whether something happens between a database and its connection: a statement, or the beginning
or the end of a transaction. -/
def Happening.isTraffic : Happening → Bool
  | .begun | .executed _ _ | .committed | .rolledBack => true
  | .logged _ | .disposed => false

namespace Exchange

variable {α β : Type}

/-- Whether an exchange leaves the connection alone, whatever the connection would reply. -/
def Quiet (exchange : Exchange α) : Prop :=
  ∀ replies, (exchange replies).2 = replies ∧
    ∀ happening ∈ (exchange replies).1.trace, happening.isTraffic = false

theorem quiet_ofExcept (result : Except Error α) : (ofExcept result).Quiet :=
  fun _ => ⟨rfl, nofun⟩

theorem quiet_pure (value : α) : (pure value : Exchange α).Quiet :=
  quiet_ofExcept (.ok value)

theorem quiet_log (entry : LogEntry) : (log entry).Quiet :=
  fun _ => ⟨rfl, List.forall_mem_singleton.mpr rfl⟩

theorem quiet_compile (dialect : Dialect) (statement : Traced Fragment Statement) :
    (compile dialect statement).Quiet := by
  refine fun _ => ⟨rfl, ?_⟩
  intro happening member
  obtain ⟨fragment, _, rfl⟩ := List.mem_map.mp member
  rfl

/-- Quiet parts one after the other are quiet. -/
theorem Quiet.bind
    {first : Exchange α}
    {next : α → Exchange β}
    (quiet : first.Quiet)
    (quietNext : ∀ value, (next value).Quiet) :
    (first >>= next).Quiet := by
  intro replies
  obtain ⟨untaken, silent⟩ := quiet replies
  cases outcome : (first replies).1.result with
  | error error =>
      rw [bind_apply_error next outcome]
      exact ⟨untaken, silent⟩
  | ok value =>
      obtain ⟨untakenNext, silentNext⟩ := quietNext value (first replies).2
      rw [bind_apply_ok next outcome]
      exact ⟨untakenNext.trans untaken, List.forall_mem_append.mpr ⟨silent, silentNext⟩⟩

/-- What happens in two parts one after the other happens in one of them. -/
theorem forall_trace_bind
    {property : Happening → Prop}
    {replies : List Reply}
    {first : Exchange α}
    {next : α → Exchange β}
    (ofFirst : ∀ happening ∈ (first replies).1.trace, property happening)
    (ofNext : ∀ value, first.result replies = .ok value →
      ∀ happening ∈ (next value (first replies).2).1.trace, property happening) :
    ∀ happening ∈ ((first >>= next) replies).1.trace, property happening := by
  cases outcome : (first replies).1.result with
  | error error =>
      rw [bind_apply_error next outcome]
      exact ofFirst
  | ok value =>
      rw [bind_apply_ok next outcome]
      exact List.forall_mem_append.mpr ⟨ofFirst, ofNext value outcome⟩

/-- Whether an exchange is not refused, whatever the connection replies. -/
def Unrefused (exchange : Exchange α) : Prop :=
  ∀ replies, FailsWith Error.isNoRefusal (exchange.result replies)

/-- When an exchange may be refused. -/
inductive RefusalTime
  | never
  /-- Before it takes effect. -/
  | early
  /-- Also after parts of it have taken effect. -/
  | late

/-- An exchange that is composed of quiet parts and of running statements on a database, for numbers
of rows or for rows, so that it may be refused at a time. -/
inductive Composed (database : Database) : RefusalTime → {α : Type} → Exchange α → Prop
  | settled {α : Type} {exchange : Exchange α} :
      exchange.Quiet → exchange.Unrefused → Composed database .never exchange
  | quiet {α : Type} {exchange : Exchange α} : exchange.Quiet → Composed database .early exchange
  /-- A statement without arguments. -/
  | executeText (text : String) : Composed database .never (database.execute (.ofText text))
  | execute (statement : Statement) : Composed database .early (database.execute statement)
  | fetch (statement : Statement) : Composed database .early (database.fetch statement)
  /-- A quiet part, which may be refused, before others. -/
  | prepare {α β : Type} {first : Exchange α} {next : α → Exchange β} :
      first.Quiet → (∀ value, Composed database .early (next value)) →
      Composed database .early (first >>= next)
  /-- A part that is not refused, after others. -/
  | finish {α β : Type} {time : RefusalTime} {first : Exchange α} {next : α → Exchange β} :
      Composed database time first →
      (∀ replies value, first.result replies = .ok value → Composed database .never (next value)) →
      Composed database time (first >>= next)
  /-- A part that may be refused, after others. -/
  | follow {α β : Type} {first : Exchange α} {next : α → Exchange β} :
      Composed database .late first → (∀ value, Composed database .late (next value)) →
      Composed database .late (first >>= next)
  | early {α : Type} {exchange : Exchange α} :
      Composed database .never exchange → Composed database .early exchange
  | late {α : Type} {exchange : Exchange α} :
      Composed database .early exchange → Composed database .late exchange

namespace Composed

variable {database : Database} {time : RefusalTime} {first : Exchange α} {next : α → Exchange β}

theorem pure (value : α) : Composed database .never (Pure.pure value : Exchange α) :=
  .settled (quiet_pure value) fun _ => .ok value

theorem log (entry : LogEntry) : Composed database .never (log entry) :=
  .settled (quiet_log entry) fun _ => .ok ()

/-- A result that is no refusal. -/
theorem result
    {result : Except Error α}
    (fails : FailsWith Error.isNoRefusal result) :
    Composed database .never (ofExcept result) :=
  .settled (quiet_ofExcept result) fun _ => fails

/-- Rows that may not become what they should. -/
theorem rows
    {result : Except Error α}
    (fails : FailsWith Error.isRowFault result) :
    Composed database .never (ofExcept result) :=
  .result (fails.mono Error.isNoRefusal_of_isRowFault)

/-- What makes a statement first is composed as what goes on with the statement. -/
theorem compile
    {dialect : Dialect}
    {statement : Traced Fragment Statement}
    {next : Statement → Exchange β}
    (composed : ∀ made, Composed database .early (next made)) :
    Composed database .early (Exchange.compile dialect statement >>= next) :=
  .prepare (quiet_compile dialect statement) composed

/-- What computes a result first is composed as what goes on with the result. -/
theorem compute
    {result : Except Error α}
    (composed : ∀ value, Composed database .early (next value)) :
    Composed database .early (ofExcept result >>= next) :=
  .prepare (quiet_ofExcept result) composed

/-- A part that is not refused whatever comes before it. -/
theorem andThen
    (composed : Composed database time first)
    (settled : ∀ value, Composed database .never (next value)) :
    Composed database time (first >>= next) :=
  .finish composed fun _ value _ => settled value

end Composed
end Exchange

namespace Database

open Exchange

variable (database : Database)

theorem composed_fetchAll (statement : Statement) :
    Composed database .early (database.fetchAll statement) :=
  .andThen (.fetch statement) fun rows => .rows rows.failsWith_mappings

theorem composed_fetchOptional (statement : Statement) :
    Composed database .early (database.fetchOptional statement) :=
  .andThen (database.composed_fetchAll statement) fun _ => .pure _

theorem composed_fetchOne (statement : Statement) :
    Composed database .early (database.fetchOne statement) := by
  refine .andThen (database.composed_fetchOptional statement) fun row => ?_
  cases row with
  | some row => exact .pure row
  | none => exact .result (.error rfl)

theorem composed_scalar (statement : Statement) :
    Composed database .early (database.scalar statement) := by
  refine .andThen (.fetch statement) fun rows => ?_
  split
  · exact .pure _
  · exact .result (.error rfl)
  · exact .pure _

/-- The schema of a model is made before its table is dropped or created. -/
theorem composed_migrate (model : Model) (recreate : Bool) :
    Composed database .early (database.migrate model recreate) := by
  refine .compute fun schema => .early ?_
  have created : Composed database .never (do
      let _ ← database.execute (Statement.ofText schema.ddl)
      Exchange.log (.migrated schema.table)) :=
    .andThen (.executeText _) fun _ => .log _
  cases recreate with
  | false => exact created
  | true => exact .andThen (.executeText _) fun _ => created

theorem composed_migrateEach (recreate : Bool) (models : List Model) :
    Composed database .late (database.migrateEach recreate models) := by
  induction models with
  | nil => exact .late (.early (.pure ()))
  | cons model models composed =>
      exact .follow (.late (database.composed_migrate model recreate)) fun _ => composed

theorem composed_create (model : Model) (values : Conditions) :
    Composed database .early (database.create model values) :=
  .compile fun statement => .andThen (.execute statement) fun _ => .pure ()

theorem composed_filter (model : Model) (conditions : Conditions) :
    Composed database .early (database.filter model conditions) :=
  .compile fun statement => .andThen (database.composed_fetchAll statement) fun rows =>
    .rows (.mapM model.failsWith_instanceOf rows)

theorem composed_get (model : Model) (conditions : Conditions) :
    Composed database .early (database.get model conditions) := by
  refine .compile fun statement =>
    .andThen (database.composed_fetchOptional statement) fun row => ?_
  cases row with
  | some row => exact .rows ((model.failsWith_instanceOf row).map some)
  | none => exact .pure none

theorem composed_all (model : Model) : Composed database .early (database.all model) :=
  .andThen (database.composed_fetchAll _) fun rows => .rows (.mapM model.failsWith_instanceOf rows)

theorem composed_updateByKey (model : Model) (id : Value) (values : Conditions) :
    Composed database .early (database.updateByKey model id values) :=
  .compute fun _ => .compile fun statement => .execute statement

theorem composed_count (model : Model) : Composed database .early (database.count model) := by
  refine .andThen (database.composed_scalar _) fun value => ?_
  split
  · apply Composed.result
    cases value.toInt with
    | ok number => exact .ok number
    | error fault => exact .error rfl
  · exact .pure 0

theorem composed_save (self : Instance) : Composed database .early (database.save self) :=
  .compute fun _ => .compute fun values => database.composed_create self.model values

theorem composed_update (self : Instance) : Composed database .early (database.update self) := by
  refine .compute fun key => ?_
  dsimp only
  split
  · exact .early (.pure 0)
  · exact .compute fun values => database.composed_updateByKey self.model _ values

theorem composed_delete (self : Instance) : Composed database .early (database.delete self) :=
  .compute fun _ => .compute fun statement => .execute statement

theorem composed_selectAll (selection : Selection) (asked : List Model) :
    Composed database .early (database.selectAll selection asked) :=
  .compute fun shapes => .compile fun statement => .andThen (.fetch statement) fun rows =>
    .rows (selection.failsWith_shaped shapes rows)

theorem composed_selectOptional (selection : Selection) (asked : List Model) :
    Composed database .early (database.selectOptional selection asked) :=
  .andThen (database.composed_selectAll selection asked) fun _ => .pure _

variable {database}

/-- The statement of a selection that has been asked for is made. -/
theorem exists_statement_of_selectOptional
    {selection : Selection}
    {asked : List Model}
    {replies : List Reply}
    {first : Option Shaped}
    (succeeds : (database.selectOptional selection asked).result replies = .ok first) :
    ∃ statement, selection.statement.result = .ok statement := by
  obtain ⟨all, _, selected, _⟩ := bind_succeeds succeeds
  obtain ⟨shapes, _, continued, _⟩ := ofExcept_succeeds selected
  obtain ⟨statement, _, made, _⟩ := compile_succeeds continued
  exact ⟨statement, made⟩

variable (database)

/-- The statement that is made once more for an error is not refused then. -/
theorem composed_selectOne (selection : Selection) (asked : List Model) :
    Composed database .early (database.selectOne selection asked) := by
  refine .finish (database.composed_selectOptional selection asked) ?_
  intro replies first succeeds
  obtain ⟨statement, made⟩ := exists_statement_of_selectOptional succeeds
  cases first with
  | some shaped => exact .pure shaped
  | none =>
      have remade : Composed database .never
          (Exchange.compile database.dialect selection.statement) := by
        refine .settled (quiet_compile _ _) fun replies error failed => ?_
        cases made.symm.trans failed
      exact .andThen remade fun _ => .result (.error rfl)

end Database

namespace Call

open Exchange

variable {database : Database}

theorem composed_unchanged
    {α : Type}
    {time : RefusalTime}
    {state : SessionState}
    {outcome : α → Outcome}
    {exchange : Exchange α}
    (composed : Composed database time exchange) :
    Composed database time (unchanged state outcome exchange) :=
  .andThen composed fun _ => .pure _

theorem composed_keeping
    (state : SessionState)
    (name : Option String)
    (result : Except Error Instance) :
    Composed database .early (keeping state name result) :=
  .compute fun _ => .early (.pure _)

theorem composed_asked
    (selection : Selection)
    (extent : Extent)
    (shapes : List Model) :
    Composed database .early (asked database selection extent shapes) := by
  cases extent with
  | all => exact .andThen (database.composed_selectAll selection shapes) fun _ => .pure _
  | optional => exact .andThen (database.composed_selectOptional selection shapes) fun _ => .pure _
  | one => exact .andThen (database.composed_selectOne selection shapes) fun _ => .pure _

/-- Reporting several entries is quiet. -/
theorem quiet_forM_log (entries : List LogEntry) :
    (entries.forM Exchange.log).Quiet := by
  induction entries with
  | nil => exact quiet_pure ()
  | cons entry entries quiet => exact (quiet_log entry).bind fun _ => quiet

theorem quiet_interlude (failure : Option String) : (interlude failure).Quiet := by
  cases failure with
  | none => exact quiet_pure ()
  | some text => exact quiet_ofExcept _

/-- Opening a database and letting go of it is quiet. -/
theorem quiet_whileOpen (database : Database) (failure : Option String) :
    (database.whileOpen (interlude failure)).Quiet := by
  unfold Database.whileOpen
  cases database.binding with
  | connection => exact quiet_interlude failure
  | engine =>
      intro replies
      obtain ⟨untaken, silent⟩ := quiet_interlude failure replies
      exact ⟨untaken, List.forall_mem_append.mpr ⟨silent, List.forall_mem_singleton.mpr rfl⟩⟩

theorem quiet_dispose (database : Database) : database.dispose.Quiet := by
  unfold Database.dispose
  cases database.binding with
  | connection => exact quiet_pure ()
  | engine => exact fun _ => ⟨rfl, List.forall_mem_singleton.mpr rfl⟩

/-- Whether a call creates the tables of several models. -/
def isMigrateAll : Call → Bool
  | .migrateAll _ _ => true
  | _ => false

/-- When a call may be refused. -/
def refusalTime (call : Call) : RefusalTime :=
  if call.isMigrateAll then .late else .early

/-- Every call is composed of quiet parts and of running statements on its database, and may be
refused before it takes effect, or later when it creates several tables. -/
theorem composed_run (state : SessionState) (call : Call) :
    Composed state.database call.refusalTime (call.run state) := by
  cases call with
  | make | assign | fromRow => exact composed_keeping state _ _
  | save name => exact composed_unchanged (.compute fun self => state.database.composed_save self)
  | update name =>
      exact composed_unchanged (.compute fun self => state.database.composed_update self)
  | delete name =>
      exact composed_unchanged (.compute fun self => state.database.composed_delete self)
  | migrate model recreate =>
      exact composed_unchanged (state.database.composed_migrate model recreate)
  | migrateAll models recreate =>
      exact composed_unchanged (state.database.composed_migrateEach recreate _)
  | register model => exact .prepare (quiet_forM_log _) fun _ => .early (.pure _)
  | create model values =>
      exact composed_unchanged (.compute fun values => state.database.composed_create model values)
  | filter model conditions =>
      exact composed_unchanged
        (.compute fun conditions => state.database.composed_filter model conditions)
  | get name model conditions =>
      exact .compute fun conditions =>
        .andThen (state.database.composed_get model conditions) fun _ => .pure _
  | all model => exact composed_unchanged (state.database.composed_all model)
  | count model => exact composed_unchanged (state.database.composed_count model)
  | deleteAll model => exact composed_unchanged (.execute _)
  | updateByKey model id values =>
      exact composed_unchanged
        (.compute fun values => state.database.composed_updateByKey model id values)
  | execute statement => exact composed_unchanged (.execute statement)
  | fetch statement =>
      refine .andThen (.fetch statement) fun rows => ?_
      exact .andThen (.rows rows.failsWith_mappings) fun _ => .pure _
  | fetchAll statement => exact composed_unchanged (state.database.composed_fetchAll statement)
  | fetchOptional statement =>
      exact composed_unchanged (state.database.composed_fetchOptional statement)
  | fetchOne statement => exact composed_unchanged (state.database.composed_fetchOne statement)
  | scalar statement => exact composed_unchanged (state.database.composed_scalar statement)
  | select steps extent shapes =>
      exact composed_unchanged (.compute fun selection => composed_asked selection extent shapes)
  | ask selection extent shapes => exact composed_unchanged (composed_asked selection extent shapes)
  | dispose => exact composed_unchanged (.quiet (quiet_dispose state.database))
  | openAndClose failure =>
      exact composed_unchanged (.quiet (quiet_whileOpen state.database failure))

end Call
end BoundSql
