import BoundSql.Session.Store

/-!
# Calls

The operations on a database, on models and on instances as data. A session
makes calls one after the other. It keeps instances under names, and later calls
refer to them by name; a call that fails keeps nothing. The registry of the
database is the only other thing that a call changes.
-/

namespace BoundSql

/-- How much of the result of a selection is asked for. -/
inductive Extent
  | all
  | optional
  | one
  deriving DecidableEq, Repr

/-- A call in a session. -/
inductive Call
  | make (name : String) (model : Model) (row : Row)
  | assign (name field : String) (value : Value)
  | save (name : String)
  | update (name : String)
  | delete (name : String)
  | fromRow (name : Option String) (model : Model) (row : Row)
  | migrate (model : Model) (recreate : Bool)
  | migrateAll (models : List Model) (recreate : Bool)
  | register (model : Model)
  | create (model : Model) (values : Expression)
  | filter (model : Model) (conditions : Expression)
  | get (name : Option String) (model : Model) (conditions : Expression)
  | all (model : Model)
  | count (model : Model)
  | deleteAll (model : Model)
  | updateByKey (model : Model) (id : Value) (values : Expression)
  | execute (statement : Statement)
  | fetch (statement : Statement)
  | fetchAll (statement : Statement)
  | fetchOptional (statement : Statement)
  | fetchOne (statement : Statement)
  | scalar (statement : Statement)
  | select (steps : List SelectionStep) (extent : Extent) (shapes : List Model)
  /-- Ask for the result of a selection that has been made, in whatever steps. -/
  | ask (selection : Selection) (extent : Extent) (shapes : List Model)
  | dispose
  /-- Open the database and close it again, with a failure in between if there is a text for one. -/
  | openAndClose (failure : Option String)

/-- What a call returns. -/
inductive Outcome
  | nothing
  | truth
  | number (n : Int)
  | value (value : Value)
  | row (row : Row)
  | rows (rows : List Row)
  | result (rows : Rows) (mappings : List Row)
  | single (self : Instance)
  | instances (selves : List Instance)
  | shaped (shaped : Shaped)
  | shapedAll (shaped : List Shaped)

/-- What a session keeps from call to call. -/
structure SessionState where
  database : Database
  /-- Instances by name, the latest first. -/
  kept : List (String × Instance)

namespace Outcome

/-- An outcome that may be missing. -/
def ofOption {α : Type} (present : α → Outcome) (found : Option α) : Outcome :=
  (found.map present).getD .nothing

end Outcome

namespace SessionState

/-- The instance kept under a name. -/
def find (state : SessionState) (name : String) : Except Error Instance :=
  match state.kept.lookup name with
  | some self => .ok self
  | none => .error (.unknownVariable name)

/-- The state with an instance kept under a name, or with none under it. -/
def keep (state : SessionState) (name : String) (self : Option Instance) : SessionState :=
  let others := state.kept.filter (·.1 != name)
  match self with
  | some self => { state with kept := (name, self) :: others }
  | none => { state with kept := others }

/-- The state with an instance kept if there is a name for it. -/
def keepAs
    (state : SessionState)
    (name : Option String)
    (self : Option Instance) : SessionState :=
  match name with
  | some name => state.keep name self
  | none => state

end SessionState

namespace Call

/-- Return an outcome that leaves the state of the session as it was. -/
def unchanged
    {α : Type}
    (state : SessionState)
    (outcome : α → Outcome)
    (exchange : Exchange α) : Exchange (Outcome × SessionState) := do
  let value ← exchange
  pure (outcome value, state)

/-- Return an instance and keep it under a name if there is one. -/
def keeping
    (state : SessionState)
    (name : Option String)
    (result : Except Error Instance) : Exchange (Outcome × SessionState) := do
  let self ← Exchange.ofExcept result
  pure (.single self, state.keepAs name (some self))

/-- Ask for the result of a selection. -/
def asked
    (database : Database)
    (selection : Selection)
    (extent : Extent)
    (shapes : List Model) : Exchange Outcome := do
  match extent with
  | .all => return .shapedAll (← database.selectAll selection shapes)
  | .optional => return Outcome.ofOption .shaped (← database.selectOptional selection shapes)
  | .one => return .shaped (← database.selectOne selection shapes)

/-- Make a selection and ask for its result. -/
def selected
    (database : Database)
    (steps : List SelectionStep)
    (extent : Extent)
    (shapes : List Model) : Exchange Outcome := do
  let selection ← Exchange.ofExcept (SelectionStep.applyAll none steps)
  asked database selection extent shapes

/-- What happens while a database is open between being opened and being closed. -/
def interlude (failure : Option String) : Exchange Unit :=
  match failure with
  | some text => Exchange.ofExcept (.error (.driver text))
  | none => pure ()

/-- The values of an expression in an exchange. -/
def conditionsOf (expression : Expression) : Exchange Conditions :=
  Exchange.ofExcept expression.eval

/-- Make a call. -/
def run (state : SessionState) (call : Call) : Exchange (Outcome × SessionState) :=
  let database := state.database
  let noted := unchanged state fun () => Outcome.nothing
  let counted := unchanged state Outcome.number
  match call with
  | .make name model row => keeping state (some name) (model.instanceOf row)
  | .fromRow name model row => keeping state name (model.instanceOf row)
  | .assign name field value =>
      keeping state (some name) do (← state.find name).assign field value
  | .save name => noted do database.save (← Exchange.ofExcept (state.find name))
  | .update name => counted do database.update (← Exchange.ofExcept (state.find name))
  | .delete name => counted do database.delete (← Exchange.ofExcept (state.find name))
  | .migrate model recreate => noted (database.migrate model recreate)
  | .migrateAll models recreate => noted (database.migrateAll models recreate)
  | .register model => do
      (database.registry.registration model).forM Exchange.log
      let database := { database with registry := database.registry.register model }
      pure (.nothing, { state with database })
  | .create model values => noted do database.create model (← conditionsOf values)
  | .filter model conditions =>
      unchanged state .instances do database.filter model (← conditionsOf conditions)
  | .get name model conditions => do
      let found ← database.get model (← conditionsOf conditions)
      pure (Outcome.ofOption .single found, state.keepAs name found)
  | .all model => unchanged state .instances (database.all model)
  | .count model => counted (database.count model)
  | .deleteAll model => counted (database.deleteAll model)
  | .updateByKey model id values => counted do
      database.updateByKey model id (← conditionsOf values)
  | .execute statement => counted (database.execute statement)
  | .fetch statement => do
      let rows ← database.fetch statement
      let mappings ← Exchange.ofExcept rows.mappings
      pure (.result rows mappings, state)
  | .fetchAll statement => unchanged state .rows (database.fetchAll statement)
  | .fetchOptional statement =>
      unchanged state (Outcome.ofOption .row) (database.fetchOptional statement)
  | .fetchOne statement => unchanged state .row (database.fetchOne statement)
  | .scalar statement => unchanged state .value (database.scalar statement)
  | .select steps extent shapes => unchanged state id (selected database steps extent shapes)
  | .ask selection extent shapes => unchanged state id (asked database selection extent shapes)
  | .dispose => noted database.dispose
  | .openAndClose failure =>
      unchanged state (fun () => .truth) (database.whileOpen (interlude failure))

end Call

namespace SessionState

/-- Make a call with the replies of the connection to it. A call that fails leaves the state as it
was. -/
def step (state : SessionState) (call : Call) (replies : List Reply) :
    Traced Happening Outcome × SessionState :=
  let done := (call.run state replies).1
  let after :=
    match done.result with
    | .ok (_, after) => after
    | .error _ => state
  (⟨done.trace, done.result.map (·.1)⟩, after)

/-- Make several calls, each with its replies. -/
def runAll (state : SessionState) : List (Call × List Reply) →
    List (Traced Happening Outcome) × SessionState
  | [] => ([], state)
  | (call, replies) :: calls =>
      let (done, state) := state.step call replies
      let (others, state) := runAll state calls
      (done :: others, state)

end SessionState
end BoundSql
