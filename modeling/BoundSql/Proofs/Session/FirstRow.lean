import BoundSql.Proofs.Session.Composition

/-!
# First rows and all rows

A query is asked for all of its rows, for the first one if there is one, or for the first
one.  The statement that is sent is the same, and so is the first row.  Where there is no
row, the first one is nothing, or an error that shows the statement that was sent.

The rows of a model are cut to the first one before instances are made of them, those of a
selection afterwards.  So the first row of a model may become an instance when others do
not, and where all of them do it is the first instance.
-/

namespace BoundSql
namespace Exchange

variable {α β : Type} {replies : List Reply}

/-- What computes a result at the end of an exchange sends nothing more. -/
theorem sent_bind_ofExcept (exchange : Exchange α) (finish : α → Except Error β) :
    (exchange >>= fun value => ofExcept (finish value)).sent replies = exchange.sent replies := by
  cases outcome : exchange.result replies with
  | error error => exact sent_bind_error _ outcome
  | ok value =>
      rw [sent_bind_ok _ outcome]
      exact List.append_nil _

theorem result_bind_ofExcept (exchange : Exchange α) (finish : α → Except Error β) :
    (exchange >>= fun value => ofExcept (finish value)).result replies =
      exchange.result replies >>= finish := by
  cases outcome : exchange.result replies with
  | error error => exact result_bind_error _ outcome
  | ok value => exact result_bind_ok _ outcome

theorem Quiet.sent_eq_nil {exchange : Exchange α} (quiet : exchange.Quiet) (replies : List Reply) :
    exchange.sent replies = [] := by
  refine List.filterMap_eq_nil_iff.mpr fun happening member => ?_
  cases happening with
  | executed statement parameters => cases (quiet replies).2 _ member
  | _ => rfl

/-! ## Exchanges that read the first of several -/

/-- Whether two exchanges read the first of what another one reads, if there is one, and the first.
They send what the other one sends.  When the other one reads nothing, it has sent one statement,
and the second of them fails with that statement.  When the other one fails, both fail in the same
way. -/
structure ReadsFirst
    (all : Exchange (List α))
    (optional : Exchange (Option α))
    (one : Exchange α)
    (replies : List Reply) : Prop where
  sent_optional : optional.sent replies = all.sent replies
  sent_one : one.sent replies = all.sent replies
  optional_eq : ∀ items, all.result replies = .ok items → optional.result replies = .ok items.head?
  one_eq : ∀ first rest, all.result replies = .ok (first :: rest) → one.result replies = .ok first
  one_fails : all.result replies = .ok [] → ∃ statement parameters,
    all.sent replies = [(statement, parameters)] ∧
      one.result replies = .error (.zeroRows (.text statement))
  both_fail : ∀ error, all.result replies = .error error →
    optional.result replies = .error error ∧ one.result replies = .error error

/-- What goes on from the first of several reads it, if it returns it as it is, and fails with the
statement that was sent where there is none. -/
theorem readsFirst_of_next
    {all : Exchange (List α)}
    {next : Option α → Exchange α}
    (present : ∀ item, next (some item) = pure item)
    (absent : (next none).Quiet)
    (fails : all.result replies = .ok [] → ∃ statement parameters,
      all.sent replies = [(statement, parameters)] ∧
        ∀ rest, (next none).result rest = .error (.zeroRows (.text statement))) :
    ReadsFirst all (all >>= fun items => pure items.head?)
      ((all >>= fun items => pure items.head?) >>= next) replies := by
  have sent_optional : (all >>= fun items => pure items.head?).sent replies = all.sent replies :=
    sent_bind_ofExcept all fun items => .ok items.head?
  have result_optional : (all >>= fun items => pure items.head?).result replies =
      all.result replies >>= fun items => .ok items.head? :=
    result_bind_ofExcept all fun items => .ok items.head?
  have optional_eq : ∀ items, all.result replies = .ok items →
      (all >>= fun items => pure items.head?).result replies = .ok items.head? := by
    intro items read
    rw [result_optional, read]
    rfl
  have optional_fails : ∀ error, all.result replies = .error error →
      (all >>= fun items => pure items.head?).result replies = .error error := by
    intro error failed
    rw [result_optional, failed]
    rfl
  refine ⟨sent_optional, ?_, optional_eq, ?_, ?_, ?_⟩
  · cases read : all.result replies with
    | error error => rw [sent_bind_error _ (optional_fails error read), sent_optional]
    | ok items =>
        rw [sent_bind_ok _ (optional_eq items read), sent_optional]
        cases items with
        | nil => rw [List.head?_nil, absent.sent_eq_nil, List.append_nil]
        | cons first rest =>
            rw [List.head?_cons, present, (quiet_pure first).sent_eq_nil, List.append_nil]
  · intro first rest read
    rw [result_bind_ok _ (optional_eq _ read), List.head?_cons, present]
    rfl
  · intro read
    obtain ⟨statement, parameters, sent, missing⟩ := fails read
    refine ⟨statement, parameters, sent, ?_⟩
    rw [result_bind_ok _ (optional_eq _ read), List.head?_nil, missing]
  · exact fun error failed =>
      ⟨optional_fails error failed, result_bind_error _ (optional_fails error failed)⟩

end Exchange

namespace Database

open Exchange

variable {database : Database} {statement : Statement} {replies : List Reply}

/-! ## Queries -/

/-- A query for all rows that succeeds sends its statement once. -/
theorem sent_of_fetchAll
    {rows : List Row}
    (read : (database.fetchAll statement).result replies = .ok rows) :
    ∃ parameters, (database.fetchAll statement).sent replies =
      [(statement.text database.dialect, parameters)] := by
  obtain ⟨result, _, fetched, _, _⟩ := bind_succeeds read
  obtain ⟨parameters, _, sent⟩ := fetch_succeeds fetched
  exact ⟨parameters, (sent_bind_ofExcept (database.fetch statement) Rows.mappings).trans sent⟩

theorem fetch_readsFirst (database : Database) (statement : Statement) (replies : List Reply) :
    ReadsFirst (database.fetchAll statement) (database.fetchOptional statement)
      (database.fetchOne statement) replies := by
  refine readsFirst_of_next (fun row => rfl) (quiet_ofExcept _) fun read => ?_
  obtain ⟨parameters, sent⟩ := sent_of_fetchAll read
  exact ⟨_, parameters, sent, fun rest => rfl⟩

/-! ## Selections -/

/-- A selection that is read has sent its statement once. -/
theorem sent_of_selectAll
    {selection : Selection}
    {asked : List Model}
    {all : List Shaped}
    (read : (database.selectAll selection asked).result replies = .ok all) :
    ∃ statement parameters, selection.statement.result = .ok statement ∧
      (database.selectAll selection asked).sent replies =
        [(statement.text database.dialect, parameters)] := by
  obtain ⟨shapes, _, made, share⟩ := ofExcept_succeeds read
  obtain ⟨statement, rest, compiled, asked, shareNext⟩ := compile_succeeds made
  obtain ⟨rows, _, fetched, _, _⟩ := bind_succeeds asked
  obtain ⟨parameters, _, sent⟩ := fetch_succeeds fetched
  refine ⟨statement, parameters, compiled, share.trans (shareNext.trans ?_)⟩
  exact (sent_bind_ofExcept (database.fetch statement) (selection.shaped shapes)).trans sent

theorem select_readsFirst
    (database : Database)
    (selection : Selection)
    (asked : List Model)
    (replies : List Reply) :
    ReadsFirst (database.selectAll selection asked) (database.selectOptional selection asked)
      (database.selectOne selection asked) replies := by
  refine readsFirst_of_next (fun shaped => rfl)
    ((quiet_compile _ _).bind fun _ => quiet_ofExcept _) fun read => ?_
  obtain ⟨statement, parameters, made, sent⟩ := sent_of_selectAll read
  refine ⟨_, parameters, sent, fun rest => ?_⟩
  -- The statement is made once more, and it is the one that was sent.
  have remade : (compile database.dialect selection.statement).result rest = .ok statement := made
  rw [result_bind_ok _ remade]
  rfl

/-! ## Models -/

/-- The instance of the first of several rows, if there is one. -/
def firstInstance (model : Model) (row : Option Row) : Except Error (Option Instance) :=
  match row with
  | some row => (model.instanceOf row).map some
  | none => .ok none

/-- Where all rows become instances, the first row becomes the first of them. -/
theorem firstInstance_head?
    {model : Model}
    {rows : List Row}
    {instances : List Instance}
    (made : rows.mapM model.instanceOf = .ok instances) :
    firstInstance model rows.head? = .ok instances.head? := by
  cases rows with
  | nil =>
      cases made
      rfl
  | cons row rows =>
      obtain ⟨first, others, ok, _, rfl⟩ := mapM_cons_eq_ok.mp made
      rw [List.head?_cons, firstInstance, ok]
      rfl

/-- The first row of a query becomes the first instance where all rows become instances. -/
theorem readInstances
    (database : Database)
    (model : Model)
    (statement : Statement)
    (replies : List Reply) :
    (database.fetchOptional statement >>= fun row => ofExcept (firstInstance model row)).sent
        replies =
      (database.fetchAll statement >>= fun rows => ofExcept (rows.mapM model.instanceOf)).sent
        replies ∧
    ∀ instances,
      (database.fetchAll statement >>= fun rows => ofExcept (rows.mapM model.instanceOf)).result
        replies = .ok instances →
      (database.fetchOptional statement >>= fun row => ofExcept (firstInstance model row)).result
        replies = .ok instances.head? := by
  have first := database.fetch_readsFirst statement replies
  constructor
  · rw [sent_bind_ofExcept, sent_bind_ofExcept, first.sent_optional]
  · intro instances made
    rw [result_bind_ofExcept] at made
    obtain ⟨rows, read, made⟩ := bind_eq_ok.mp made
    rw [result_bind_ofExcept, first.optional_eq rows read]
    exact firstInstance_head? made

theorem get_eq (database : Database) (model : Model) (conditions : Conditions) :
    database.get model conditions =
      compile database.dialect (Statement.filter model.tableName conditions) >>= fun statement =>
        database.fetchOptional statement >>= fun row => ofExcept (firstInstance model row) := by
  unfold get
  congr
  funext statement
  congr
  funext row
  cases row <;> rfl

/-- The first instance that fits a filter is read by the same statement as all that do, and where
all are read it is the first of them. -/
theorem get_readsFirst
    (database : Database)
    (model : Model)
    (conditions : Conditions)
    (replies : List Reply) :
    (database.get model conditions).sent replies =
        (database.filter model conditions).sent replies ∧
      ∀ instances, (database.filter model conditions).result replies = .ok instances →
        (database.get model conditions).result replies = .ok instances.head? := by
  rw [get_eq]
  unfold filter
  cases made : (compile database.dialect (Statement.filter model.tableName conditions)).result
      replies with
  | error error =>
      rw [sent_bind_error _ made, sent_bind_error _ made, result_bind_error _ made]
      exact ⟨rfl, nofun⟩
  | ok statement =>
      rw [sent_bind_ok _ made, sent_bind_ok _ made, result_bind_ok _ made, result_bind_ok _ made]
      obtain ⟨sent_eq, first⟩ := database.readInstances model statement
        (compile database.dialect (Statement.filter model.tableName conditions) replies).2
      exact ⟨congrArg _ sent_eq, first⟩

/-- The first instance of a model that fits a filter, and the first row of a query or of a
selection, is read by the statement that reads all of them.  It is the first of all, and nothing
exactly where there are none.  A query or a selection that must have a row then fails with the
statement that it has sent, and it fails in the same way as the query or selection for all
rows. -/
theorem first_of_all (database : Database) (replies : List Reply) :
    (∀ model conditions,
      (database.get model conditions).sent replies =
          (database.filter model conditions).sent replies ∧
        ∀ instances, (database.filter model conditions).result replies = .ok instances →
          (database.get model conditions).result replies = .ok instances.head?) ∧
    (∀ selection asked, ReadsFirst (database.selectAll selection asked)
      (database.selectOptional selection asked) (database.selectOne selection asked) replies) ∧
    ∀ statement, ReadsFirst (database.fetchAll statement) (database.fetchOptional statement)
      (database.fetchOne statement) replies :=
  ⟨fun model conditions => database.get_readsFirst model conditions replies,
    fun selection asked => database.select_readsFirst selection asked replies,
    fun statement => database.fetch_readsFirst statement replies⟩

/-- A model of notes with a key only. -/
def noteModel : Model :=
  ⟨0, "Note", none, [⟨"id", .scalar .integer, .plain, none⟩]⟩

/-- Of two notes the first one is read, and of no notes none can be read. -/
theorem first_of_all_notes :
    (filter ⟨.engine, .sqlite, .empty⟩ noteModel []).result
        [.result 2 ⟨["id"], [[.int 1], [.int 2]]⟩] =
      .ok [⟨noteModel, [("id", .int 1)]⟩, ⟨noteModel, [("id", .int 2)]⟩] ∧
    (get ⟨.engine, .sqlite, .empty⟩ noteModel []).result
        [.result 2 ⟨["id"], [[.int 1], [.int 2]]⟩] =
      .ok (some ⟨noteModel, [("id", .int 1)]⟩) ∧
    ∃ statement parameters,
      (selectAll ⟨.engine, .sqlite, .empty⟩ ⟨[.model noteModel], some "Note", [], []⟩ []).sent
          [.result 0 ⟨["id"], []⟩] = [(statement, parameters)] ∧
        (selectOne ⟨.engine, .sqlite, .empty⟩ ⟨[.model noteModel], some "Note", [], []⟩ []).result
            [.result 0 ⟨["id"], []⟩] = .error (.zeroRows (.text statement)) := by
  obtain ⟨single, -, -⟩ := first_of_all ⟨.engine, .sqlite, .empty⟩
    [.result 2 ⟨["id"], [[.int 1], [.int 2]]⟩]
  obtain ⟨-, selected, -⟩ := first_of_all ⟨.engine, .sqlite, .empty⟩ [.result 0 ⟨["id"], []⟩]
  exact ⟨rfl, (single noteModel []).2 _ rfl,
    (selected ⟨[.model noteModel], some "Note", [], []⟩ []).one_fails rfl⟩

end Database
end BoundSql
