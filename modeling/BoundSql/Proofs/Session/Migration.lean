import BoundSql.Proofs.Model.Table
import BoundSql.Proofs.Session.Transaction

/-!
# Creating several tables

The tables of several models are created one model after the other.  The statements of a
model are the one that drops its table, if that is asked for, and the one that creates it,
which are both sent only when the schema of the model can be derived.

So what is sent is a part of the statements of all models, from the first one on.  It ends
with the first statement that the connection refuses, or before the first model whose
schema cannot be derived, and the call fails with the one that comes first.
-/

namespace BoundSql

/-- The reply of a connection to the statement at a place. -/
def replyAt (replies : List Reply) (place : Nat) : Reply :=
  replies.getD place .ordinary

/-- Whether a connection runs as many statements as are counted. -/
def RunsFirst (replies : List Reply) (count : Nat) : Prop :=
  ∀ place < count, ∃ cursor, (replyAt replies place).cursor = .ok cursor

theorem replyAt_drop (replies : List Reply) (count place : Nat) :
    replyAt (replies.drop count) place = replyAt replies (count + place) := by
  simp only [replyAt, List.getD_eq_getElem?_getD, List.getElem?_drop]

theorem replyAt_zero (replies : List Reply) : replyAt replies 0 = replies.headD .ordinary := by
  cases replies <;> rfl

theorem RunsFirst.add
    {replies : List Reply}
    {first second : Nat}
    (runs : RunsFirst replies first)
    (runsNext : RunsFirst (replies.drop first) second) :
    RunsFirst replies (first + second) := by
  intro place within
  rcases Nat.lt_or_ge place first with early | late
  · exact runs place early
  · obtain ⟨behind, rfl⟩ := Nat.exists_eq_add_of_le late
    rw [← replyAt_drop]
    exact runsNext behind (by omega)

namespace Exchange

variable {α β : Type} {planned others : List String} {ending : Except Error Unit}
  {replies : List Reply}

/-- Whether an exchange sends planned statements without parameters, one after the other.  If the
connection refuses one of them, it is the last one that is sent, and the exchange fails with it.
Otherwise all of them are sent and the exchange ends as given. -/
inductive Sends (planned : List String) (ending : Except Error Unit) (exchange : Exchange α)
    (replies : List Reply) : Prop
  | refused (place : Nat) (error : Error) :
      place < planned.length →
      RunsFirst replies place →
      (replyAt replies place).cursor = .error error →
      exchange.sent replies = (planned.take (place + 1)).map (·, []) →
      exchange.result replies = .error error →
      Sends planned ending exchange replies
  | finished :
      RunsFirst replies planned.length →
      exchange.sent replies = planned.map (·, []) →
      (exchange.result replies).map (fun _ => ()) = ending →
      (exchange replies).2 = replies.drop planned.length →
      Sends planned ending exchange replies

namespace Sends

/-- What is sent is a part of what is planned, from its beginning on. -/
theorem isPrefix
    {exchange : Exchange α}
    (sends : exchange.Sends planned ending replies) :
    exchange.sent replies <+: planned.map (·, []) := by
  cases sends with
  | refused place error _ _ _ sent _ =>
      rw [sent]
      exact (List.take_prefix _ _).map _
  | finished _ sent _ _ => exact sent ▸ List.prefix_rfl

/-- What computes a result without an exchange sends nothing. -/
theorem ofExcept (result : Except Error α) (replies : List Reply) :
    (ofExcept result).Sends [] (result.map fun _ => ()) replies :=
  .finished nofun rfl rfl rfl

/-- A report sends nothing. -/
theorem log (entry : LogEntry) (replies : List Reply) :
    (log entry).Sends [] (.ok ()) replies :=
  .finished nofun rfl rfl rfl

/-- After statements that are planned and run come those of the rest. -/
theorem bind
    {first : Exchange α}
    {next : α → Exchange β}
    (sends : first.Sends planned (.ok ()) replies)
    (sendsNext : ∀ value, (next value).Sends others ending (replies.drop planned.length)) :
    (first >>= next).Sends (planned ++ others) ending replies := by
  cases sends with
  | refused place error within runs refuses sent failed =>
      refine .refused place error ?_ runs refuses ?_ (result_bind_error next failed)
      · rw [List.length_append]
        omega
      · rw [sent_bind_error next failed, sent, List.take_append_of_le_length (by omega)]
  | finished runs sent succeeded rest =>
      obtain ⟨value, ok, _⟩ := map_eq_ok.mp succeeded
      have continued := sendsNext value
      rw [← rest] at continued
      cases continued with
      | refused place error within runsNext refuses sentNext failed =>
          rw [rest] at runsNext refuses
          refine .refused (planned.length + place) error ?_ (runs.add runsNext) ?_ ?_ ?_
          · rw [List.length_append]
            omega
          · rw [← replyAt_drop]
            exact refuses
          · rw [sent_bind_ok next ok, sent, sentNext, Nat.add_assoc, List.take_length_add_append,
              List.map_append]
          · rw [result_bind_ok next ok]
            exact failed
      | finished runsNext sentNext succeededNext restNext =>
          rw [rest] at runsNext
          refine .finished ?_ ?_ ?_ ?_
          · rw [List.length_append]
            exact runs.add runsNext
          · rw [sent_bind_ok next ok, sent, sentNext, List.map_append]
          · rw [result_bind_ok next ok]
            exact succeededNext
          · rw [bind_apply_ok next ok, restNext, rest, List.drop_drop, List.length_append]

/-- Statements after which an exchange fails are all that is planned for it. -/
theorem bind_error
    {first : Exchange α}
    {error : Error}
    (sends : first.Sends planned (.error error) replies)
    (next : α → Exchange β) :
    (first >>= next).Sends planned (.error error) replies := by
  cases sends with
  | refused place failure within runs refuses sent failed =>
      exact .refused place failure within runs refuses ((sent_bind_error next failed).trans sent)
        (result_bind_error next failed)
  | finished runs sent ended rest =>
      have failed := map_eq_error.mp ended
      refine .finished runs ((sent_bind_error next failed).trans sent) ?_ ?_
      · rw [result_bind_error next failed]
        rfl
      · rw [bind_apply_error next failed]
        exact rest

end Sends
end Exchange

namespace Model

variable {model : Model} {dialect : Dialect}

/-- The statement that drops the table of a model. -/
def dropText (dialect : Dialect) (model : Model) : String :=
  (Statement.dropTable model.tableName).text dialect

/-- The statements of a model: the one that drops its table, if that is asked for, and the one that
creates it, if its schema can be derived. -/
def migration (dialect : Dialect) (recreate : Bool) (model : Model) : List String :=
  (if recreate then [model.dropText dialect] else []) ++
    ((model.schema dialect).toOption.map TableSchema.ddl).toList

theorem dropText_eq (dialect : Dialect) (model : Model) :
    model.dropText dialect = "drop table if exists " ++ model.tableName ++ ";" :=
  Statement.text_ofText dialect _

/-- A schema creates the table of its model. -/
theorem exists_of_schema_eq_ok
    {schema : TableSchema}
    (derived : model.schema dialect = .ok schema) :
    schema.table = model.tableName ∧
      ∃ definitions, schema.ddl = TableSchema.createText model.tableName definitions := by
  obtain ⟨definitions, lists⟩ := schema_eq_ok_iff.mp derived
  exact ⟨lists.table_eq, definitions.map Column.Parts.text, lists.ddl_eq⟩

/-- Models whose schemas can be derived, from the first of all models on, come before each one whose
schema cannot be derived. -/
theorem isPrefix_of_derivable
    {before rest earlier later : List Model}
    {error : Error}
    (derivable : ∀ model ∈ before, ∃ schema, model.schema dialect = .ok schema)
    (underivable : model.schema dialect = .error error)
    (same : before ++ rest = earlier ++ model :: later) :
    before <+: earlier := by
  rcases List.append_eq_append_iff.mp same with ⟨between, rfl, _⟩ | ⟨more, rfl, heads⟩
  · exact List.prefix_append _ _
  · cases more with
    | nil => exact (List.append_nil earlier).symm ▸ List.prefix_rfl
    | cons head more =>
        obtain ⟨rfl, _⟩ := List.cons.inj heads
        obtain ⟨schema, derived⟩ := derivable model
          (List.mem_append_right _ List.mem_cons_self)
        cases derived.symm.trans underivable

/-- A model whose schema can be derived has a statement that creates its table. -/
theorem migration_of_schema_eq_ok
    {schema : TableSchema}
    (derived : model.schema dialect = .ok schema)
    (recreate : Bool) :
    model.migration dialect recreate =
      (if recreate then [model.dropText dialect] else []) ++ [schema.ddl] := by
  rw [migration, derived]
  rfl

/-- A model whose schema cannot be derived has none. -/
theorem migration_of_schema_eq_error
    {error : Error}
    (underivable : model.schema dialect = .error error)
    (recreate : Bool) :
    model.migration dialect recreate = if recreate then [model.dropText dialect] else [] := by
  rw [migration, underivable]
  exact List.append_nil _

/-- A text that drops a table creates none. -/
theorem drop_ne_create (table other columns : String) :
    "drop table if exists " ++ table ++ ";" ≠
      "create table if not exists " ++ other ++ " (" ++ columns ++ ");" := by
  intro same
  have first := congrArg (fun text => text.toList.head?) same
  simp at first

/-- A statement of a model that drops a table drops its own. -/
theorem tableName_eq_of_dropText_mem
    {other : Model}
    {recreate : Bool}
    (drops : model.dropText dialect ∈ other.migration dialect recreate) :
    other.tableName = model.tableName := by
  have dropsOwn : (model.dropText dialect ∈ if recreate then [other.dropText dialect] else []) →
      other.tableName = model.tableName := by
    intro own
    split at own
    · have same := List.mem_singleton.mp own
      rw [dropText_eq, dropText_eq, String.append_left_inj, String.append_right_inj] at same
      exact same.symm
    · exact absurd own List.not_mem_nil
  cases derived : other.schema dialect with
  | error error =>
      rw [migration_of_schema_eq_error derived] at drops
      exact dropsOwn drops
  | ok schema =>
      rw [migration_of_schema_eq_ok derived] at drops
      rcases List.mem_append.mp drops with own | creates
      · exact dropsOwn own
      · obtain ⟨_, definitions, ddl_eq⟩ := exists_of_schema_eq_ok derived
        rw [dropText_eq, ddl_eq] at creates
        exact absurd (List.mem_singleton.mp creates) (drop_ne_create _ _ _)

end Model

namespace Database

variable {database : Database} {replies : List Reply}

/-- A statement without arguments is sent by itself. -/
theorem execute_sends (database : Database) (text : String) (replies : List Reply) :
    (database.execute (Statement.ofText text)).Sends [text] (.ok ()) replies := by
  have decoded : (Statement.ofText text).bound = .ok [] := rfl
  have logged := Exchange.Sends.log
    (.executing ((Statement.ofText text).text database.dialect) 0) replies
  refine logged.bind fun _ => ?_
  let take : Cursor → Except Error Int := fun cursor => .ok cursor.rowCount
  have result : (database.send (Statement.ofText text) take).result replies =
      (replies.headD .ordinary).cursor >>= take := by
    rw [Exchange.result, send, Exchange.result_within, sending_apply decoded]
  have sent : (database.send (Statement.ofText text) take).sent replies = [(text, [])] := by
    rw [send, Exchange.sent_within, Exchange.sent, sending_apply decoded, Statement.text_ofText]
    rfl
  have rest : (database.send (Statement.ofText text) take replies).2 = replies.drop 1 := by
    rw [send, Exchange.rest_within, sending_apply decoded, List.drop_one]
  rw [← replyAt_zero] at result
  change (database.send (Statement.ofText text) take).Sends [text] (.ok ()) replies
  cases outcome : (replyAt replies 0).cursor with
  | error error =>
      rw [outcome] at result
      have none : RunsFirst replies 0 := fun _ within => absurd within (Nat.not_lt_zero _)
      exact .refused 0 error Nat.one_pos none outcome sent result
  | ok cursor =>
      rw [outcome] at result
      refine .finished ?_ sent ?_ rest
      · intro place first
        rw [Nat.lt_one_iff.mp first]
        exact ⟨cursor, outcome⟩
      · rw [result]
        rfl

/-- A model whose schema cannot be derived is migrated by no statement. -/
theorem migrate_sends_of_error
    {model : Model}
    {error : Error}
    (underivable : model.schema database.dialect = .error error)
    (recreate : Bool)
    (replies : List Reply) :
    (database.migrate model recreate).Sends [] (.error error) replies := by
  have failed := Exchange.Sends.ofExcept (model.schema database.dialect) replies
  rw [underivable] at failed
  rw [migrate, underivable]
  exact failed.bind_error _

/-- A model whose schema can be derived is migrated by its own statements. -/
theorem migrate_sends
    {model : Model}
    {schema : TableSchema}
    (derived : model.schema database.dialect = .ok schema)
    (recreate : Bool)
    (replies : List Reply) :
    (database.migrate model recreate).Sends (model.migration database.dialect recreate) (.ok ())
      replies := by
  have created : ∀ replies, (do
      let _ ← database.execute (Statement.ofText schema.ddl)
      Exchange.log (.migrated schema.table) : Exchange Unit).Sends [schema.ddl] (.ok ()) replies :=
    fun replies => (database.execute_sends schema.ddl replies).bind fun _ => .log _ _
  rw [Model.migration_of_schema_eq_ok derived, migrate, derived]
  cases recreate with
  | false => exact created replies
  | true =>
      have dropped := database.execute_sends
        ("drop table if exists " ++ schema.table ++ ";") replies
      have text_eq : "drop table if exists " ++ schema.table ++ ";" =
          model.dropText database.dialect := by
        rw [(Model.exists_of_schema_eq_ok derived).1, Model.dropText_eq]
      rw [if_pos rfl, ← text_eq]
      exact dropped.bind fun _ => created _

/-- The models whose tables are created: the given ones, or all registered ones if none are
given. -/
def listed (database : Database) (models : List Model) : List Model :=
  if models.isEmpty then database.registry.models else models

/-- How the creation of tables ends before the models that are left: it is done if there are none,
and fails with the first one if its schema cannot be derived. -/
inductive EndsBefore (dialect : Dialect) : List Model → Except Error Unit → Prop
  | done : EndsBefore dialect [] (.ok ())
  | underivable {model : Model} {error : Error} (others : List Model) :
      model.schema dialect = .error error →
      EndsBefore dialect (model :: others) (.error error)

/-- The models before the first one whose schema cannot be derived are migrated, each by its own
statements. -/
theorem migrateEach_sends (database : Database) (recreate : Bool) (models : List Model) :
    ∃ before rest ending, models = before ++ rest ∧
      (∀ model ∈ before, ∃ schema, model.schema database.dialect = .ok schema) ∧
      EndsBefore database.dialect rest ending ∧
      ∀ replies, (database.migrateEach recreate models).Sends
        (before.flatMap (Model.migration database.dialect recreate)) ending replies := by
  induction models with
  | nil => exact ⟨[], [], .ok (), rfl, nofun, .done, .ofExcept (.ok ())⟩
  | cons model models sends =>
      cases derived : model.schema database.dialect with
      | error error =>
          exact ⟨[], model :: models, .error error, rfl, nofun, .underivable models derived,
            fun replies => (migrate_sends_of_error derived recreate replies).bind_error _⟩
      | ok schema =>
          obtain ⟨before, rest, ending, rfl, derivable, ends, sendsRest⟩ := sends
          exact ⟨model :: before, rest, ending, rfl,
            List.forall_mem_cons.mpr ⟨⟨schema, derived⟩, derivable⟩, ends, fun replies =>
              (migrate_sends derived recreate replies).bind fun _ => sendsRest _⟩

/-- What is sent for several models is a part of their statements, from the first one on.  It ends
with the first statement that is refused, or before the first model whose schema cannot be derived,
and the call fails with the one that comes first.  So nothing is sent for a model whose schema
cannot be derived, and its table is dropped only if it is the table of a model before it too. -/
theorem migrateAll_sends (database : Database) (models : List Model) (recreate : Bool) :
    ∃ before rest ending, database.listed models = before ++ rest ∧
      (∀ model ∈ before, ∃ schema, model.schema database.dialect = .ok schema) ∧
      EndsBefore database.dialect rest ending ∧
      ∀ replies,
        (database.migrateAll models recreate).Sends
          (before.flatMap (Model.migration database.dialect recreate)) ending replies ∧
        (database.migrateAll models recreate).sent replies <+:
          ((database.listed models).flatMap (Model.migration database.dialect recreate)).map
            (·, []) ∧
        ∀ earlier model later error, database.listed models = earlier ++ model :: later →
          model.schema database.dialect = .error error →
          (database.migrateAll models recreate).sent replies <+:
            (earlier.flatMap (Model.migration database.dialect recreate)).map (·, []) ∧
          ((model.dropText database.dialect, []) ∈
              (database.migrateAll models recreate).sent replies →
            ∃ other ∈ earlier, other.tableName = model.tableName ∧
              ∃ schema, other.schema database.dialect = .ok schema) := by
  obtain ⟨before, rest, ending, listed_eq, derivable, ends, sends⟩ :=
    database.migrateEach_sends recreate (database.listed models)
  refine ⟨before, rest, ending, listed_eq, derivable, ends, fun replies =>
    ⟨sends replies, ?_, fun earlier model later error split underivable => ?_⟩⟩
  · refine (sends replies).isPrefix.trans ?_
    rw [listed_eq, List.flatMap_append, List.map_append]
    exact List.prefix_append _ _
  · obtain ⟨between, rfl⟩ := Model.isPrefix_of_derivable derivable underivable
      (listed_eq.symm.trans split)
    have sentBefore := (sends replies).isPrefix
    rw [List.flatMap_append, List.map_append]
    refine ⟨sentBefore.trans (List.prefix_append _ _), fun drops => ?_⟩
    obtain ⟨text, own, same⟩ := List.mem_map.mp (sentBefore.subset drops)
    obtain ⟨other, member, ownText⟩ := List.mem_flatMap.mp own
    cases same
    exact ⟨other, List.mem_append_left _ member, Model.tableName_eq_of_dropText_mem ownText,
      derivable other member⟩

/-- A model of notes. -/
def note : Model :=
  ⟨0, "Note", none,
    [⟨"id", .scalar .integer, { ColumnOptions.plain with primaryKey := true }, none⟩]⟩

/-- A model of tags, which have no key. -/
def tag : Model :=
  ⟨1, "Tag", none, [⟨"text", .scalar .text, .plain, none⟩]⟩

/-- The table of notes is created anew, and that of tags behind it is not dropped. -/
theorem migrateAll_sends_keyless :
    (∃ error, tag.schema .sqlite = .error error) ∧
      (Database.migrateAll ⟨.engine, .sqlite, .empty⟩ [note, tag] true).sent [] =
        [("drop table if exists Note;", []),
          ("create table if not exists Note (id integer primary key);", [])] ∧
      (tag.dropText .sqlite, []) ∉
        (Database.migrateAll ⟨.engine, .sqlite, .empty⟩ [note, tag] true).sent [] := by
  refine ⟨⟨_, rfl⟩, rfl, fun dropped => ?_⟩
  obtain ⟨_, _, _, _, _, _, sends⟩ :=
    migrateAll_sends ⟨.engine, .sqlite, .empty⟩ [note, tag] true
  obtain ⟨_, _, notForTags⟩ := sends []
  obtain ⟨other, member, sameTable, _⟩ := (notForTags [note] tag [] _ rfl rfl).2 dropped
  rw [List.mem_singleton.mp member] at sameTable
  exact absurd sameTable (by decide)

end Database
end BoundSql
