import BoundSql.Proofs.Model.Table
import BoundSql.Proofs.Session.Migration

/-!
# Keys that the database makes up

The clause of a key that the database makes up is the only part of a schema that depends on
the dialect, and the only one that is written without a look at the type of its field.

So the schemas of a model in all dialects are the same but for that clause, or none can be
derived and the error is the same.  And a field of a type that is not supported leaves its
model without a schema unless it is such a key.  If it is one, the schema is that of the
same model with a key of whole numbers.
-/

namespace BoundSql

/-! ## The dialect of a schema -/

namespace Column

variable {column : Column}

/-- Behind its key clause the definition of a key that the database makes up does not depend on the
dialect. -/
theorem exists_definition_of_autoKey (auto : column.isAutoKey = true) :
    ∃ options : Except SchemaFault (List String), ∀ dialect, column.definition dialect =
      options.map fun tokens =>
        " ".intercalate (column.name :: autoKeyClause dialect :: tokens) := by
  let unique := if column.options.unique then ["unique"] else []
  let required := !column.nullable && !column.options.primaryKey
  refine ⟨do
    let default ← column.defaultClause
    let reference ← column.referenceClause
    pure (unique ++ default ++ (if required then ["not null"] else []) ++ reference),
    fun dialect => ?_⟩
  rw [definition, tokens, typeClause, if_pos auto]
  cases column.defaultClause with
  | error fault => rfl
  | ok default =>
      cases column.referenceClause with
      | error fault => rfl
      | ok reference => rfl

/-- The definition of any other column does not depend on it at all. -/
theorem definition_of_not_autoKey
    (notAuto : column.isAutoKey = false)
    (first second : Dialect) :
    column.definition first = column.definition second := by
  simp only [definition, tokens, typeClause, notAuto, Bool.false_eq_true, if_false]

end Column

/-- Whether what is derived for a table in each dialect is the same in all of them, but for the key
clause of one field, which is a key that the database makes up. -/
inductive SameButKeyClause {ε : Type} (table : String) (fields : List Field)
    (derived : Dialect → Except ε TableSchema) : Prop
  | underivable (error : ε) :
      (∀ dialect, derived dialect = .error error) → SameButKeyClause table fields derived
  | same (schema : TableSchema) :
      schema.table = table →
      (∀ dialect, derived dialect = .ok schema) → SameButKeyClause table fields derived
  | autoKey (key : Field) (earlier tokens later : List String) :
      key ∈ fields → key.options.primaryKey = true → key.options.auto = true →
      (∀ dialect, derived dialect = .ok ⟨table, key.name, TableSchema.createText table
        (earlier ++ " ".intercalate (key.name :: Column.autoKeyClause dialect :: tokens) ::
          later)⟩) →
      SameButKeyClause table fields derived

namespace SameButKeyClause

variable {ε δ : Type} {table : String} {fields : List Field}
  {derived : Dialect → Except ε TableSchema}

/-- Changing all errors keeps what is derived the same in all dialects. -/
theorem mapError
    (same : SameButKeyClause table fields derived)
    (change : ε → δ) :
    SameButKeyClause table fields fun dialect => (derived dialect).mapError change := by
  cases same with
  | underivable error fails =>
      exact .underivable (change error) fun dialect => fails dialect ▸ rfl
  | same schema table_eq derives =>
      exact .same schema table_eq fun dialect => mapError_eq_ok.mpr (derives dialect)
  | autoKey key earlier tokens later member primary auto derives =>
      exact .autoKey key earlier tokens later member primary auto fun dialect =>
        mapError_eq_ok.mpr (derives dialect)

/-- The name of the key is the same in all dialects, and so is the error if there is none. -/
theorem map_key_eq
    (same : SameButKeyClause table fields derived)
    (first second : Dialect) :
    (derived first).map TableSchema.key = (derived second).map TableSchema.key := by
  cases same with
  | underivable error fails => rw [fails, fails]
  | same schema _ derives => rw [derives, derives]
  | autoKey key _ _ _ _ _ _ derives =>
      rw [derives, derives]
      rfl

end SameButKeyClause

/-- Columns of which only the first key may be made up have the same definitions in all dialects but
for its clause. -/
theorem sameButKeyClause_of_columns
    {table : String}
    {fields : List Field}
    {columns : List Column}
    {key : Column}
    (made : fields.mapM Column.ofField = .ok columns)
    (only : columns.filter (·.options.primaryKey) = [key]) :
    SameButKeyClause table fields fun dialect =>
      (columns.mapM (Column.definition dialect)).map fun definitions =>
        ⟨table, key.name, TableSchema.createText table definitions⟩ := by
  obtain ⟨before, after, rfl, noneBefore, primary, noneAfter⟩ := List.filter_eq_cons_iff.mp only
  -- Only the key can be made up, so nothing before or behind it depends on the dialect.
  have notAuto {column : Column} (notPrimary : ¬column.options.primaryKey = true) :
      column.isAutoKey = false := by
    rw [Column.isAutoKey, Bool.eq_false_of_not_eq_true notPrimary, Bool.false_and]
  have sameBefore (dialect : Dialect) : before.mapM (Column.definition dialect) =
      before.mapM (Column.definition .ordinary) := mapM_congr fun column member =>
    Column.definition_of_not_autoKey (notAuto (noneBefore column member)) _ _
  have sameAfter (dialect : Dialect) : after.mapM (Column.definition dialect) =
      after.mapM (Column.definition .ordinary) := mapM_congr fun column member =>
    Column.definition_of_not_autoKey
      (notAuto (List.filter_eq_nil_iff.mp noneAfter column member)) _ _
  simp only [List.mapM_append, List.mapM_cons, sameBefore, sameAfter]
  cases before.mapM (Column.definition .ordinary) with
  | error fault => exact .underivable fault fun _ => rfl
  | ok earlier =>
      cases auto : key.isAutoKey with
      | false =>
          simp only [Column.definition_of_not_autoKey auto _ .ordinary]
          cases key.definition .ordinary with
          | error fault => exact .underivable fault fun _ => rfl
          | ok own =>
              cases after.mapM (Column.definition .ordinary) with
              | error fault => exact .underivable fault fun _ => rfl
              | ok later => exact .same _ rfl fun _ => rfl
      | true =>
          obtain ⟨options, ofKey⟩ := Column.exists_definition_of_autoKey auto
          simp only [ofKey]
          cases options with
          | error fault => exact .underivable fault fun _ => rfl
          | ok tokens =>
              cases after.mapM (Column.definition .ordinary) with
              | error fault => exact .underivable fault fun _ => rfl
              | ok later =>
                  obtain ⟨field, member, ofField⟩ := exists_of_mem_mapM made
                    (List.mem_append_right before List.mem_cons_self)
                  obtain ⟨type, nullable, _, rfl⟩ := Column.ofField_eq_ok_iff.mp ofField
                  have madeUp := (Bool.and_eq_true_iff.mp auto).2
                  exact .autoKey field earlier tokens later member primary madeUp fun _ => rfl

/-- The schemas of a table in all dialects are the same but for the clause of a key that the
database makes up. -/
theorem TableSchema.sameButKeyClause (table : String) (fields : List Field) :
    SameButKeyClause table fields fun dialect => ofFields dialect table fields := by
  unfold ofFields
  cases made : fields.mapM Column.ofField with
  | error fault => exact .underivable fault fun _ => rfl
  | ok columns =>
      cases empty : columns.isEmpty with
      | true =>
          refine .underivable .noFields fun _ => bind_eq_error.mpr (.inr ⟨columns, rfl, ?_⟩)
          dsimp only
          rw [if_pos empty]
          rfl
      | false =>
          simp only [bind, Except.bind, empty]
          cases only : Column.key columns with
          | error fault => exact .underivable fault fun _ => rfl
          | ok key =>
              exact sameButKeyClause_of_columns made (Column.key_eq_ok_iff.mp only)

namespace Model

variable {model : Model}

/-- The schemas of a model in all dialects are the same but for the clause of a key that the
database makes up. -/
theorem sameButKeyClause (model : Model) :
    SameButKeyClause model.tableName model.fields fun dialect => model.schema dialect :=
  (TableSchema.sameButKeyClause model.tableName model.fields).mapError model.blame

/-- The name of the key of a model is that of its schema in each dialect. -/
theorem map_key_schema (model : Model) (dialect : Dialect) :
    (model.schema dialect).map TableSchema.key = model.primaryKey :=
  model.sameButKeyClause.map_key_eq dialect .ordinary

/-- The schemas of a model in all dialects are the same but for the clause of a key that the
database makes up, or none can be derived and the error is the same.  So the name of the key, which
no dialect is given for, is that of the only key of the table that is created for the model in any
database, and where there is no such name, nothing is sent. -/
theorem schema_sameButKeyClause (model : Model) :
    SameButKeyClause model.tableName model.fields (fun dialect => model.schema dialect) ∧
    (∀ dialect, (model.schema dialect).map TableSchema.key = model.primaryKey) ∧
    (∀ error, model.primaryKey = .error error →
      ∀ (database : Database) recreate replies,
        (database.migrate model recreate).Sends [] (.error error) replies) ∧
    (∀ key, model.primaryKey = .ok key →
      ∀ database : Database, ∃ (schema : TableSchema) (definitions : List Column.Parts),
        schema.Lists database.dialect model definitions ∧ schema.key = key ∧
        ∀ recreate replies, (database.migrate model recreate).Sends
          ((if recreate then [model.dropText database.dialect] else []) ++ [schema.ddl]) (.ok ())
          replies) := by
  refine ⟨model.sameButKeyClause, model.map_key_schema, fun error keyless database => ?_,
    fun key named database => ?_⟩
  · have underivable := map_eq_error.mp ((model.map_key_schema database.dialect).trans keyless)
    exact fun recreate replies => database.migrate_sends_of_error underivable recreate replies
  · obtain ⟨schema, derived, key_eq⟩ :=
      map_eq_ok.mp ((model.map_key_schema database.dialect).trans named)
    obtain ⟨definitions, lists⟩ := schema_eq_ok_iff.mp derived
    refine ⟨schema, definitions, lists, key_eq, fun recreate replies => ?_⟩
    rw [← migration_of_schema_eq_ok derived recreate]
    exact database.migrate_sends derived recreate replies

/-- A model of tickets, whose numbers the database makes up. -/
def ticket : Model :=
  ⟨0, "Ticket", none,
    [⟨"title", .scalar .text, .plain, none⟩,
      ⟨"id", .scalar .integer, { ColumnOptions.plain with primaryKey := true, auto := true },
        none⟩]⟩

/-- The numbers of tickets are the key of their table in each database. -/
theorem schema_sameButKeyClause_ticket :
    (ticket.schema .sqlite).map TableSchema.ddl = .ok ("create table if not exists Ticket " ++
        "(title varchar(255) not null, id integer primary key autoincrement);") ∧
      (ticket.schema .postgres).map TableSchema.ddl = .ok ("create table if not exists Ticket " ++
        "(title varchar(255) not null, id serial primary key);") ∧
      ticket.primaryKey = .ok "id" ∧
      ∀ database : Database, ∃ (schema : TableSchema) (definitions : List Column.Parts),
        schema.Lists database.dialect ticket definitions ∧ schema.key = "id" ∧
        ∀ recreate replies, (database.migrate ticket recreate).Sends
          ((if recreate then [ticket.dropText database.dialect] else []) ++ [schema.ddl]) (.ok ())
          replies :=
  ⟨rfl, rfl, rfl, (schema_sameButKeyClause ticket).2.2.2 "id" rfl⟩

end Model

/-! ## Types that are not supported -/

/-- The scalar types whose values are stored. -/
inductive ScalarType.Supported : ScalarType → Prop
  | integer : Supported .integer
  | real : Supported .real
  | boolean : Supported .boolean
  | text : Supported .text
  | date : Supported .date
  | datetime : Supported .datetime
  | enumerated {type : EnumerationType} :
      type.enumeration.carrier ≠ .plain → Supported (.enumerated type)

theorem ScalarType.supported_iff {type : ScalarType} :
    type.Supported ↔ ∃ storage, type.storage? = some storage := by
  constructor
  · intro supported
    cases supported with
    | @enumerated type carries =>
        cases carrier : type.enumeration.carrier with
        | plain => exact absurd carrier carries
        | _ => exact ⟨_, by rw [storage?, carrier]⟩
    | _ => exact ⟨_, rfl⟩
  · rintro ⟨storage, stored⟩
    cases type with
    | integer => exact .integer
    | real => exact .real
    | boolean => exact .boolean
    | text => exact .text
    | date => exact .date
    | datetime => exact .datetime
    | enumerated type =>
        refine .enumerated fun plain => ?_
        rw [storage?, plain] at stored
        cases stored
    | _ => cases stored

/-- Whether a type is one of values that are stored, or such a type and nothing. -/
def FieldType.Supported (type : FieldType) : Prop :=
  ∃ scalar : ScalarType, scalar.Supported ∧
    type.members.filter (fun form => !form.isNone) = [.scalar scalar]

/-- A scalar type by itself is supported as a type exactly when it is as a scalar type. -/
theorem FieldType.supported_scalar_iff {scalar : ScalarType} :
    (FieldType.scalar scalar).Supported ↔ scalar.Supported := by
  constructor
  · rintro ⟨other, supported, others⟩
    have member : TypeForm.scalar other ∈ (FieldType.scalar scalar).members :=
      (List.mem_filter.mp (others ▸ List.mem_singleton_self _)).1
    cases List.mem_singleton.mp member
    exact supported
  · intro supported
    refine ⟨scalar, supported, ?_⟩
    cases supported <;> rfl

/-- A type is supported if it is a supported scalar type or an optional one. -/
theorem FieldType.supported_of_scalar?
    {type : FieldType}
    {scalar : ScalarType}
    {nullable : Bool}
    (known : type.scalar? = some (scalar, nullable))
    (supported : scalar.Supported) :
    type.Supported := by
  refine ⟨scalar, supported, ?_⟩
  unfold scalar? at known
  split at known
  next inner members =>
    cases known
    rw [members]
    cases supported <;> rfl
  next =>
    split at known
    next inner others =>
      cases known
      exact others
    next => cases known

namespace Field

variable {field : Field} {dialect : Dialect} {parts : Column.Parts}

/-- Whether a field is a key that the database makes up, of a scalar type or an optional one. -/
structure IsAutoKey (field : Field) : Prop where
  primary : field.options.primaryKey = true
  auto : field.options.auto = true
  isScalar : field.type.scalar?.isSome = true

/-- Only keys that the database makes up have definitions without a type that is supported. -/
theorem Defines.supported_or
    (defines : field.Defines dialect parts) :
    field.type.Supported ∨ field.IsAutoKey := by
  obtain ⟨type, nullable, known, of⟩ := defines
  rcases of.clause.exists_storage_or with stored | ⟨primary, auto⟩
  · exact .inl (FieldType.supported_of_scalar? known (ScalarType.supported_iff.mpr stored))
  · exact .inr ⟨primary, auto, Option.isSome_iff_exists.mpr ⟨_, known⟩⟩

/-- The field with whole numbers for its type. -/
def asInteger (field : Field) : Field :=
  { field with type := .scalar .integer }

end Field

namespace Column

variable {column : Column}

/-- The column with whole numbers for its type. -/
def asInteger (column : Column) : Column :=
  { column with type := .integer, nullable := false }

/-- The definition of a key that the database makes up is that of one of whole numbers, unless its
type is supported. -/
theorem definition_asInteger
    (auto : column.isAutoKey = true)
    (unsupported : column.type.storage? = none)
    (dialect : Dialect) :
    column.asInteger.definition dialect = column.definition dialect := by
  have primary : column.options.primaryKey = true := (Bool.and_eq_true_iff.mp auto).1
  have autoToo : column.asInteger.isAutoKey = true := auto
  -- A default is written the same for whole numbers and for a type whose values are not stored:
  -- neither has a current time, and neither is one of truth values.
  have sameDefault (value : Value) :
      column.asInteger.defaultText value = column.defaultText value := by
    simp only [defaultText, nowDefault, isBoolean, unsupported]
    rfl
  have sameClause : column.asInteger.defaultClause = column.defaultClause := by
    simp only [defaultClause, sameDefault]
    rfl
  rw [definition, definition, tokens, tokens, typeClause, typeClause, if_pos auto, if_pos autoToo,
    sameClause]
  simp only [asInteger, primary, Bool.not_true, Bool.and_false]
  rfl

theorem key_eq_error
    {columns : List Column}
    (notOne : (columns.filter (·.options.primaryKey)).length ≠ 1) :
    key columns = .error (.keyCount (columns.filter (·.options.primaryKey)).length) := by
  unfold key
  split
  next only =>
    rw [only] at notOne
    exact absurd rfl notOne
  next => rfl

/-- A key is the only one among given columns, whichever column it is, or it never is. -/
theorem key_only_or (earlier later : List Column) :
    (∀ column : Column, column.options.primaryKey = true →
        key (earlier ++ column :: later) = .ok column) ∨
      ∃ fault, ∀ column : Column, column.options.primaryKey = true →
        key (earlier ++ column :: later) = .error fault := by
  have kept (column : Column) (primary : column.options.primaryKey = true) :
      (earlier ++ column :: later).filter (·.options.primaryKey) =
        earlier.filter (·.options.primaryKey) ++ column :: later.filter (·.options.primaryKey) := by
    rw [List.filter_append, List.filter_cons, if_pos primary]
  generalize earlier.filter (·.options.primaryKey) = before at kept
  generalize later.filter (·.options.primaryKey) = after at kept
  by_cases alone : before = [] ∧ after = []
  · obtain ⟨rfl, rfl⟩ := alone
    exact .inl fun column primary => key_eq_ok_iff.mpr (kept column primary)
  · refine .inr ⟨.keyCount (before.length + (after.length + 1)), fun column primary => ?_⟩
    have counted := congrArg List.length (kept column primary)
    rw [List.length_append, List.length_cons] at counted
    rw [key_eq_error ?_, counted]
    intro one
    exact alone ⟨List.length_eq_zero_iff.mp (by omega), List.length_eq_zero_iff.mp (by omega)⟩

end Column

/-- A table has the same schema with a key of whole numbers for one that the database makes up and
whose type is not supported. -/
theorem TableSchema.ofFields_asInteger
    {field : Field}
    (autoKey : field.IsAutoKey)
    (unsupported : ¬field.type.Supported)
    (dialect : Dialect)
    (table : String)
    (before after : List Field) :
    ofFields dialect table (before ++ field.asInteger :: after) =
      ofFields dialect table (before ++ field :: after) := by
  obtain ⟨⟨type, nullable⟩, known⟩ := Option.isSome_iff_exists.mp autoKey.isScalar
  let column : Column := ⟨field.name, type, nullable, field.options⟩
  have made : Column.ofField field = .ok column :=
    Column.ofField_eq_ok_iff.mpr ⟨type, nullable, known, rfl⟩
  have madeInteger : Column.ofField field.asInteger = .ok column.asInteger := rfl
  have notStored : column.type.storage? = none := by
    refine Option.eq_none_iff_forall_ne_some.mpr fun storage stored => unsupported ?_
    exact FieldType.supported_of_scalar? known (ScalarType.supported_iff.mpr ⟨storage, stored⟩)
  have madeUp : column.isAutoKey = true :=
    Bool.and_eq_true_iff.mpr ⟨autoKey.primary, autoKey.auto⟩
  have sameDefinition := Column.definition_asInteger madeUp notStored dialect
  unfold ofFields
  simp only [List.mapM_append, List.mapM_cons, made, madeInteger]
  cases before.mapM Column.ofField with
  | error fault => rfl
  | ok earlier =>
      cases after.mapM Column.ofField with
      | error fault => rfl
      | ok later =>
          have notEmpty (key : Column) : (earlier ++ key :: later).isEmpty = false := by
            cases earlier <;> rfl
          simp only [bind, Except.bind, pure, Except.pure, notEmpty, Bool.false_eq_true, if_false]
          -- Which column is the key does not depend on its type.
          rcases Column.key_only_or earlier later with only | ⟨fault, several⟩
          · rw [only column autoKey.primary, only column.asInteger autoKey.primary]
            simp only [List.mapM_append, List.mapM_cons, sameDefinition]
            rfl
          · rw [several column autoKey.primary, several column.asInteger autoKey.primary]

/-- Each member of the first of two related lists is related to one of the second. -/
theorem exists_of_mem_forall₂
    {α β : Type}
    {related : α → β → Prop}
    {items : List α}
    {others : List β}
    {item : α}
    (all : List.Forall₂ related items others)
    (member : item ∈ items) :
    ∃ other, related item other := by
  induction all with
  | nil => cases member
  | cons first _ existsRest =>
      rcases List.mem_cons.mp member with rfl | member
      · exact ⟨_, first⟩
      · exact existsRest member

namespace Model

variable {model : Model}

/-- Each field of a model that has a schema has a supported type or is a key that the database makes
up. -/
theorem supported_of_schema_eq_ok
    {dialect : Dialect}
    {schema : TableSchema}
    {field : Field}
    (derived : model.schema dialect = .ok schema)
    (member : field ∈ model.fields) :
    field.type.Supported ∨ field.IsAutoKey := by
  obtain ⟨definitions, lists⟩ := schema_eq_ok_iff.mp derived
  obtain ⟨parts, defines⟩ := exists_of_mem_forall₂ lists.each member
  exact defines.supported_or

/-- A model with a field of a type that is not supported has no schema in any dialect, and nothing
is sent for it, unless the field is a key that the database makes up.  If it is one, the schemas are
those of the model with a key of whole numbers. -/
theorem schema_of_unsupported
    {field : Field}
    {before after : List Field}
    (fields_eq : model.fields = before ++ field :: after)
    (unsupported : ¬field.type.Supported) :
    (¬field.IsAutoKey → ∃ error,
      (∀ dialect, model.schema dialect = .error error) ∧
      ((∀ other ∈ model.fields, other.options.Written) →
        ∃ fault, error = .schema (.text model.name) fault) ∧
      ∀ (database : Database) recreate replies,
        (database.migrate model recreate).Sends [] (.error error) replies) ∧
    (field.IsAutoKey → ∀ dialect,
      model.schema dialect =
        schema dialect { model with fields := before ++ field.asInteger :: after }) := by
  constructor
  · intro notAutoKey
    have member : field ∈ model.fields := fields_eq ▸ List.mem_append_right _ List.mem_cons_self
    have underived (dialect : Dialect) (schema : TableSchema) : model.schema dialect ≠ .ok schema :=
      fun derived => (supported_of_schema_eq_ok derived member).elim unsupported notAutoKey
    cases model.sameButKeyClause with
    | underivable error fails =>
        exact ⟨error, fails, fun shown => schema_eq_error shown (fails .ordinary),
          fun database => database.migrate_sends_of_error (fails database.dialect)⟩
    | same schema _ derives => exact absurd (derives .ordinary) (underived _ _)
    | autoKey _ _ _ _ _ _ _ derives => exact absurd (derives .ordinary) (underived _ _)
  · intro autoKey dialect
    have same :=
      TableSchema.ofFields_asInteger autoKey unsupported dialect model.tableName before after
    rw [Model.schema, fields_eq, ← same]
    rfl

/-- The contents of a parcel, which are of a type that is not supported. -/
def parcelContents : Field :=
  ⟨"contents", .scalar .bytes, .plain, none⟩

/-- The number of a parcel. -/
def parcelNumber : Field :=
  ⟨"id", .scalar .integer, { ColumnOptions.plain with primaryKey := true }, none⟩

/-- A model of parcels. -/
def parcel : Model :=
  ⟨0, "Parcel", none, [parcelNumber, parcelContents]⟩

/-- The key of a blob, which the database makes up. -/
def blobKey : Field :=
  ⟨"id", .scalar .bytes, { ColumnOptions.plain with primaryKey := true, auto := true }, none⟩

/-- A model of blobs, whose key is of a type that is not supported. -/
def blob : Model :=
  ⟨1, "Blob", none, [blobKey]⟩

theorem not_supported_bytes : ¬(FieldType.scalar .bytes).Supported := by
  rw [FieldType.supported_scalar_iff]
  rintro ⟨⟩

/-- No table is created for parcels, and one with a key of whole numbers is for blobs. -/
theorem schema_of_unsupported_parcel :
    (∃ error, (∀ dialect, parcel.schema dialect = .error error) ∧
      (∃ fault, error = .schema (.text "Parcel") fault) ∧
      ∀ (database : Database) recreate replies,
        (database.migrate parcel recreate).Sends [] (.error error) replies) ∧
    ∀ dialect, blob.schema dialect =
      schema dialect { blob with fields := [blobKey.asInteger] } := by
  have ofParcel : parcel.fields = [parcelNumber] ++ parcelContents :: [] := rfl
  have ofBlob : blob.fields = [] ++ blobKey :: [] := rfl
  constructor
  · obtain ⟨error, fails, blames, sends⟩ :=
      (schema_of_unsupported ofParcel not_supported_bytes).1 fun autoKey => nomatch autoKey.primary
    refine ⟨error, fails, blames ?_, sends⟩
    simp only [parcel, List.forall_mem_cons]
    exact ⟨⟨rfl, nofun⟩, ⟨rfl, nofun⟩, nofun⟩
  · exact (schema_of_unsupported ofBlob not_supported_bytes).2 ⟨rfl, rfl, rfl⟩

/-- The key of blobs has a column of whole numbers in all databases, although its type is not
supported. -/
theorem schema_of_blob :
    blobKey ∈ blob.fields ∧ ¬blobKey.type.Supported ∧
      (∀ dialect, blob.schema dialect = .ok ⟨"Blob", "id",
        "create table if not exists Blob (id " ++ Column.autoKeyClause dialect ++ ");"⟩) ∧
      (Database.migrate ⟨.engine, .postgres, .empty⟩ blob false).sent [] =
        [("create table if not exists Blob (id serial primary key);", [])] :=
  ⟨List.mem_singleton_self _, not_supported_bytes, fun dialect => by cases dialect <;> rfl, rfl⟩

end Model
end BoundSql
