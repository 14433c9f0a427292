import BoundSql.Proofs.Model.Definition
import Mathlib.Data.List.Forall2

/-!
# Schemas of tables

The schema of the table of a model lists one definition for each field, in the order of the
fields.  Each definition has the parts that the type and the options of its field call for,
and exactly one of them, that of the key, has a key clause.

There is no other schema of the model.  Where there is none, the error names the model,
unless an option holds a whole number with too many digits to be written.
-/

namespace BoundSql

/-! ## Fields -/

namespace FieldType

variable {type : FieldType} {scalar : ScalarType} {nullable : Bool} {storage : Storage}

/-- A type of values that are stored is optional when nothing is one of its forms. -/
theorem isOptional_eq
    (known : type.scalar? = some (scalar, nullable))
    (stored : scalar.storage? = some storage) :
    type.isOptional = nullable := by
  cases nullable with
  | true => exact List.any_eq_true.mpr ⟨_, (forms_of_scalar? known).2.2 rfl, rfl⟩
  | false =>
      unfold scalar? at known
      split at known
      next inner members =>
        cases known
        rw [isOptional, members, List.any_cons, List.any_nil, Bool.or_false]
        cases scalar with
        | nothing => cases stored
        | _ => rfl
      next =>
        split at known
        · cases known
        · cases known

end FieldType

/-- Whether parts are those of the definition of a field. -/
def Field.Defines (dialect : Dialect) (field : Field) (parts : Column.Parts) : Prop :=
  ∃ type nullable, field.type.scalar? = some (type, nullable) ∧
    parts.Of dialect field.name type field.type.isOptional field.options

namespace Column

variable {dialect : Dialect} {type : ScalarType} {options : ColumnOptions} {parts : Parts}

/-- A clause is that of a type of values that are stored, or the one of a key that the database
makes up. -/
theorem Clause.Of.exists_storage_or
    {clause : Clause}
    (of : Clause.Of dialect type options clause) :
    (∃ storage, type.storage? = some storage) ∨
      options.primaryKey = true ∧ options.auto = true := by
  cases of with
  | typed _ stored | key _ _ stored => exact .inl ⟨_, stored⟩
  | autoKey primary auto => exact .inr ⟨primary, auto⟩

/-- The clause of a column that is no key is that of a type of values that are stored. -/
theorem Clause.Of.exists_storage
    {clause : Clause}
    (of : Clause.Of dialect type options clause)
    (notPrimary : options.primaryKey = false) :
    ∃ storage, type.storage? = some storage :=
  of.exists_storage_or.resolve_right fun ⟨primary, _⟩ => by
    cases notPrimary.symm.trans primary

theorem Clause.Of.isKey_eq {clause : Clause} (of : Clause.Of dialect type options clause) :
    clause.isKey = options.primaryKey := by
  cases of with
  | typed notPrimary => exact notPrimary.symm
  | key primary | autoKey primary => exact primary.symm

/-- Only in the definition of a column that is no key does it matter whether its type is
optional. -/
theorem Parts.Of.of_optional
    {name : String}
    {optional other : Bool}
    (of : Parts.Of dialect name type optional options parts)
    (same : options.primaryKey = false → optional = other) :
    Parts.Of dialect name type other options parts where
  name_eq := of.name_eq
  clause := of.clause
  unique_eq := of.unique_eq
  default := of.default
  required_eq := by
    rw [of.required_eq]
    cases primary : options.primaryKey with
    | true => rw [Bool.not_true, Bool.and_false, Bool.and_false]
    | false => rw [same primary]
  reference := of.reference

end Column

/-- The parts of a field are those of its column. -/
theorem Field.defines_iff {dialect : Dialect} {field : Field} {parts : Column.Parts} :
    field.Defines dialect parts ↔
      ∃ column, Column.ofField field = .ok column ∧
        parts.Of dialect column.name column.type column.nullable column.options := by
  constructor
  · rintro ⟨type, nullable, scalar, of⟩
    refine ⟨_, Column.ofField_eq_ok_iff.mpr ⟨type, nullable, scalar, rfl⟩,
      of.of_optional fun notPrimary => ?_⟩
    obtain ⟨storage, stored⟩ := of.clause.exists_storage notPrimary
    exact FieldType.isOptional_eq scalar stored
  · rintro ⟨column, made, of⟩
    obtain ⟨type, nullable, scalar, rfl⟩ := Column.ofField_eq_ok_iff.mp made
    refine ⟨type, nullable, scalar, of.of_optional fun notPrimary => ?_⟩
    obtain ⟨storage, stored⟩ := of.clause.exists_storage notPrimary
    exact (FieldType.isOptional_eq scalar stored).symm

/-! ## Tables -/

section Columns

variable {dialect : Dialect} {fields : List Field} {columns : List Column}
  {definitions : List Column.Parts} {texts : List String}

/-- A column is a key exactly when its definition has a key clause, so the keys of more columns and
of their definitions have the same names. -/
theorem keys_cons
    {column : Column}
    {parts : Column.Parts}
    (of : parts.Of dialect column.name column.type column.nullable column.options)
    (keys : (definitions.filter (·.clause.isKey)).map Column.Parts.name =
      (columns.filter (·.options.primaryKey)).map Column.name) :
    ((parts :: definitions).filter (·.clause.isKey)).map Column.Parts.name =
      ((column :: columns).filter (·.options.primaryKey)).map Column.name := by
  rw [List.filter_cons, List.filter_cons, of.clause.isKey_eq]
  split
  · rw [List.map_cons, List.map_cons, keys, of.name_eq]
  · exact keys

/-- Columns with definitions have definitions of the parts of their fields.  The keys among the
columns are those whose definitions have a key clause. -/
theorem exists_definitions
    (made : fields.mapM Column.ofField = .ok columns)
    (defined : columns.mapM (Column.definition dialect) = .ok texts) :
    ∃ definitions, List.Forall₂ (Field.Defines dialect) fields definitions ∧
      definitions.map Column.Parts.text = texts ∧
      (definitions.filter (·.clause.isKey)).map Column.Parts.name =
        (columns.filter (·.options.primaryKey)).map Column.name := by
  -- The keys are carried along, since the names of definitions and columns are compared in order.
  induction fields generalizing columns texts with
  | nil =>
      cases made
      cases defined
      exact ⟨[], .nil, rfl, rfl⟩
  | cons field fields definedRest =>
      obtain ⟨column, others, ofField, madeRest, rfl⟩ := mapM_cons_eq_ok.mp made
      obtain ⟨text, more, ofColumn, restDefined, rfl⟩ := mapM_cons_eq_ok.mp defined
      obtain ⟨parts, of, rfl⟩ := Column.definition_eq_ok_iff.mp ofColumn
      obtain ⟨definitions, defines, rfl, keys⟩ := definedRest madeRest restDefined
      have first := Field.defines_iff.mpr ⟨column, ofField, of⟩
      exact ⟨parts :: definitions, .cons first defines, rfl, keys_cons of keys⟩

/-- Fields with parts have columns with definitions of these parts. -/
theorem exists_columns (defines : List.Forall₂ (Field.Defines dialect) fields definitions) :
    ∃ columns, fields.mapM Column.ofField = .ok columns ∧
      columns.mapM (Column.definition dialect) = .ok (definitions.map Column.Parts.text) ∧
      (definitions.filter (·.clause.isKey)).map Column.Parts.name =
        (columns.filter (·.options.primaryKey)).map Column.name := by
  induction defines with
  | nil => exact ⟨[], rfl, rfl, rfl⟩
  | cons first rest madeRest =>
      obtain ⟨column, ofField, of⟩ := Field.defines_iff.mp first
      obtain ⟨others, made, defined, keys⟩ := madeRest
      have ofColumn := Column.definition_eq_ok_iff.mpr ⟨_, of, rfl⟩
      exact ⟨column :: others, mapM_cons_eq_ok.mpr ⟨column, others, ofField, made, rfl⟩,
        mapM_cons_eq_ok.mpr ⟨_, _, ofColumn, defined, rfl⟩, keys_cons of keys⟩

theorem Column.key_eq_ok_iff {key : Column} :
    Column.key columns = .ok key ↔ columns.filter (·.options.primaryKey) = [key] := by
  unfold Column.key
  split
  next only => rw [only, List.singleton_inj, Except.ok.injEq]
  next notOnly =>
    constructor
    · intro made
      cases made
    · intro only
      exact absurd only (notOnly key)

theorem TableSchema.ofFields_eq_ok_iff {table : String} {schema : TableSchema} :
    ofFields dialect table fields = .ok schema ↔
      ∃ columns key texts, fields.mapM Column.ofField = .ok columns ∧
        columns.filter (·.options.primaryKey) = [key] ∧
        columns.mapM (Column.definition dialect) = .ok texts ∧
        ⟨table, key.name, createText table texts⟩ = schema := by
  unfold ofFields
  constructor
  · intro made
    obtain ⟨columns, columnsMade, made⟩ := bind_eq_ok.mp made
    dsimp only at made
    split at made
    next => cases made
    next =>
      obtain ⟨key, only, made⟩ := bind_eq_ok.mp made
      obtain ⟨texts, defined, finished⟩ := bind_eq_ok.mp made
      cases finished
      exact ⟨columns, key, texts, columnsMade, Column.key_eq_ok_iff.mp only, defined, rfl⟩
  · rintro ⟨columns, key, texts, columnsMade, only, defined, rfl⟩
    have some : ¬columns.isEmpty = true := by
      rw [List.isEmpty_iff]
      rintro rfl
      cases only
    refine bind_eq_ok.mpr ⟨columns, columnsMade, ?_⟩
    dsimp only
    rw [if_neg some]
    exact bind_eq_ok.mpr ⟨key, Column.key_eq_ok_iff.mpr only, bind_eq_ok.mpr ⟨texts, defined, rfl⟩⟩

end Columns

/-- Whether a schema creates the table of a model with one definition for each field.  Exactly one
of them has a key clause, and its name is the key of the schema. -/
structure TableSchema.Lists
    (dialect : Dialect)
    (model : Model)
    (definitions : List Column.Parts)
    (schema : TableSchema) : Prop where
  each : List.Forall₂ (Field.Defines dialect) model.fields definitions
  oneKey : ∃ key, definitions.filter (·.clause.isKey) = [key] ∧ schema.key = key.name
  table_eq : schema.table = model.tableName
  ddl_eq : schema.ddl =
    "create table if not exists " ++ model.tableName ++ " (" ++
      ", ".intercalate (definitions.map Column.Parts.text) ++ ");"

namespace Model

variable {model : Model} {dialect : Dialect} {schema : TableSchema}

/-- A model has a schema exactly when its fields have definitions with one key among them. -/
theorem schema_eq_ok_iff :
    model.schema dialect = .ok schema ↔ ∃ definitions, schema.Lists dialect model definitions := by
  rw [Model.schema, blamed, mapError_eq_ok, TableSchema.ofFields_eq_ok_iff]
  constructor
  · rintro ⟨columns, key, texts, made, only, defined, rfl⟩
    obtain ⟨definitions, defines, rfl, keys⟩ := exists_definitions made defined
    rw [only, List.map_singleton, List.map_eq_singleton_iff] at keys
    obtain ⟨parts, onlyParts, named⟩ := keys
    exact ⟨definitions, defines, ⟨parts, onlyParts, named.symm⟩, rfl, rfl⟩
  · rintro ⟨definitions, defines, ⟨parts, onlyParts, named⟩, table_eq, ddl_eq⟩
    obtain ⟨columns, made, defined, keys⟩ := exists_columns defines
    rw [onlyParts, List.map_singleton, eq_comm, List.map_eq_singleton_iff] at keys
    obtain ⟨key, only, namedToo⟩ := keys
    refine ⟨columns, key, _, made, only, defined, ?_⟩
    cases schema
    cases table_eq
    cases ddl_eq
    cases named
    rw [namedToo]
    rfl

end Model

/-! ## Faults -/

/-- Whether the whole numbers in options of a column have few enough digits to be written. -/
structure ColumnOptions.Written (options : ColumnOptions) : Prop where
  size : options.size.hasLiteral = true
  default : ∀ value ∈ options.default, value.hasLiteral = true

/-- Whether a result is anything but the fault of a number that is not written. -/
def NumbersWritten {α : Type} (result : Except SchemaFault α) : Prop :=
  ∀ fault, result ≠ .error (.number fault)

namespace NumbersWritten

variable {α β : Type}

theorem ok (value : α) : NumbersWritten (.ok value) := nofun

theorem map
    {result : Except SchemaFault α}
    (written : NumbersWritten result)
    (change : α → β) :
    NumbersWritten (result.map change) :=
  fun fault failed => written fault (map_eq_error.mp failed)

theorem bind
    {first : Except SchemaFault α}
    {next : α → Except SchemaFault β}
    (written : NumbersWritten first)
    (writtenNext : ∀ value, first = .ok value → NumbersWritten (next value)) :
    NumbersWritten (first >>= next) := by
  intro fault failed
  rcases bind_eq_error.mp failed with failed | ⟨value, made, failed⟩
  · exact written fault failed
  · exact writtenNext value made fault failed

theorem mapM
    {items : List α}
    {f : α → Except SchemaFault β}
    (written : ∀ item ∈ items, NumbersWritten (f item)) :
    NumbersWritten (items.mapM f) := by
  intro fault failed
  obtain ⟨before, item, after, rfl, _, failed⟩ := mapM_eq_error.mp failed
  exact written item (List.mem_append_right _ List.mem_cons_self) fault failed

end NumbersWritten

namespace Column

variable {column : Column}

theorem numbersWritten_written {value : Value} (hasLiteral : value.hasLiteral = true) :
    NumbersWritten (written value) := by
  rw [written_eq_ok_iff.mpr ⟨Value.hasDisplay_of_hasLiteral hasLiteral, rfl⟩]
  exact .ok _

theorem numbersWritten_sqlType (shown : column.options.Written) :
    NumbersWritten column.sqlType := by
  unfold sqlType
  split
  case h_4 =>
    split
    · exact .ok _
    · refine NumbersWritten.map ?_ _
      unfold sizeText
      split
      · exact numbersWritten_written shown.size
      · exact .ok _
  all_goals nofun

theorem numbersWritten_typeClause (shown : column.options.Written) (dialect : Dialect) :
    NumbersWritten (column.typeClause dialect) := by
  unfold typeClause
  split
  · exact .ok _
  · split
    · exact (numbersWritten_sqlType shown).map _
    · exact numbersWritten_sqlType shown

theorem numbersWritten_defaultText {value : Value} (hasLiteral : value.hasLiteral = true) :
    NumbersWritten (column.defaultText value) := by
  unfold defaultText nowDefault defaultFault
  split
  · split <;> nofun
  · split
    · exact .ok _
    · split
      · nofun
      · split
        · exact numbersWritten_written hasLiteral
        · exact numbersWritten_written hasLiteral
        · exact .ok _
        · nofun

theorem numbersWritten_definition (shown : column.options.Written) (dialect : Dialect) :
    NumbersWritten (column.definition dialect) := by
  refine NumbersWritten.map (.bind (numbersWritten_typeClause shown dialect) fun _ _ =>
    .bind ?_ fun _ _ => .bind ?_ fun _ _ => .ok _) _
  · unfold defaultClause
    split
    next value given => exact (numbersWritten_defaultText (shown.default value given)).map _
    next => exact .ok _
  · unfold referenceClause
    dsimp only
    split
    · exact .ok _
    · split <;> nofun

end Column

namespace Model

variable {model : Model} {dialect : Dialect}

/-- A model without a schema is named in the error, unless a whole number in an option of a column
is not written. -/
theorem schema_eq_error
    {error : Error}
    (shown : ∀ field ∈ model.fields, field.options.Written)
    (failed : model.schema dialect = .error error) :
    ∃ fault, error = .schema (.text model.name) fault := by
  have written : NumbersWritten (TableSchema.ofFields dialect model.tableName model.fields) := by
    refine .bind (.mapM fun field _ => ?_) fun columns made => ?_
    · unfold Column.ofField
      split <;> nofun
    · dsimp only
      split
      · nofun
      · refine .bind ?_ fun key _ => .bind (.mapM fun column member => ?_) fun _ _ => .ok _
        · unfold Column.key
          split <;> nofun
        · obtain ⟨field, isField, ofField⟩ := exists_of_mem_mapM made member
          obtain ⟨_, _, _, rfl⟩ := Column.ofField_eq_ok_iff.mp ofField
          exact Column.numbersWritten_definition (shown field isField) dialect
  rw [Model.schema, blamed] at failed
  cases outcome : TableSchema.ofFields dialect model.tableName model.fields with
  | ok schema =>
      rw [outcome] at failed
      cases failed
  | error fault =>
      rw [outcome] at failed
      cases failed
      refine ⟨fault, ?_⟩
      cases fault with
      | number number => exact absurd outcome (written number)
      | _ => rfl

end Model
end BoundSql
