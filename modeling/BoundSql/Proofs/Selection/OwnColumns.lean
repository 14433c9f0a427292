import BoundSql.Proofs.Selection.Rows
import BoundSql.Proofs.Session.Sent

/-!
# The columns of one shape

The columns of a result of several targets are those of the targets, one after the
other.  A model that is selected has a group of its own among them, the first one if it
is selected more than once.

Where all targets are models, an instance of a selected model is made from the values
of its own group.  Where a table stands among the targets the records are read by name
instead, and the first column of a name counts.  So the instance is made from its own
group exactly when all targets are models, or when no target before the model has a
column with the name of one of its fields.
-/

namespace BoundSql

namespace Selection

variable {selection : Selection} {shape : Model}

/-- The clause of several tables is as long as their names with four more letters each, but for the
separator that the last one lacks. -/
theorem length_starClause {tables : List String} (nonempty : tables ≠ []) :
    (starClause tables).length + 2 = (tables.map fun table => table.length + 4).sum := by
  have separator : (", ").length = 2 := rfl
  have star : (".*").length = 2 := rfl
  unfold starClause
  induction tables with
  | nil => exact absurd rfl nonempty
  | cons table tables counted =>
      cases tables with
      | nil => simp [star]
      | cons next tables =>
          have rest := counted (List.cons_ne_nil next tables)
          simp only [List.map_cons, String.intercalate_cons_cons, String.length_append,
            List.sum_cons] at rest ⊢
          omega

/-- Each table among targets takes at least four letters beside the models. -/
theorem length_models_le (targets : List Target) :
    ((targets.filterMap Target.model?).map fun model => model.tableName.length + 4).sum +
        4 * targets.countP (fun target => target.model?.isNone) ≤
      (targets.map fun target => target.tableName.length + 4).sum := by
  induction targets with
  | nil => simp
  | cons target targets counted =>
      cases target with
      | table name =>
          rw [List.filterMap_cons_none rfl, List.countP_cons_of_pos rfl, List.map_cons,
            List.sum_cons]
          omega
      | model described =>
          have isModel : (Target.model described).model? = some described := rfl
          rw [List.filterMap_cons_some isModel, List.countP_cons_of_neg Bool.false_ne_true,
            List.map_cons, List.map_cons, List.sum_cons, List.sum_cons, Target.tableName]
          omega

/-- Whether all of several targets are models. -/
def AllModels (targets : List Target) : Prop :=
  ∀ target ∈ targets, target.model?.isNone = false

/-- Where all targets are models, they are those found among them. -/
theorem AllModels.eq_map {targets : List Target} (allModels : AllModels targets) :
    targets = (targets.filterMap Target.model?).map Target.model := by
  induction targets with
  | nil => rfl
  | cons target targets others =>
      cases target with
      | table name => exact absurd (allModels _ List.mem_cons_self) nofun
      | model described =>
          have isModel : (Target.model described).model? = some described := rfl
          rw [List.filterMap_cons_some isModel, List.map_cons,
            ← others fun other member => allModels other (List.mem_cons_of_mem _ member)]

/-- The clause of several targets names the columns of each of them. -/
theorem clause_eq (several : 1 < selection.targets.length) :
    selection.clause = starClause (selection.targets.map Target.tableName) := by
  unfold clause
  split
  · rename_i only
    rw [only, List.length_singleton] at several
    exact absurd several (Nat.lt_irrefl 1)
  · rfl

/-- The clause of several targets names the columns of the models and of nothing else exactly when
all targets are models. -/
theorem selectsModels_iff (several : 1 < selection.targets.length) :
    selection.selectsModels = true ↔ AllModels selection.targets := by
  rw [selectsModels, Bool.and_eq_true, decide_eq_true_eq, beq_iff_eq, clause_eq several]
  constructor
  · rintro ⟨severalModels, sameClause⟩
    have someTarget : selection.targets.map Target.tableName ≠ [] :=
      List.ne_nil_of_length_pos (by rw [List.length_map]; omega)
    have someModel : selection.models.map Model.tableName ≠ [] :=
      List.ne_nil_of_length_pos (by rw [List.length_map]; omega)
    have ofTargets := length_starClause someTarget
    have ofModels := length_starClause someModel
    have counted := length_models_le selection.targets
    rw [List.map_map] at ofTargets ofModels
    rw [sameClause] at ofTargets
    have noTable : selection.targets.countP (fun target => target.model?.isNone) = 0 := by
      simp only [Function.comp_def, models] at ofTargets ofModels
      omega
    intro target member
    exact Bool.eq_false_of_not_eq_true (List.countP_eq_zero.mp noTable target member)
  · intro allModels
    have sameTargets : selection.targets = selection.models.map Target.model := allModels.eq_map
    rw [sameTargets, List.length_map] at several
    refine ⟨several, ?_⟩
    rw [sameTargets, List.map_map]
    rfl

/-- Where all targets are models, a model has the group of its first place. -/
theorem groupOf?_eq_length
    {before after : List Model}
    (several : 1 < selection.targets.length)
    (allModels : AllModels selection.targets)
    (models_eq : selection.models = before ++ shape :: after)
    (isFirst : ∀ other ∈ before, other.isSame shape = false) :
    selection.groupOf? shape = some before.length := by
  have notBefore : before.findIdx? (·.isSame shape) = none :=
    List.findIdx?_eq_none_iff.mpr isFirst
  have found : (shape :: after).findIdx? (·.isSame shape) = some 0 := by
    rw [List.findIdx?_cons, Model.isSame, beq_self_eq_true, if_pos rfl]
  rw [groupOf?, (selectsModels_iff several).mpr allModels, if_pos rfl, models_eq,
    List.findIdx?_append, notBefore, found]
  simp

end Selection

/-- The names of the columns that a target brings: those of the fields of a model, and any names
for a table. -/
def Target.Brings : Target → List String → Prop
  | .table _, _ => True
  | .model described, names => names = described.fieldNames

/-- The first place of a model among several targets, with the columns that each target brings. -/
structure Selection.Place (selection : Selection) (shape : Model) where
  before : List Target
  after : List Target
  earlier : List (List String)
  later : List (List String)
  targets_eq : selection.targets = before ++ .model shape :: after
  several : 1 < selection.targets.length
  isFirst : ∀ other ∈ before.filterMap Target.model?, other.isSame shape = false
  before_brings : List.Forall₂ Target.Brings before earlier
  after_brings : List.Forall₂ Target.Brings after later

namespace Selection.Place

variable {selection : Selection} {shape : Model} (place : selection.Place shape)

/-- The columns of a result. -/
def columns : List String :=
  (place.earlier ++ shape.fieldNames :: place.later).flatten

/-- Whether a result has the columns of the targets and complete records. -/
structure Fits (rows : Rows) : Prop where
  columns_eq : rows.columns = place.columns
  complete : ∀ record ∈ rows.records, record.length = rows.columns.length

/-- The values of the model's own group in a record. -/
def own (record : List Value) : List Value :=
  (record.drop place.earlier.flatten.length).take shape.fieldNames.length

/-- The row of the model's own group in a record. -/
def ownRow (record : List Value) : Row :=
  shape.fieldNames.zip (place.own record)

/-- Whether no target before the model has a column with the name of one of its fields, or no table
stands among the targets. -/
def Unshadowed : Prop :=
  Selection.AllModels selection.targets ∨ ∀ name ∈ shape.fieldNames, name ∉ place.earlier.flatten

theorem length_own
    {record : List Value}
    (complete : record.length = place.columns.length) :
    (place.own record).length = shape.fieldNames.length := by
  rw [columns, List.flatten_append, List.flatten_cons, List.length_append,
    List.length_append] at complete
  rw [own, List.length_take, List.length_drop]
  omega

/-- The models of a selection, around the place of one of them. -/
theorem models_eq :
    selection.models =
      place.before.filterMap Target.model? ++ shape :: place.after.filterMap Target.model? := by
  have isModel : (Target.model shape).model? = some shape := rfl
  rw [models, place.targets_eq, List.filterMap_append, List.filterMap_cons_some isModel]

/-- Models bring the names of their fields. -/
theorem eq_fieldNames_of_brings
    {targets : List Target}
    {groups : List (List String)}
    (allModels : AllModels targets)
    (brings : List.Forall₂ Target.Brings targets groups) :
    groups = (targets.filterMap Target.model?).map Model.fieldNames := by
  induction brings with
  | nil => rfl
  | @cons target names targets groups first _ others =>
      have rest := others fun other member => allModels other (List.mem_cons_of_mem _ member)
      cases target with
      | table name => exact absurd (allModels _ List.mem_cons_self) nofun
      | model described =>
          have isModel : (Target.model described).model? = some described := rfl
          rw [List.filterMap_cons_some isModel, List.map_cons, ← rest]
          congr 1

/-- Where all targets are models, the groups are the names of the fields of the models. -/
theorem map_fieldNames_eq (allModels : AllModels selection.targets) :
    selection.models.map Model.fieldNames =
      place.earlier ++ shape.fieldNames :: place.later := by
  rw [place.targets_eq] at allModels
  have earlier := eq_fieldNames_of_brings
    (fun target member => allModels target (List.mem_append_left _ member))
    place.before_brings
  have later := eq_fieldNames_of_brings
    (fun target member =>
      allModels target (List.mem_append_right _ (List.mem_cons_of_mem _ member)))
    place.after_brings
  rw [place.models_eq, List.map_append, List.map_cons, ← earlier, ← later]

/-- Where all targets are models, a model reads the group of its first place. -/
theorem groupOf?_eq (allModels : AllModels selection.targets) :
    selection.groupOf? shape = some place.earlier.length := by
  have sameGroups := place.map_fieldNames_eq allModels
  have counted : (place.before.filterMap Target.model?).length = place.earlier.length := by
    have earlier := eq_fieldNames_of_brings
      (fun target member => allModels target
        (place.targets_eq ▸ List.mem_append_left _ member))
      place.before_brings
    rw [earlier, List.length_map]
  rw [groupOf?_eq_length place.several allModels place.models_eq place.isFirst, counted]

variable {rows : Rows}

/-- Whether the model is read from its own group: the row that is read for it holds, under the names
of its fields, what the group holds in the record. -/
def ReadsOwn (rows : Rows) : Prop :=
  ∃ read : List Value → Row, selection.rowsOf shape rows = .ok (rows.records.map read) ∧
    ∀ record ∈ rows.records, (read record).AgreeOn shape.fieldNames (place.ownRow record)

/-- Where all targets are models, the rows are those of the own group. -/
theorem readsOwn_of_allModels
    (distinct : shape.fieldNames.Nodup)
    (allModels : AllModels selection.targets)
    (fits : place.Fits rows) :
    place.ReadsOwn rows := by
  have sameGroups := place.map_fieldNames_eq allModels
  have cutInto : rows.groups selection.models =
      .ok (rows.records.map (Rows.cut (place.earlier ++ shape.fieldNames :: place.later))) := by
    rw [← sameGroups]
    exact Rows.groups_eq_ok (by rw [fits.columns_eq, columns, sameGroups]) fits.complete
  refine ⟨fun record => (Rows.cut (place.earlier ++ shape.fieldNames :: place.later) record).getD
    place.earlier.length [], ?_, ?_⟩
  · rw [rowsOf, place.groupOf?_eq allModels]
    dsimp only
    rw [cutInto]
    simp [pure, Except.pure, bind, Except.bind, Function.comp_def]
  · intro record member
    have complete := (fits.complete record member).trans (congrArg List.length fits.columns_eq)
    dsimp only
    rw [Rows.cut_getD, ← own, Row.ofLast_zip distinct (place.length_own complete)]
    exact fun _ _ => rfl

/-- The pairs of a record that come before those of the own group, the pairs of the own group, and
the others. -/
theorem zip_columns_eq
    {record : List Value}
    (complete : record.length = place.columns.length) :
    place.columns.zip record =
      place.earlier.flatten.zip (record.take place.earlier.flatten.length) ++
        (place.ownRow record ++
          place.later.flatten.zip
            ((record.drop place.earlier.flatten.length).drop shape.fieldNames.length)) := by
  have length_columns : place.columns.length =
      place.earlier.flatten.length + (shape.fieldNames.length + place.later.flatten.length) := by
    rw [columns, List.flatten_append, List.flatten_cons, List.length_append, List.length_append]
  have behind : record.drop place.earlier.flatten.length =
      place.own record ++
        (record.drop place.earlier.flatten.length).drop shape.fieldNames.length :=
    (List.take_append_drop _ _).symm
  have first : place.earlier.flatten.length =
      (record.take place.earlier.flatten.length).length := by
    rw [List.length_take]
    omega
  calc
    place.columns.zip record =
        (place.earlier.flatten ++ (shape.fieldNames ++ place.later.flatten)).zip
          (record.take place.earlier.flatten.length ++
            record.drop place.earlier.flatten.length) := by
      rw [List.take_append_drop, columns, List.flatten_append, List.flatten_cons]
    _ = place.earlier.flatten.zip (record.take place.earlier.flatten.length) ++
          (shape.fieldNames ++ place.later.flatten).zip
            (record.drop place.earlier.flatten.length) :=
      List.zip_append first
    _ = _ := by
      rw [behind, List.zip_append (place.length_own complete).symm, ← behind]
      rfl

/-- A name that is not given is not found. -/
theorem lookup_zip_eq_none
    {names : List String}
    {values : List Value}
    {name : String}
    (absent : name ∉ names) :
    (names.zip values).lookup name = none := by
  rw [List.lookup_eq_none_iff]
  intro pair member
  have given := (List.of_mem_zip member).1
  exact bne_iff_ne.mpr fun same => absent (same ▸ given)

/-- A name that is given has a value. -/
theorem isSome_lookup_zip
    {names : List String}
    {values : List Value}
    {name : String}
    (complete : values.length = names.length)
    (given : name ∈ names) :
    ((names.zip values).lookup name).isSome = true := by
  rw [← map_fst_zip_of_complete complete] at given
  obtain ⟨pair, member, same⟩ := List.mem_map.mp given
  rw [← Entries.any_eq_isSome_lookup, List.any_eq_true]
  exact ⟨pair, member, beq_iff_eq.mpr same⟩

/-- Where a table stands among the targets, the rows are read by name. -/
theorem rowsOf_eq_mappings
    (someTable : ¬AllModels selection.targets)
    (fits : place.Fits rows) :
    selection.rowsOf shape rows =
      .ok (rows.records.map fun record => Row.ofFirst (place.columns.zip record)) := by
  have byName : selection.selectsModels = false :=
    Bool.eq_false_of_not_eq_true fun all => someTable ((selectsModels_iff place.several).mp all)
  rw [rowsOf, groupOf?, byName, if_neg Bool.false_ne_true]
  dsimp only
  rw [Rows.mappings_eq_ok fits.complete, fits.columns_eq]

/-- What is read by name under a name of a field is what the own group holds, unless a target before
the model has a column of that name. -/
theorem readsOwn_of_absent
    (absent : ∀ name ∈ shape.fieldNames, name ∉ place.earlier.flatten)
    (someTable : ¬AllModels selection.targets)
    (fits : place.Fits rows) :
    place.ReadsOwn rows := by
  refine ⟨_, place.rowsOf_eq_mappings someTable fits, fun record member name field => ?_⟩
  have complete := (fits.complete record member).trans (congrArg List.length fits.columns_eq)
  have owned := isSome_lookup_zip (place.length_own complete) field
  obtain ⟨value, found⟩ := Option.isSome_iff_exists.mp owned
  have ownFound : (place.ownRow record).lookup name = some value := found
  rw [Row.lookup_ofFirst, place.zip_columns_eq complete, List.lookup_append,
    lookup_zip_eq_none (absent name field), List.lookup_append, ownFound]
  rfl

/-- The result with one record that holds one value in the columns before the own group and another
one behind them. -/
def telling : Rows :=
  ⟨place.columns,
    [List.replicate place.earlier.flatten.length (.int 0) ++
      List.replicate (shape.fieldNames ++ place.later.flatten).length (.int 1)]⟩

theorem telling_fits : place.Fits place.telling where
  columns_eq := rfl
  complete := by
    intro record member
    rw [List.mem_singleton.mp member]
    simp [telling, columns]

/-- Where every value is the same, it is the one under each name. -/
theorem lookup_zip_replicate
    {names : List String}
    {name : String}
    (value : Value)
    (given : name ∈ names) :
    (names.zip (List.replicate names.length value)).lookup name = some value := by
  obtain ⟨found, some⟩ := Option.isSome_iff_exists.mp
    (isSome_lookup_zip (List.length_replicate) given)
  have member : (name, found) ∈ names.zip (List.replicate names.length value) :=
    Entries.mem_of_lookup some
  rw [some, List.eq_of_mem_replicate (List.of_mem_zip member).2]

/-- A model that is read from its own group in every result is not shadowed. -/
theorem unshadowed_of_readsOwn
    (reads : ∀ rows, place.Fits rows → place.ReadsOwn rows) :
    place.Unshadowed := by
  by_cases allModels : AllModels selection.targets
  · exact .inl allModels
  · refine .inr fun name field shadowing => ?_
    obtain ⟨read, sameRows, agree⟩ := reads place.telling place.telling_fits
    rw [place.rowsOf_eq_mappings allModels place.telling_fits] at sameRows
    have byName := List.map_inj_left.mp (Except.ok.inj sameRows) _ (List.mem_singleton_self _)
    have found := agree _ (List.mem_singleton_self _) name field
    have complete := place.telling_fits.complete _ (List.mem_singleton_self _)
    have lengths : (List.replicate place.earlier.flatten.length (Value.int 0)).length =
      place.earlier.flatten.length := List.length_replicate
    rw [← byName, Row.lookup_ofFirst, place.zip_columns_eq complete, List.lookup_append,
      List.take_left' lengths, lookup_zip_replicate _ shadowing, ownRow, own,
      List.drop_left' lengths, List.length_append, List.take_replicate,
      Nat.min_eq_left (Nat.le_add_right _ _), lookup_zip_replicate _ field] at found
    exact absurd found (by simp)

/-- A model is read from its own group in every result exactly when it is not shadowed. -/
theorem unshadowed_iff (distinct : shape.fieldNames.Nodup) :
    place.Unshadowed ↔ ∀ rows, place.Fits rows → place.ReadsOwn rows := by
  refine ⟨fun unshadowed rows fits => ?_, place.unshadowed_of_readsOwn⟩
  by_cases allModels : AllModels selection.targets
  · exact place.readsOwn_of_allModels distinct allModels fits
  · exact place.readsOwn_of_absent (unshadowed.resolve_left allModels) allModels fits

/-- The instances of a model that is read from its own group. -/
theorem shaped_of_readsOwn (reads : place.ReadsOwn rows) :
    selection.shaped [shape] rows =
      rows.records.mapM fun record => (shape.instanceOf (place.ownRow record)).map .single := by
  obtain ⟨read, sameRows, agree⟩ := reads
  rw [shaped, sameRows]
  change (rows.records.map read).mapM (fun row => (shape.instanceOf row).map Shaped.single) = _
  rw [List.mapM_map]
  apply mapM_congr
  intro record member
  rw [Function.comp_apply, Model.instanceOf_congr (agree record member)]

end Selection.Place

namespace Database

/-- What a selection is read as is made from the rows that are fetched for its statement. -/
theorem result_selectAll_of_shapesFor
    {database : Database}
    {selection : Selection}
    {asked shapes : List Model}
    {statement : Statement}
    {rows : Rows}
    {replies : List Reply}
    (shapesFor : selection.shapesFor asked = .ok shapes)
    (built : selection.statement.result = .ok statement)
    (fetched : (database.fetch statement).result replies = .ok rows) :
    (database.selectAll selection asked).result replies = selection.shaped shapes rows := by
  have asking : (Exchange.ofExcept (selection.shapesFor asked)).result replies = .ok shapes :=
    shapesFor
  have compiled : (Exchange.compile database.dialect selection.statement).result replies =
      .ok statement := built
  rw [selectAll, Exchange.result_bind_ok _ asking]
  refine (Exchange.result_bind_ok _ compiled).trans ?_
  exact Exchange.result_bind_ok _ fetched

/-- What a selection is read as in one shape. -/
theorem result_selectAll
    {database : Database}
    {selection : Selection}
    {shape : Model}
    {statement : Statement}
    {rows : Rows}
    {replies : List Reply}
    (built : selection.statement.result = .ok statement)
    (fetched : (database.fetch statement).result replies = .ok rows) :
    (database.selectAll selection [shape]).result replies = selection.shaped [shape] rows :=
  result_selectAll_of_shapesFor rfl built fetched

end Database

namespace Selection.Place

/-- A model is read from its own group in every result exactly when no target before it has a column
with the name of one of its fields, or all targets are models.  Then the instances of the model
that are fetched are made from the values of its own group. -/
theorem fetches_own
    {selection : Selection}
    {shape : Model}
    {statement : Statement}
    (place : selection.Place shape)
    (distinct : shape.fieldNames.Nodup)
    (built : selection.statement.result = .ok statement) :
    (place.Unshadowed ↔ ∀ rows, place.Fits rows → place.ReadsOwn rows) ∧
      (place.Unshadowed → ∀ (database : Database) (replies : List Reply) (rows : Rows),
        place.Fits rows →
        (database.fetch statement).result replies = .ok rows →
        (database.selectAll selection [shape]).result replies =
          rows.records.mapM fun record =>
            (shape.instanceOf (place.ownRow record)).map .single) := by
  refine ⟨place.unshadowed_iff distinct, fun unshadowed database replies rows fits fetched => ?_⟩
  have reads := (place.unshadowed_iff distinct).mp unshadowed rows fits
  rw [Database.result_selectAll built fetched, place.shaped_of_readsOwn reads]

/-- A field without options. -/
def plainField (name : String) (type : ScalarType) : Field :=
  ⟨name, .scalar type, .plain, none⟩

/-- A model with the fields of authors. -/
def author : Model :=
  ⟨0, "Author", none, [plainField "id" .integer, plainField "name" .text]⟩

/-- A model that shares the name of its key with authors. -/
def book : Model :=
  ⟨1, "Book", none,
    [plainField "id" .integer, plainField "author" .integer, plainField "title" .text]⟩

/-- Authors joined with their books. -/
def authorsAndBooks : Selection :=
  ⟨[.model author, .model book], some "Author",
    [⟨.inner, "Book", [.predicate ⟨"Author.id", .text "Book.author", .column, .eq⟩]⟩], []⟩

/-- Books behind authors. -/
def bookPlace : authorsAndBooks.Place book where
  before := [.model author]
  after := []
  earlier := [["id", "name"]]
  later := []
  targets_eq := rfl
  several := by decide
  isFirst := by
    intro other member
    rw [List.mem_singleton.mp member]
    rfl
  before_brings := .cons rfl .nil
  after_brings := .nil

theorem fetches_own_books :
    ∃ statement, authorsAndBooks.statement.result = .ok statement ∧
      (Database.selectAll ⟨.connection, .sqlite, .empty⟩ authorsAndBooks [book]).result
          [.result 1 ⟨["id", "name", "id", "author", "title"],
            [[.int 3, .text "Cid", .int 1, .int 3, .text "t"]]⟩] =
        .ok [.single ⟨book, [("id", .int 1), ("author", .int 3), ("title", .text "t")]⟩] := by
  obtain ⟨-, fetched⟩ := fetches_own bookPlace (by decide)
    (show authorsAndBooks.statement.result = .ok _ from rfl)
  have unshadowed : bookPlace.Unshadowed := by
    refine .inl fun target member => ?_
    obtain rfl | rfl : target = .model author ∨ target = .model book := by
      simpa [authorsAndBooks] using member
    · rfl
    · rfl
  have fits : bookPlace.Fits ⟨["id", "name", "id", "author", "title"],
      [[.int 3, .text "Cid", .int 1, .int 3, .text "t"]]⟩ := by
    refine ⟨rfl, fun record member => ?_⟩
    rw [List.mem_singleton.mp member]
    rfl
  exact ⟨_, rfl, fetched unshadowed ⟨.connection, .sqlite, .empty⟩ _ _ fits rfl⟩

/-- A log of authors joined with them. -/
def logAndAuthors : Selection :=
  ⟨[.table "log", .model author], some "log",
    [⟨.inner, "Author", [.predicate ⟨"log.author", .text "Author.id", .column, .eq⟩]⟩], []⟩

/-- Authors behind a table with an `id` of its own. -/
def authorPlace : logAndAuthors.Place author where
  before := [.table "log"]
  after := []
  earlier := [["id", "author"]]
  later := []
  targets_eq := rfl
  several := by decide
  isFirst := nofun
  before_brings := .cons trivial .nil
  after_brings := .nil

/-- An author is fetched with the key of another table. -/
theorem fetches_foreign_key :
    ∃ statement, logAndAuthors.statement.result = .ok statement ∧
      authorPlace.Fits ⟨["id", "author", "id", "name"],
        [[.int 7, .int 1, .int 1, .text "Ann"]]⟩ ∧
      authorPlace.ownRow [.int 7, .int 1, .int 1, .text "Ann"] =
        [("id", .int 1), ("name", .text "Ann")] ∧
      (Database.selectAll ⟨.connection, .sqlite, .empty⟩ logAndAuthors [author]).result
          [.result 1 ⟨["id", "author", "id", "name"],
            [[.int 7, .int 1, .int 1, .text "Ann"]]⟩] =
        .ok [.single ⟨author, [("id", .int 7), ("name", .text "Ann")]⟩] := by
  refine ⟨_, rfl, ⟨rfl, fun record member => ?_⟩, rfl, rfl⟩
  rw [List.mem_singleton.mp member]
  rfl

end Selection.Place
end BoundSql
