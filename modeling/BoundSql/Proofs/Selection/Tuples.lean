import BoundSql.Proofs.Selection.OwnColumns
import Mathlib.Data.List.SplitLengths
import Mathlib.Data.Set.List

/-!
# Tuples of a selection of models

A result of a selection of several models is read in tuples.  Its columns and each of its
records are cut into consecutive slices, one for each model and as wide as the model has
fields.  A component of a tuple is made of the names and the values of its slice.  Only
the number of the columns counts for the cut, not their names.

One of the models by itself is read from the same slices, so its instances are the
components at its first place.
-/

namespace BoundSql

/-- The rows of a record are made of groups of names and the slices of the values that are as long
as these groups. -/
theorem Rows.cut_eq_zipWith (groups : List (List String)) (values : List Value) :
    cut groups values =
      List.zipWith (fun names slice => Row.ofLast (names.zip slice)) groups
        ((groups.map List.length).splitLengths values) := by
  induction groups generalizing values with
  | nil => rfl
  | cons names groups cutRest =>
      rw [cut, cutRest, List.map_cons, List.splitLengths_cons, List.zipWith_cons_cons]

namespace Selection

/-- The number of fields of all models of a selection together. -/
def width (selection : Selection) : Nat :=
  (Rows.widths selection.models).sum

/-- A list cut into a slice for each model of a selection, as wide as the model has fields. -/
def slices {α : Type} (selection : Selection) (items : List α) : List (List α) :=
  (Rows.widths selection.models).splitLengths items

/-- Whether a list is its slices one after the other, and each slice is as wide as its model. -/
structure Sliced {α : Type} (selection : Selection) (items : List α) : Prop where
  flatten_eq : (selection.slices items).flatten = items
  widths_eq : (selection.slices items).map List.length = Rows.widths selection.models

/-- The row of the slices of names and values at a place. -/
def sliceRow
    (selection : Selection)
    (names : List String)
    (record : List Value)
    (place : Nat) : Row :=
  Row.ofLast (((selection.slices names).getD place []).zip
    ((selection.slices record).getD place []))

/-- Whether tuples are made of the records of a result, in their order: each has a component for
each model of a selection, and it is the instance that the model makes of the slice at its
place. -/
structure Tuples (selection : Selection) (rows : Rows) (tuples : List (List Instance)) : Prop where
  length_eq : tuples.length = rows.records.length
  length_tuple : ∀ tuple ∈ tuples, tuple.length = selection.models.length
  component : ∀ (line place : Nat) (record : List Value) (tuple : List Instance)
    (model : Model) (self : Instance),
    rows.records[line]? = some record → tuples[line]? = some tuple →
    selection.models[place]? = some model → tuple[place]? = some self →
    model.instanceOf (selection.sliceRow rows.columns record place) = .ok self

variable {selection : Selection} {rows : Rows}

section Slices

variable {α : Type} {items : List α}

/-- A list as long as a selection is wide is cut into slices. -/
theorem sliced_of_length (complete : items.length = selection.width) : selection.Sliced items where
  flatten_eq := List.flatten_splitLengths _ _ complete.le
  widths_eq := List.map_splitLengths_length _ _ complete.ge

/-- There is a slice for each model. -/
theorem length_slices (items : List α) :
    (selection.slices items).length = selection.models.length := by
  rw [slices, List.length_splitLengths, Rows.widths, List.length_map]

end Slices

/-- The row that is cut off for a place is the one of the slices at this place. -/
theorem getElem?_cut
    {names : List String}
    {place : Nat}
    (complete : names.length = selection.width)
    (within : place < selection.models.length)
    (record : List Value) :
    (Rows.cut (selection.slices names) record)[place]? =
      some (selection.sliceRow names record place) := by
  have withinNames : place < (selection.slices names).length := by
    rw [length_slices]
    exact within
  have withinValues : place < (selection.slices record).length := by
    rw [length_slices]
    exact within
  rw [Rows.cut_eq_zipWith, (sliced_of_length complete).widths_eq]
  refine List.getElem?_zipWith_eq_some.mpr
    ⟨_, _, List.getElem?_eq_getElem withinNames, List.getElem?_eq_getElem withinValues, ?_⟩
  rw [sliceRow, List.getD_eq_getElem?_getD, List.getD_eq_getElem?_getD,
    List.getElem?_eq_getElem withinNames, List.getElem?_eq_getElem withinValues]
  rfl

/-- Complete records are cut into the slices for the models. -/
theorem groups_eq_ok
    (fits : selection.width = rows.columns.length)
    (complete : ∀ record ∈ rows.records, record.length = rows.columns.length) :
    rows.groups selection.models =
      .ok (rows.records.map (Rows.cut (selection.slices rows.columns))) := by
  have sliced : selection.Sliced rows.columns := sliced_of_length fits.symm
  exact Rows.groups_eq_ok_of_flatten sliced.flatten_eq.symm sliced.widths_eq.symm complete

/-- The tuple of a record. -/
def tuple (selection : Selection) (names : List String) (record : List Value) :
    Except Error (List Instance) :=
  instancesOf selection.models (Rows.cut (selection.slices names) record)

/-- A pair that an instance is made of is a model and the row of the slices at its place. -/
theorem getElem?_zip_cut
    {names : List String}
    (complete : names.length = selection.width)
    (record : List Value)
    (place : Nat)
    (model : Model)
    (row : Row) :
    (selection.models.zip (Rows.cut (selection.slices names) record))[place]? =
        some (model, row) ↔
      selection.models[place]? = some model ∧ selection.sliceRow names record place = row := by
  rw [List.getElem?_zip_eq_some]
  refine and_congr_right fun atPlace => ?_
  have within := (List.getElem?_eq_some_iff.mp atPlace).1
  rw [getElem?_cut complete within, Option.some_inj]

/-- A record has a tuple exactly when every slice has an instance. -/
theorem tuple_eq_ok_iff
    {names : List String}
    {record : List Value}
    {selves : List Instance}
    (complete : names.length = selection.width) :
    selection.tuple names record = .ok selves ↔
      selves.length = selection.models.length ∧
        ∀ (place : Nat) (model : Model) (self : Instance),
          selection.models[place]? = some model → selves[place]? = some self →
          model.instanceOf (selection.sliceRow names record place) = .ok self := by
  have counted : (selection.models.zip (Rows.cut (selection.slices names) record)).length =
      selection.models.length := by
    rw [Rows.cut_eq_zipWith, (sliced_of_length complete).widths_eq, List.length_zip,
      List.length_zipWith, ← slices, length_slices, length_slices, Nat.min_self, Nat.min_self]
  rw [tuple, instancesOf, mapM_eq_ok_iff, counted]
  refine and_congr_right fun _ => ⟨fun each place model self atModel atSelf => ?_,
    fun each place pair self atPair atSelf => ?_⟩
  · exact each place (model, _) self
      ((getElem?_zip_cut complete record place model _).mpr ⟨atModel, rfl⟩) atSelf
  · obtain ⟨model, row⟩ := pair
    obtain ⟨atModel, rfl⟩ := (getElem?_zip_cut complete record place model row).mp atPair
    exact each place model self atModel atSelf

/-- A record has no tuple only if a slice has no instance. -/
theorem exists_of_tuple_eq_error
    {names : List String}
    {record : List Value}
    {error : Error}
    (complete : names.length = selection.width)
    (failed : selection.tuple names record = .error error) :
    ∃ (place : Nat) (model : Model), selection.models[place]? = some model ∧
      model.instanceOf (selection.sliceRow names record place) = .error error := by
  obtain ⟨before, ⟨model, row⟩, after, split, _, fails⟩ := mapM_eq_error.mp failed
  have atPair : (selection.models.zip (Rows.cut (selection.slices names) record))[before.length]? =
      some (model, row) := by
    rw [split, List.getElem?_append_right (Nat.le_refl _), Nat.sub_self]
    rfl
  obtain ⟨atModel, rfl⟩ := (getElem?_zip_cut complete record _ model row).mp atPair
  exact ⟨before.length, model, atModel, fails⟩

/-- Where all of several targets are models, there are several models. -/
theorem one_lt_length_models
    (several : 1 < selection.targets.length)
    (allModels : AllModels selection.targets) :
    1 < selection.models.length := by
  rw [allModels.eq_map, List.length_map] at several
  exact several

/-- A selection of several models is read as the tuples of the records, or as an error of columns
that do not match the models in number. -/
theorem shaped_models
    (several : 1 < selection.models.length)
    (complete : ∀ record ∈ rows.records, record.length = rows.columns.length) :
    selection.shaped selection.models rows =
      if selection.width = rows.columns.length then
        (rows.records.mapM (selection.tuple rows.columns)).map (List.map .several)
      else
        .error (.columnCount rows.columns.length (selection.models.map Model.name)
          selection.width) := by
  have unfolded : selection.shaped selection.models rows = (do
      let groups ← rows.groups selection.models
      groups.mapM fun group => (instancesOf selection.models group).map .several) := by
    unfold shaped
    split
    · rename_i single
      rw [single] at several
      exact absurd several (Nat.lt_irrefl 1)
    · rfl
  rw [unfolded]
  split
  · rename_i fits
    rw [groups_eq_ok fits complete, ← mapM_map_result]
    exact List.mapM_map
  · rename_i misfits
    rw [Rows.groups, ← List.sum_eq_foldl, ← width, if_pos (bne_iff_ne.mpr misfits)]
    rfl

/-- A model of the selection is read from the slices at its first place. -/
theorem shaped_first
    {before after : List Model}
    {shape : Model}
    (several : 1 < selection.targets.length)
    (allModels : AllModels selection.targets)
    (models_eq : selection.models = before ++ shape :: after)
    (isFirst : ∀ other ∈ before, other.isSame shape = false)
    (fits : selection.width = rows.columns.length)
    (complete : ∀ record ∈ rows.records, record.length = rows.columns.length) :
    selection.shaped [shape] rows =
      (rows.records.mapM fun record =>
        shape.instanceOf (selection.sliceRow rows.columns record before.length)).map
          (List.map .single) := by
  have within : before.length < selection.models.length := by
    rw [models_eq, List.length_append, List.length_cons]
    omega
  have rowsRead : selection.rowsOf shape rows =
      .ok (rows.records.map fun record =>
        selection.sliceRow rows.columns record before.length) := by
    rw [rowsOf, groupOf?_eq_length several allModels models_eq isFirst]
    dsimp only
    rw [groups_eq_ok fits complete]
    refine congrArg Except.ok (List.map_map.trans (List.map_congr_left fun record _ => ?_))
    rw [Function.comp_apply, List.getD_eq_getElem?_getD, getElem?_cut fits.symm within,
      Option.getD_some]
  rw [shaped, rowsRead, ← mapM_map_result]
  exact List.mapM_map

/-- All records have a tuple exactly when there are tuples made of them, in their order. -/
theorem mapM_tuple_eq_ok_iff
    {tuples : List (List Instance)}
    (fits : selection.width = rows.columns.length) :
    rows.records.mapM (selection.tuple rows.columns) = .ok tuples ↔
      selection.Tuples rows tuples := by
  rw [mapM_eq_ok_iff]
  constructor
  · rintro ⟨counted, each⟩
    refine ⟨counted, fun selves member => ?_, fun line place record selves model self atRecord
      atTuple => ((tuple_eq_ok_iff fits.symm).mp (each line record selves atRecord atTuple)).2
        place model self⟩
    obtain ⟨line, atTuple⟩ := List.getElem?_of_mem member
    have within : line < rows.records.length := by
      rw [← counted]
      exact (List.getElem?_eq_some_iff.mp atTuple).1
    exact ((tuple_eq_ok_iff fits.symm).mp
      (each line _ selves (List.getElem?_eq_getElem within) atTuple)).1
  · rintro ⟨counted, widths, component⟩
    refine ⟨counted, fun line record selves atRecord atTuple => ?_⟩
    exact (tuple_eq_ok_iff fits.symm).mpr ⟨widths selves (List.mem_of_getElem? atTuple),
      fun place model self => component line place record selves model self atRecord atTuple⟩

/-- There are no tuples only if a slice of a record has no valid instance. -/
theorem exists_of_mapM_tuple_eq_error
    {error : Error}
    (fits : selection.width = rows.columns.length)
    (failed : rows.records.mapM (selection.tuple rows.columns) = .error error) :
    ∃ record ∈ rows.records, ∃ (place : Nat) (model : Model) (fields : List String),
      selection.models[place]? = some model ∧ error = .validation fields ∧
      model.instanceOf (selection.sliceRow rows.columns record place) = .error error := by
  obtain ⟨before, record, after, split, _, fails⟩ := mapM_eq_error.mp failed
  obtain ⟨place, model, atPlace, refused⟩ := exists_of_tuple_eq_error fits.symm fails
  obtain ⟨fields, invalid⟩ := Model.exists_of_instanceOf_eq_error refused
  have member : record ∈ rows.records := by
    rw [split]
    exact List.mem_append_right _ List.mem_cons_self
  exact ⟨record, member, place, model, fields, atPlace, invalid, refused⟩

/-- From tuples a model is read as their components at its first place. -/
theorem Tuples.exists_components
    {tuples : List (List Instance)}
    {before after : List Model}
    {shape : Model}
    (made : selection.Tuples rows tuples)
    (models_eq : selection.models = before ++ shape :: after) :
    ∃ selves, tuples.map (·[before.length]?) = selves.map some ∧
      (rows.records.mapM fun record =>
        shape.instanceOf (selection.sliceRow rows.columns record before.length)) = .ok selves := by
  have atShape : selection.models[before.length]? = some shape := by
    rw [models_eq, List.getElem?_append_right (Nat.le_refl _), Nat.sub_self]
    rfl
  have within := (List.getElem?_eq_some_iff.mp atShape).1
  obtain ⟨selves, components⟩ : tuples.map (·[before.length]?) ∈ Set.range (List.map some) := by
    rw [Set.range_list_map]
    intro component member
    obtain ⟨selves, inTuples, rfl⟩ := List.mem_map.mp member
    have reached : before.length < selves.length := by
      rw [made.length_tuple selves inTuples]
      exact within
    exact ⟨_, (List.getElem?_eq_getElem reached).symm⟩
  refine ⟨selves, components.symm,
    mapM_eq_ok_iff.mpr ⟨?_, fun line record self atRecord atSelf => ?_⟩⟩
  · rw [← made.length_eq, ← List.length_map (f := some), components, List.length_map]
  · have atComponent : (tuples.map (·[before.length]?))[line]? = some (some self) := by
      rw [← components, List.getElem?_map, atSelf]
      rfl
    rw [List.getElem?_map, Option.map_eq_some_iff] at atComponent
    obtain ⟨selves, atTuple, atPlace⟩ := atComponent
    exact made.component line _ record selves shape self atRecord atTuple atShape atPlace

end Selection

namespace Database

open Selection

variable {database : Database} {selection : Selection} {statement : Statement} {rows : Rows}
  {replies : List Reply}

/-- Without a shape that is asked for a selection is read in its models. -/
theorem result_selectAll_models
    (several : 1 < selection.models.length)
    (built : selection.statement.result = .ok statement)
    (fetched : (database.fetch statement).result replies = .ok rows) :
    (database.selectAll selection []).result replies =
      selection.shaped selection.models rows := by
  refine result_selectAll_of_shapesFor ?_ built fetched
  have some : selection.models.isEmpty = false :=
    List.isEmpty_eq_false_iff.mpr (List.ne_nil_of_length_pos (by omega))
  rw [shapesFor, List.isEmpty_nil, if_pos rfl, some]
  rfl

/-- A selection of several models is read as an error of columns exactly when the models do not have
as many fields as there are columns.  Otherwise the columns and the records are cut into slices, and
it is read as the tuples of the records unless a slice has no valid instance.  From the same rows a
model of the selection is read as the components of the tuples at its first place. -/
theorem selectAll_tuples
    (several : 1 < selection.targets.length)
    (allModels : AllModels selection.targets)
    (built : selection.statement.result = .ok statement)
    (fetched : (database.fetch statement).result replies = .ok rows)
    (complete : ∀ record ∈ rows.records, record.length = rows.columns.length) :
    ((∃ found names expected, (database.selectAll selection []).result replies =
        .error (.columnCount found names expected)) ↔
      selection.width ≠ rows.columns.length) ∧
    (selection.width ≠ rows.columns.length →
      (database.selectAll selection []).result replies =
        .error (.columnCount rows.columns.length (selection.models.map Model.name)
          selection.width)) ∧
    (selection.width = rows.columns.length →
      selection.Sliced rows.columns ∧
      (∀ record ∈ rows.records, selection.Sliced record) ∧
      (∀ shaped, (database.selectAll selection []).result replies = .ok shaped ↔
        ∃ tuples, selection.Tuples rows tuples ∧ tuples.map .several = shaped) ∧
      (∀ error, (database.selectAll selection []).result replies = .error error →
        ∃ record ∈ rows.records, ∃ (place : Nat) (model : Model) (fields : List String),
          selection.models[place]? = some model ∧ error = .validation fields ∧
          model.instanceOf (selection.sliceRow rows.columns record place) = .error error)) ∧
    (∀ shaped, (database.selectAll selection []).result replies = .ok shaped →
      ∀ before shape after, selection.models = before ++ shape :: after →
        (∀ other ∈ before, other.isSame shape = false) →
        ∃ (tuples : List (List Instance)) (selves : List Instance),
          tuples.map .several = shaped ∧ tuples.map (·[before.length]?) = selves.map some ∧
          (database.selectAll selection [shape]).result replies = .ok (selves.map .single)) := by
  have severalModels := one_lt_length_models several allModels
  rw [result_selectAll_models severalModels built fetched, shaped_models severalModels complete]
  by_cases fits : selection.width = rows.columns.length
  · rw [if_pos fits]
    have tuplesOf : ∀ shaped : List Shaped,
        (rows.records.mapM (selection.tuple rows.columns)).map (List.map .several) = .ok shaped ↔
          ∃ tuples, selection.Tuples rows tuples ∧ tuples.map .several = shaped := fun _ =>
      map_eq_ok.trans (exists_congr fun _ => and_congr_left fun _ => mapM_tuple_eq_ok_iff fits)
    refine ⟨iff_of_false ?_ (not_not_intro fits), fun misfits => absurd fits misfits,
      fun _ => ⟨sliced_of_length fits.symm, fun record member =>
        sliced_of_length ((complete record member).trans fits.symm), tuplesOf,
        fun _ failed => exists_of_mapM_tuple_eq_error fits (map_eq_error.mp failed)⟩, ?_⟩
    · rintro ⟨found, names, expected, failed⟩
      obtain ⟨_, _, _, _, _, _, other, _⟩ :=
        exists_of_mapM_tuple_eq_error fits (map_eq_error.mp failed)
      cases other
    · intro shaped ok before shape after models_eq isFirst
      obtain ⟨tuples, made, several_eq⟩ := (tuplesOf shaped).mp ok
      obtain ⟨selves, components, instances⟩ := made.exists_components models_eq
      refine ⟨tuples, selves, several_eq, components, ?_⟩
      rw [result_selectAll built fetched,
        shaped_first several allModels models_eq isFirst fits complete, instances]
      rfl
  · rw [if_neg fits]
    exact ⟨iff_of_true ⟨_, _, _, rfl⟩ fits, fun _ => rfl, fun same => absurd same fits, nofun⟩

/-- An author with a book. -/
def authorAndBook : Rows :=
  ⟨["id", "name", "id", "author", "title"], [[.int 3, .text "Cid", .int 1, .int 3, .text "t"]]⟩

/-- The author. -/
def cid : Instance :=
  ⟨Place.author, [("id", .int 3), ("name", .text "Cid")]⟩

/-- The book. -/
def cidsBook : Instance :=
  ⟨Place.book, [("id", .int 1), ("author", .int 3), ("title", .text "t")]⟩

/-- An author and a book are read as a pair, and the book by itself as its second component.  Four
columns are too few for them. -/
theorem selectAll_tuples_books :
    ∃ statement, Place.authorsAndBooks.statement.result = .ok statement ∧
      (Database.selectAll ⟨.connection, .sqlite, .empty⟩ Place.authorsAndBooks []).result
          [.result 1 authorAndBook] = .ok [.several [cid, cidsBook]] ∧
      (Database.selectAll ⟨.connection, .sqlite, .empty⟩ Place.authorsAndBooks
          [Place.book]).result [.result 1 authorAndBook] = .ok [.single cidsBook] ∧
      (Database.selectAll ⟨.connection, .sqlite, .empty⟩ Place.authorsAndBooks []).result
          [.result 0 ⟨["id", "name", "id", "author"], []⟩] =
        .error (.columnCount 4 ["Author", "Book"] 5) := by
  have several : 1 < Place.authorsAndBooks.targets.length := by decide
  have allModels : AllModels Place.authorsAndBooks.targets := by
    intro target member
    obtain rfl | rfl : target = .model Place.author ∨ target = .model Place.book := by
      simpa [Place.authorsAndBooks] using member
    · rfl
    · rfl
  have complete : ∀ record ∈ authorAndBook.records,
      record.length = authorAndBook.columns.length := by
    intro record member
    rw [List.mem_singleton.mp member]
    rfl
  have pair : (Database.selectAll ⟨.connection, .sqlite, .empty⟩ Place.authorsAndBooks []).result
      [.result 1 authorAndBook] = .ok [.several [cid, cidsBook]] := rfl
  refine ⟨_, rfl, pair, ?_, ?_⟩
  · obtain ⟨-, -, -, alone⟩ := selectAll_tuples several allModels
      (show Place.authorsAndBooks.statement.result = .ok _ from rfl)
      (show (Database.fetch ⟨.connection, .sqlite, .empty⟩ _).result
        [.result 1 authorAndBook] = .ok authorAndBook from rfl) complete
    obtain ⟨tuples, selves, same, components, read⟩ := alone _ pair [Place.author] Place.book []
      rfl (fun other member => by rw [List.mem_singleton.mp member]; rfl)
    obtain ⟨_, rfl, selected⟩ := List.map_eq_singleton_iff.mp same
    cases selected
    obtain ⟨_, rfl, component⟩ := List.map_eq_singleton_iff.mp components.symm
    cases component
    exact read
  · obtain ⟨-, mismatch, -⟩ := selectAll_tuples several allModels
      (show Place.authorsAndBooks.statement.result = .ok _ from rfl)
      (show (Database.fetch ⟨.connection, .sqlite, .empty⟩ _).result
        [.result 0 ⟨["id", "name", "id", "author"], []⟩] =
          .ok ⟨["id", "name", "id", "author"], []⟩ from rfl)
      fun _ member => absurd member List.not_mem_nil
    exact mismatch (by decide)

end Database
end BoundSql
