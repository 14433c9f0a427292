import BoundSql.Proofs.Model.Reading
import BoundSql.Proofs.Session.Sent
import Mathlib.Data.List.Nodup

/-!
# Saved instances read back

When a valid instance is saved, one statement is sent.  It names the fields in their
order, without those that the database fills in, and binds a value for each of them.
Every row with these values, and with nothing for the fields left out, is read as the
instance.  When the instance is updated, the statement names all fields but the key and
binds the key behind their values.  Every row with the key of the instance is read as
the instance once these values are put over it.
-/

namespace BoundSql

/-- What is bound for a value when it is encoded and decoded. -/
def Value.BoundAs (value bound : Value) : Prop :=
  ∃ argument, Argument.encode value = .ok argument ∧ Argument.decode argument = .ok bound

namespace Argument

/-- The values of arguments are bound one by one. -/
theorem forall₂_boundAs
    {values bound : List Value}
    {arguments : List Argument}
    (encodes : values.mapM encode = .ok arguments)
    (decodes : decodeAll arguments = .ok bound) :
    List.Forall₂ Value.BoundAs values bound := by
  induction values generalizing arguments bound with
  | nil =>
      cases encodes
      cases decodes
      exact .nil
  | cons value values restBound =>
      obtain ⟨argument, others, first, rest, rfl⟩ := mapM_cons_eq_ok.mp encodes
      obtain ⟨own, more, decodesFirst, decodesRest, rfl⟩ := mapM_cons_eq_ok.mp decodes
      exact .cons ⟨argument, first, decodesFirst⟩ (restBound rest decodesRest)

end Argument

/-- Each named value is bound under its name. -/
theorem exists_bound_of_mem
    {value : String → Value}
    {names : List String}
    {bound : List Value}
    (allBound : List.Forall₂ Value.BoundAs (names.map value) bound)
    {name : String}
    (member : name ∈ names) :
    ∃ own, (name, own) ∈ names.zip bound ∧ (value name).BoundAs own := by
  induction names generalizing bound with
  | nil => cases member
  | cons first names restBound =>
      obtain _ | ⟨ownBound, allBound⟩ := allBound
      obtain rfl | member := List.mem_cons.mp member
      · exact ⟨_, List.mem_cons_self, ownBound⟩
      · obtain ⟨own, listed, binds⟩ := restBound allBound member
        exact ⟨own, List.mem_cons_of_mem _ listed, binds⟩

namespace Row

/-- A row with other values put over its own. -/
def overlay (row changes : Row) : Row :=
  changes.foldl (fun row pair => Entries.enter (· == ·) row pair.1 pair.2) row

/-- Names that nothing is put over keep their values. -/
theorem lookup_overlay_of_not_mem
    (row : Row)
    {changes : Row}
    {name : String}
    (absent : name ∉ changes.map Prod.fst) :
    (row.overlay changes).lookup name = row.lookup name := by
  induction changes generalizing row with
  | nil => rfl
  | cons pair changes kept =>
      simp only [List.map_cons, List.mem_cons, not_or] at absent
      have entered := Entries.lookup_enter row pair.1 name pair.2
      rw [beq_false_of_ne absent.1, if_neg Bool.false_ne_true] at entered
      exact (kept _ absent.2).trans entered

/-- A value that is put over a row is found under its name. -/
theorem lookup_overlay_of_mem
    {row changes : Row}
    {name : String}
    {value : Value}
    (distinct : (changes.map Prod.fst).Nodup)
    (member : (name, value) ∈ changes) :
    (row.overlay changes).lookup name = some value := by
  induction changes generalizing row with
  | nil => cases member
  | cons pair changes found =>
      rw [List.map_cons, List.nodup_cons] at distinct
      obtain rfl | member := List.mem_cons.mp member
      · have entered := Entries.lookup_enter row name name value
        rw [beq_self_eq_true, if_pos rfl] at entered
        exact (lookup_overlay_of_not_mem _ distinct.1).trans entered
      · exact found distinct.2 member

end Row

namespace Instance

variable {self : Instance}

/-- Whether the database fills in a field of an instance: its value is nothing, and the database
makes up the key or has a default. -/
def leavesOut (self : Instance) (field : Field) : Bool :=
  (self.value field.name).isNull &&
    (field.options.primaryKey && field.options.auto || field.options.default.isSome)

/-- The names of the fields that are saved. -/
def savedNames (self : Instance) : List String :=
  (self.model.fields.filter fun field => !self.leavesOut field).map Field.name

/-- The names of the fields that are updated: all but the key. -/
def updatedNames (self : Instance) (key : String) : List String :=
  self.model.fieldNames.filter (· != key)

/-- Whether the field of the key takes its value in an instance from a row. -/
def KeyIn (self : Instance) (key : String) (row : Row) : Prop :=
  ∀ field ∈ self.model.fields, field.name = key → field.valueIn? row = some (self.value key)

/-- The columns of a model have the names and the options of its fields. -/
theorem savedColumns_eq
    {columns : List Column}
    (derived : self.model.columns = .ok columns) :
    Database.savedColumns self columns =
      self.savedNames.map fun name => (name, self.value name) := by
  have columnsOf : self.model.fields.mapM Column.ofField = .ok columns :=
    mapError_eq_ok.mp derived
  clear derived
  rw [savedNames]
  generalize self.model.fields = fields at columnsOf
  induction fields generalizing columns with
  | nil =>
      cases columnsOf
      rfl
  | cons field fields restSaved =>
      obtain ⟨column, others, first, rest, rfl⟩ := mapM_cons_eq_ok.mp columnsOf
      obtain ⟨type, nullable, _, rfl⟩ := Column.ofField_eq_ok_iff.mp first
      let column : Column := ⟨field.name, type, nullable, field.options⟩
      have same : Database.leavesOut column (self.value column.name) = self.leavesOut field := rfl
      have saved := restSaved rest
      cases omitted : self.leavesOut field with
      | true =>
          have before : Database.savedColumns self (column :: others) =
              Database.savedColumns self others := by
            rw [Database.savedColumns, List.map_cons,
              List.filter_cons_of_neg (by simp [same, omitted])]
            rfl
          rw [before, saved, List.filter_cons_of_neg (by simp [omitted])]
      | false =>
          have before : Database.savedColumns self (column :: others) =
              (column.name, self.value column.name) :: Database.savedColumns self others := by
            rw [Database.savedColumns, List.map_cons,
              List.filter_cons_of_pos (by simp [same, omitted])]
            rfl
          rw [before, saved, List.filter_cons_of_pos (by simp [omitted])]
          rfl

/-- A field of a valid instance has its value in a row that holds what is bound for it. -/
theorem Valid.valueIn?_of_boundAs
    (valid : self.Valid)
    {field : Field}
    (member : field ∈ self.model.fields)
    {row : Row}
    {bound : Value}
    (binds : (self.value field.name).BoundAs bound)
    (found : row.lookup field.name = some bound) :
    field.valueIn? row = some (self.value field.name) := by
  obtain ⟨argument, encodes, decodes⟩ := binds
  exact Field.valueIn?_of_lookup found ((valid.has field member).convert?_bound encodes decodes)

/-- A field that is left out has its value in a row that holds nothing for it. -/
theorem Valid.valueIn?_of_leavesOut
    (valid : self.Valid)
    {field : Field}
    (member : field ∈ self.model.fields)
    {row : Row}
    (omitted : self.leavesOut field = true)
    (found : row.lookup field.name = some .null) :
    field.valueIn? row = some (self.value field.name) := by
  have nothing : self.value field.name = .null := by
    rw [leavesOut, Bool.and_eq_true] at omitted
    have isNull := omitted.1
    cases held : self.value field.name with
    | null => rfl
    | _ =>
        rw [held] at isNull
        cases isNull
  have has := valid.has field member
  rw [nothing] at has ⊢
  exact Field.valueIn?_of_lookup found has.convert?_null

/-- A field that is left out is not among the saved ones. -/
theorem Valid.not_mem_savedNames
    (valid : self.Valid)
    {field : Field}
    (member : field ∈ self.model.fields)
    (omitted : self.leavesOut field = true) :
    field.name ∉ self.savedNames := by
  intro listed
  obtain ⟨other, kept, sameName⟩ := List.mem_map.mp listed
  obtain ⟨otherMember, saved⟩ := List.mem_filter.mp kept
  have same : other = field :=
    List.inj_on_of_nodup_map valid.distinct otherMember member sameName
  rw [same, omitted] at saved
  cases saved

/-- A row with the bound values of the saved fields, and with nothing for the fields left out, is
read as the instance. -/
theorem Valid.instanceOf_of_saved
    (valid : self.Valid)
    {bound : List Value}
    (allBound : List.Forall₂ Value.BoundAs (self.savedNames.map self.value) bound)
    {row : Row}
    (holds : ∀ pair ∈ self.savedNames.zip bound, row.lookup pair.1 = some pair.2)
    (others : ∀ name ∈ self.model.fieldNames, name ∉ self.savedNames →
      row.lookup name = some .null) :
    self.model.instanceOf row = .ok self := by
  apply valid.instanceOf_eq
  intro field member
  cases omitted : self.leavesOut field with
  | true =>
      apply valid.valueIn?_of_leavesOut member omitted
      apply others field.name (List.mem_map_of_mem member)
      exact valid.not_mem_savedNames member omitted
  | false =>
      have listed : field.name ∈ self.savedNames :=
        List.mem_map_of_mem (List.mem_filter.mpr ⟨member, by simp [omitted]⟩)
      obtain ⟨own, paired, binds⟩ := exists_bound_of_mem allBound listed
      exact valid.valueIn?_of_boundAs member binds (holds _ paired)

/-- A row with the key of an instance is read as the instance when the bound values of the updated
fields are put over it. -/
theorem Valid.instanceOf_overlay
    (valid : self.Valid)
    {key : String}
    {bound : List Value}
    (allBound : List.Forall₂ Value.BoundAs ((self.updatedNames key).map self.value) bound)
    {row : Row}
    (keyIn : self.KeyIn key row) :
    self.model.instanceOf (row.overlay ((self.updatedNames key).zip bound)) = .ok self := by
  have sameLength : (self.updatedNames key).length = bound.length := by
    rw [← allBound.length_eq, List.length_map]
  have names : ((self.updatedNames key).zip bound).map Prod.fst = self.updatedNames key :=
    List.map_fst_zip (Nat.le_of_eq sameLength)
  have distinct : (self.updatedNames key).Nodup := valid.distinct.filter _
  apply valid.instanceOf_eq
  intro field member
  by_cases isKey : field.name = key
  · have absent : field.name ∉ ((self.updatedNames key).zip bound).map Prod.fst := by
      rw [names, updatedNames, List.mem_filter]
      simp [isKey]
    have kept := Row.lookup_overlay_of_not_mem row absent
    have own := keyIn field member isKey
    rw [Field.valueIn?, kept, ← Field.valueIn?, own, isKey]
  · have listed : field.name ∈ self.updatedNames key :=
      List.mem_filter.mpr ⟨List.mem_map_of_mem member, by simp [isKey]⟩
    obtain ⟨own, paired, binds⟩ := exists_bound_of_mem allBound listed
    apply valid.valueIn?_of_boundAs member binds
    exact Row.lookup_overlay_of_mem (names.symm ▸ distinct) paired

end Instance

namespace Database

variable {database : Database} {self : Instance} {replies : List Reply}

/-- Saving sends one insertion of the saved fields with what is bound for their values. -/
theorem save_succeeds
    (saved : (database.save self).result replies = .ok ()) :
    ∃ bound, List.Forall₂ Value.BoundAs (self.savedNames.map self.value) bound ∧
      (database.save self).sent replies =
        [(Statement.insertText database.dialect self.model.tableName self.savedNames, bound)] := by
  obtain ⟨columns, derived, saved, shareColumns⟩ := Exchange.ofExcept_succeeds saved
  obtain ⟨values, made, saved, shareValues⟩ := Exchange.ofExcept_succeeds saved
  obtain ⟨statement, rest, inserted, saved, shareStatement⟩ := Exchange.compile_succeeds saved
  obtain ⟨_, _, executed, _, shareExecuted⟩ := Exchange.bind_succeeds saved
  obtain ⟨bound, decodes, sends⟩ := execute_succeeds executed
  rw [Instance.savedColumns_eq derived] at made
  obtain ⟨predicates, rfl, fields, allBound, encodes⟩ := Conditions.equalities_eq_ok made
  have names : predicates.map Predicate.field = self.savedNames := by
    rw [fields, List.map_map]
    exact List.map_id _
  have sameArguments := (Statement.insert_binds inserted).arguments_eq
  rw [Conditions.arguments_of_predicates allBound] at sameArguments
  rw [Statement.bound, sameArguments] at decodes
  rw [List.map_map] at encodes
  refine ⟨bound, Argument.forall₂_boundAs encodes decodes, ?_⟩
  have text := Statement.text_of_insert allBound inserted database.dialect
  rw [names] at text
  rw [← text]
  refine (shareColumns.trans (shareValues.trans (shareStatement.trans shareExecuted))).trans ?_
  rw [sends]
  rfl

/-- Updating some fields sends one update of them with what is bound for their values, and with what
is bound for the key behind them. -/
theorem update_succeeds
    {key : String}
    {count : Int}
    (known : self.model.primaryKey = .ok key)
    (some : self.updatedNames key ≠ [])
    (updated : (database.update self).result replies = .ok count) :
    ∃ bound keyBound, List.Forall₂ Value.BoundAs ((self.updatedNames key).map self.value) bound ∧
      (self.value key).BoundAs keyBound ∧
      (database.update self).sent replies =
        [(Statement.updateText database.dialect self.model.tableName key (self.updatedNames key),
          bound ++ [keyBound])] := by
  obtain ⟨first, firstKnown, updated, shareKey⟩ := Exchange.ofExcept_succeeds updated
  obtain rfl := Except.ok.inj (known.symm.trans firstKnown)
  have present : (updatedFields self key).isEmpty = false := by
    simpa [updatedFields, Instance.updatedNames] using some
  dsimp only at updated shareKey
  rw [present, if_neg Bool.false_ne_true] at updated shareKey
  obtain ⟨values, made, updated, shareValues⟩ := Exchange.ofExcept_succeeds updated
  obtain ⟨again, againKnown, updated, shareAgain⟩ := Exchange.ofExcept_succeeds updated
  obtain rfl := Except.ok.inj (known.symm.trans againKnown)
  obtain ⟨statement, rest, written, executed, shareStatement⟩ := Exchange.compile_succeeds updated
  obtain ⟨allValues, decodes, sends⟩ := execute_succeeds executed
  obtain ⟨predicates, rfl, fields, allBound, encodes⟩ := Conditions.equalities_eq_ok made
  have names : predicates.map Predicate.field = self.updatedNames key := by
    rw [fields, updatedFields, List.map_map]
    exact List.map_id _
  obtain ⟨encoded, encodesKey, binds⟩ := Statement.updateByKey_binds written
  have sameArguments := binds.arguments_eq
  rw [Conditions.arguments_of_predicates allBound] at sameArguments
  rw [Statement.bound, sameArguments] at decodes
  obtain ⟨bound, last, decodesFields, decodesLast, rfl⟩ := mapM_append_eq_ok decodes
  obtain ⟨keyBound, others, decodesKey, finished, rfl⟩ := mapM_cons_eq_ok.mp decodesLast
  cases finished
  rw [updatedFields, List.map_map] at encodes
  refine ⟨bound, keyBound, Argument.forall₂_boundAs encodes decodesFields,
    ⟨encoded, encodesKey, decodesKey⟩, ?_⟩
  have text := Statement.text_of_updateByKey allBound written database.dialect
  rw [names] at text
  rw [← text]
  exact shareKey.trans (shareValues.trans (shareAgain.trans (shareStatement.trans sends)))

/-- A valid instance that is saved or updated reads back.

If saving succeeds, the insertion that is sent names the saved fields, each of them once, and binds
as many values; every row with these values, and with nothing for the fields left out, is read as
the instance.  If updating succeeds and there are fields besides the key, the update that is sent
names them, each of them once, and binds the key behind as many values; every row with the key of
the instance, be it the bound one or another value for it, is read as the instance when the bound
values are put over it. -/
theorem reads_back
    (valid : self.Valid)
    (database : Database)
    (replies : List Reply) :
    ((database.save self).result replies = .ok () →
      ∃ bound : List Value,
        (database.save self).sent replies =
          [(Statement.insertText database.dialect self.model.tableName self.savedNames, bound)] ∧
        self.savedNames.Nodup ∧ bound.length = self.savedNames.length ∧
        ∀ row : Row, (∀ pair ∈ self.savedNames.zip bound, row.lookup pair.1 = some pair.2) →
          (∀ name ∈ self.model.fieldNames, name ∉ self.savedNames →
            row.lookup name = some .null) →
          self.model.instanceOf row = .ok self) ∧
    ∀ key count, self.model.primaryKey = .ok key → self.updatedNames key ≠ [] →
      (database.update self).result replies = .ok count →
      ∃ (bound : List Value) (keyBound : Value),
        (database.update self).sent replies =
          [(Statement.updateText database.dialect self.model.tableName key (self.updatedNames key),
            bound ++ [keyBound])] ∧
        (self.updatedNames key).Nodup ∧ bound.length = (self.updatedNames key).length ∧
        (∀ row : Row, row.lookup key = some keyBound → self.KeyIn key row) ∧
        ∀ row : Row, self.KeyIn key row →
          self.model.instanceOf (row.overlay ((self.updatedNames key).zip bound)) = .ok self := by
  refine ⟨fun saved => ?_, fun key count known present updated => ?_⟩
  · obtain ⟨bound, allBound, sends⟩ := save_succeeds saved
    have distinct : self.savedNames.Nodup := valid.distinct.sublist (List.filter_sublist.map _)
    refine ⟨bound, sends, distinct, ?_, fun row holds others => ?_⟩
    · rw [← allBound.length_eq, List.length_map]
    · exact valid.instanceOf_of_saved allBound holds others
  · obtain ⟨bound, keyBound, allBound, keyBinds, sends⟩ := update_succeeds known present updated
    refine ⟨bound, keyBound, sends, valid.distinct.filter _, ?_, fun row found => ?_, fun row =>
      valid.instanceOf_overlay allBound⟩
    · rw [← allBound.length_eq, List.length_map]
    · intro field member isKey
      subst isKey
      exact valid.valueIn?_of_boundAs member keyBinds found

/-- The levels of a person. -/
def levelType : EnumerationType :=
  ⟨⟨"Level", .integer, false⟩, [("LOW", .int 1), ("HIGH", .int 3)]⟩

/-- A model with a key that the database makes up, an optional level and a note with a default. -/
def personModel : Model :=
  { serial := 0
    name := "Person"
    table := none
    fields :=
      [⟨"id", .optional .barred (.scalar .integer),
          { ColumnOptions.plain with primaryKey := true, auto := true }, some .null⟩,
        ⟨"name", .scalar .text, .plain, none⟩,
        ⟨"level", .optional .bracketed (.scalar (.enumerated levelType)), .plain, none⟩,
        ⟨"note", .optional .barred (.scalar .text),
          { ColumnOptions.plain with default := some (.text "none") }, some .null⟩] }

/-- A person whose name is the text that null is encoded as. -/
def person : Instance :=
  ⟨personModel,
    [("id", .int 7), ("name", .text "null"),
      ("level", .member levelType.enumeration "HIGH" (.int 3)), ("note", .null)]⟩

theorem person_valid : person.Valid where
  distinct := by decide
  names_eq := rfl
  has field member := by
    have stored : levelType.Stored :=
      ⟨.inr ⟨rfl, rfl, by simp [levelType]⟩, by simp [levelType]⟩
    change field ∈ [_, _, _, _] at member
    simp only [List.mem_cons, List.not_mem_nil, or_false] at member
    obtain rfl | rfl | rfl | rfl := member
    · exact .value rfl (.integer 7)
    · exact .value rfl (.text "null")
    · exact .value rfl (.member stored (by simp [levelType]))
    · exact .null (show _ = some (ScalarType.text, true) from rfl) trivial

theorem reads_back_person :
    person.Valid ∧
      (∃ bound, (save ⟨.engine, .sqlite, .empty⟩ person).sent [] =
          [(Statement.insertText .sqlite "Person" ["id", "name", "level"], bound)] ∧
        ∀ row : Row, (∀ pair ∈ ["id", "name", "level"].zip bound, row.lookup pair.1 = some pair.2) →
          row.lookup "note" = some .null → personModel.instanceOf row = .ok person) ∧
      ∃ bound keyBound, (update ⟨.engine, .sqlite, .empty⟩ person).sent [] =
          [(Statement.updateText .sqlite "Person" "id" ["name", "level", "note"],
            bound ++ [keyBound])] ∧
        ∀ row : Row, row.lookup "id" = some keyBound →
          personModel.instanceOf (row.overlay (["name", "level", "note"].zip bound)) =
            .ok person := by
  obtain ⟨saving, updating⟩ := reads_back person_valid ⟨.engine, .sqlite, .empty⟩ []
  refine ⟨person_valid, ?_, ?_⟩
  · obtain ⟨bound, sends, _, _, reads⟩ := saving rfl
    refine ⟨bound, sends, fun row holds omitted => reads row holds fun name field notSaved => ?_⟩
    change name ∈ ["id", "name", "level", "note"] at field
    change name ∉ ["id", "name", "level"] at notSaved
    obtain rfl : name = "note" := by
      simp only [List.mem_cons, List.not_mem_nil, or_false] at field notSaved
      tauto
    exact omitted
  · obtain ⟨bound, keyBound, sends, _, _, keyIn, reads⟩ :=
      updating "id" 1 rfl (List.cons_ne_nil _ _) rfl
    exact ⟨bound, keyBound, sends, fun row found => reads row (keyIn row found)⟩

end Database
end BoundSql
