import BoundSql.Model.Schema
import BoundSql.Proofs.Model.Stored
import BoundSql.Proofs.Outcome
import BoundSql.Proofs.Text.Folding
import BoundSql.Proofs.Value.Written

/-!
# Definitions of columns

The definition of a column has parts in a fixed order: its name, its type or key clause, and
behind that those of uniqueness, the default, the exclusion of nothing and the reference
that the field calls for.  The relations of this module say what each part is for a type
and options, apart from how it is computed.

A definition is made exactly when every part that is called for can be written, and then
it is the text of the parts.
-/

namespace BoundSql

/-! ## Parts -/

namespace Column

/-- The clause behind the name of a column. -/
inductive Clause
  | typed (sqlType : String)
  | key (sqlType : String)
  | autoKey (dialect : Dialect)

namespace Clause

/-- The text of a clause. -/
def text : Clause → String
  | .typed sqlType => sqlType
  | .key sqlType => sqlType ++ " primary key"
  | .autoKey dialect => autoKeyClause dialect

/-- Whether a clause makes its column the key. -/
def isKey : Clause → Bool
  | .typed _ => false
  | .key _ | .autoKey _ => true

end Clause

/-- The parts of the definition of a column. -/
structure Parts where
  name : String
  clause : Clause
  unique : Bool
  default : Option String
  required : Bool
  /-- The table and the column that the column refers to. -/
  reference : Option (String × String)

namespace Parts

/-- The texts of the parts behind the clause, in their order. -/
def options (parts : Parts) : List String :=
  (if parts.unique then ["unique"] else []) ++
    (parts.default.map fun text => "default " ++ text).toList ++
    (if parts.required then ["not null"] else []) ++
    (parts.reference.map fun (table, column) =>
      "references " ++ table ++ "(" ++ column ++ ")").toList

/-- The text of a definition. -/
def text (parts : Parts) : String :=
  " ".intercalate (parts.name :: parts.clause.text :: parts.options)

end Parts

/-! ## What calls for the parts -/

/-- Whether a text is the SQL type of values that are stored in a way.  The length of a text column
is written if it is set and not zero. -/
inductive SqlType (options : ColumnOptions) : Storage → String → Prop
  | boolean : SqlType options .boolean "integer"
  | integer : SqlType options .integer "integer"
  | real : SqlType options .real "float"
  | unbounded : options.text = true → SqlType options .text "text"
  | ordinary :
      options.text = false → options.size.truthy = false → SqlType options .text "varchar(255)"
  | sized :
      options.text = false → options.size.truthy = true → options.size.hasDisplay = true →
      SqlType options .text ("varchar(" ++ options.size.display ++ ")")
  | datetime : SqlType options .datetime "varchar(40)"
  | date : SqlType options .date "varchar(10)"

/-- Whether a clause is the one for a type and options.  The type of a key that the database makes
up does not matter. -/
inductive Clause.Of (dialect : Dialect) (type : ScalarType) (options : ColumnOptions) :
    Clause → Prop
  | typed {storage : Storage} {sqlType : String} :
      options.primaryKey = false → type.storage? = some storage →
      SqlType options storage sqlType → Of dialect type options (.typed sqlType)
  | key {storage : Storage} {sqlType : String} :
      options.primaryKey = true → options.auto = false → type.storage? = some storage →
      SqlType options storage sqlType → Of dialect type options (.key sqlType)
  | autoKey :
      options.primaryKey = true → options.auto = true → Of dialect type options (.autoKey dialect)

/-- Whether a text is the SQL text of a default value.  The current time is one of dates and points
in time, and truth values have only truth values. -/
inductive DefaultText (storage? : Option Storage) : Value → String → Prop
  | timestamp {value : Value} :
      value.text? = some nowText → storage? = some .datetime →
      DefaultText storage? value "current_timestamp"
  | day {value : Value} :
      value.text? = some nowText → storage? = some .date →
      DefaultText storage? value "current_date"
  | truth (b : Bool) : DefaultText storage? (.bool b) (if b then "1" else "0")
  | number {value : Value} :
      value.int?.isSome ∨ value.float?.isSome → (∀ b, value ≠ .bool b) →
      storage? ≠ some .boolean → value.hasDisplay = true →
      DefaultText storage? value value.display
  | text {value : Value} {s : String} :
      value.text? = some s → s ≠ nowText → storage? ≠ some .boolean →
      DefaultText storage? value (sqlQuoted s)

/-- Whether a default is written as called for. -/
inductive DefaultPart (storage? : Option Storage) : Option Value → Option String → Prop
  | absent : DefaultPart storage? none none
  | given {value : Value} {text : String} :
      DefaultText storage? value text → DefaultPart storage? (some value) (some text)

/-- Whether a table and a column of it are referred to as called for: by their names with a point
between them.  Nothing and the empty text refer to none. -/
inductive ReferencePart (reference : Value) : Option (String × String) → Prop
  | absent : reference.truthy = false → ReferencePart reference none
  | named {table column : String} :
      reference.text? = some (table ++ "." ++ column) → table ≠ "" → column ≠ "" →
      '.' ∉ table.toList → '.' ∉ column.toList → ReferencePart reference (some (table, column))

/-- Whether parts are those of a column with a name, a type that may be optional, and options. -/
structure Parts.Of
    (dialect : Dialect)
    (name : String)
    (type : ScalarType)
    (optional : Bool)
    (options : ColumnOptions)
    (parts : Parts) : Prop where
  name_eq : parts.name = name
  clause : Clause.Of dialect type options parts.clause
  unique_eq : parts.unique = options.unique
  default : DefaultPart type.storage? options.default parts.default
  required_eq : parts.required = (!optional && !options.primaryKey)
  reference : ReferencePart options.foreignKey parts.reference

/-! ## How the parts are made -/

variable {column : Column} {dialect : Dialect} {text : String}

theorem written_eq_ok_iff {value : Value} :
    written value = .ok text ↔ value.hasDisplay = true ∧ value.display = text := by
  rw [written, mapError_eq_ok, Value.displayText]
  by_cases displayed : value.hasDisplay = true <;> simp [displayed]

theorem sqlType_eq_ok_iff :
    column.sqlType = .ok text ↔
      ∃ storage, column.type.storage? = some storage ∧ SqlType column.options storage text := by
  constructor
  · intro made
    unfold sqlType at made
    split at made
    next stored =>
      cases made
      exact ⟨_, stored, .boolean⟩
    next stored =>
      cases made
      exact ⟨_, stored, .integer⟩
    next stored =>
      cases made
      exact ⟨_, stored, .real⟩
    next stored =>
      refine ⟨_, stored, ?_⟩
      cases unbounded : column.options.text with
      | true =>
          rw [unbounded] at made
          cases made
          exact .unbounded unbounded
      | false =>
          rw [unbounded] at made
          obtain ⟨size, sizeMade, rfl⟩ := map_eq_ok.mp made
          unfold sizeText at sizeMade
          split at sizeMade
          next isSet =>
            obtain ⟨displayed, rfl⟩ := written_eq_ok_iff.mp sizeMade
            exact .sized unbounded isSet displayed
          next notSet =>
            cases sizeMade
            exact .ordinary unbounded (Bool.eq_false_of_not_eq_true notSet)
    next stored =>
      cases made
      exact ⟨_, stored, .datetime⟩
    next stored =>
      cases made
      exact ⟨_, stored, .date⟩
    next => cases made
  · rintro ⟨storage, stored, typed⟩
    rw [sqlType, stored]
    cases typed with
    | unbounded unbounded => simp [unbounded]
    | ordinary bounded notSet => simp [bounded, sizeText, notSet, ordinarySize, Except.map]
    | sized bounded isSet displayed =>
        simp [bounded, sizeText, isSet, written_eq_ok_iff.mpr ⟨displayed, rfl⟩, Except.map]
    | _ => rfl

/-- A type clause is made when it is not the one of a key whose type does not matter. -/
theorem typeClause_eq_ok_iff :
    column.typeClause dialect = .ok text ↔
      ∃ clause, Clause.Of dialect column.type column.options clause ∧ clause.text = text := by
  unfold typeClause isAutoKey
  cases primary : column.options.primaryKey with
  | false =>
      rw [Bool.false_and, if_neg Bool.false_ne_true, if_neg Bool.false_ne_true, sqlType_eq_ok_iff]
      constructor
      · rintro ⟨storage, stored, typed⟩
        exact ⟨_, .typed primary stored typed, rfl⟩
      · rintro ⟨clause, of, rfl⟩
        cases of with
        | typed _ stored typed => exact ⟨_, stored, typed⟩
        | key isPrimary | autoKey isPrimary => cases primary.symm.trans isPrimary
  | true =>
      cases auto : column.options.auto with
      | true =>
          rw [Bool.and_self, if_pos rfl]
          constructor
          · intro made
            cases made
            exact ⟨_, .autoKey primary auto, rfl⟩
          · rintro ⟨clause, of, rfl⟩
            cases of with
            | typed notPrimary => cases primary.symm.trans notPrimary
            | key _ notAuto => cases auto.symm.trans notAuto
            | autoKey => rfl
      | false =>
          rw [Bool.and_false, if_neg Bool.false_ne_true, if_pos rfl, map_eq_ok]
          constructor
          · rintro ⟨sqlType, made, rfl⟩
            obtain ⟨storage, stored, typed⟩ := sqlType_eq_ok_iff.mp made
            exact ⟨_, .key primary auto stored typed, rfl⟩
          · rintro ⟨clause, of, rfl⟩
            cases of with
            | typed notPrimary => cases primary.symm.trans notPrimary
            | key _ _ stored typed => exact ⟨_, sqlType_eq_ok_iff.mpr ⟨_, stored, typed⟩, rfl⟩
            | autoKey _ isAuto => cases auto.symm.trans isAuto

theorem isBoolean_iff : column.isBoolean = true ↔ column.type.storage? = some .boolean :=
  beq_iff_eq

theorem isText_now_iff {value : Value} :
    value.isText nowText = true ↔ value.text? = some nowText :=
  beq_iff_eq

/-- What is written for a default is called for. -/
theorem defaultText_sound {value : Value} (made : column.defaultText value = .ok text) :
    DefaultText column.type.storage? value text := by
  unfold defaultText at made
  split at made
  next now =>
    rw [isText_now_iff] at now
    unfold nowDefault at made
    split at made
    next stored =>
      cases made
      exact .timestamp now stored
    next stored =>
      cases made
      exact .day now stored
    next => cases made
  next notNow =>
    rw [isText_now_iff] at notNow
    split at made
    next b =>
      cases made
      exact .truth b
    next noTruth =>
      split at made
      next => cases made
      next notBoolean =>
        rw [isBoolean_iff] at notBoolean
        have numbered (isNumber : value.int?.isSome ∨ value.float?.isSome)
            (made : written value = .ok text) : DefaultText column.type.storage? value text := by
          obtain ⟨displayed, rfl⟩ := written_eq_ok_iff.mp made
          exact .number isNumber noTruth notBoolean displayed
        split at made
        next whole => exact numbered (.inl (by rw [whole]; rfl)) made
        next real => exact numbered (.inr (by rw [real]; rfl)) made
        next isText =>
          cases made
          exact .text isText (fun is => notNow (is ▸ isText)) notBoolean
        next => cases made

/-- What is called for is written. -/
theorem defaultText_complete
    {value : Value}
    (isDefault : DefaultText column.type.storage? value text) :
    column.defaultText value = .ok text := by
  cases isDefault with
  | timestamp now stored | day now stored =>
      unfold defaultText
      rw [if_pos (isText_now_iff.mpr now), nowDefault, stored]
  | truth b => rfl
  | number isNumber noTruth notBoolean displayed =>
      -- A number is no text, so it is never taken for the current time.
      have noText := Value.text?_of_number isNumber
      have notNow : ¬value.isText nowText = true := by
        rw [isText_now_iff, noText]
        exact nofun
      unfold defaultText
      rw [if_neg notNow]
      split
      next b => exact absurd rfl (noTruth b)
      next =>
        rw [if_neg fun is => notBoolean (isBoolean_iff.mp is)]
        split
        next => exact written_eq_ok_iff.mpr ⟨displayed, rfl⟩
        next => exact written_eq_ok_iff.mpr ⟨displayed, rfl⟩
        next isText => cases noText.symm.trans isText
        next noWhole noReal _ =>
          rw [noWhole, noReal] at isNumber
          simp at isNumber
  | @text value s isText isNot notBoolean =>
      have notNow : ¬value.isText nowText = true := by
        rw [isText_now_iff, isText]
        exact fun same => isNot (Option.some.inj same)
      have noNumber : ¬(value.int?.isSome ∨ value.float?.isSome) := fun isNumber => by
        cases (Value.text?_of_number isNumber).symm.trans isText
      unfold defaultText
      rw [if_neg notNow]
      split
      next b => cases isText
      next =>
        rw [if_neg fun is => notBoolean (isBoolean_iff.mp is)]
        split
        next whole => exact absurd (.inl (by rw [whole]; rfl)) noNumber
        next real => exact absurd (.inr (by rw [real]; rfl)) noNumber
        next isTextToo =>
          cases isText.symm.trans isTextToo
          rfl
        next noText => cases isText.symm.trans noText

/-- A reference is taken apart at its first point. -/
theorem referenceText?_append {table : List Char} (noPoint : '.' ∉ table) (name : List Char) :
    referenceText? (table ++ '.' :: name) =
      if table = [] ∨ name = [] ∨ '.' ∈ name then none
      else some ("references " ++ String.ofList table ++ "(" ++ String.ofList name ++ ")") := by
  have tested : (table.isEmpty || name.isEmpty || name.contains '.') = true ↔
      table = [] ∨ name = [] ∨ '.' ∈ name := by
    simp only [Bool.or_eq_true, List.isEmpty_iff, List.contains_iff_mem, or_assoc]
  simp only [referenceText?, Text.span_ne_append noPoint, tested]

/-- A reference that is written names a table and a column with a point between them. -/
theorem referenceText?_eq_some_iff {reference : List Char} :
    referenceText? reference = some text ↔
      ∃ table name, reference = table ++ '.' :: name ∧ table ≠ [] ∧ name ≠ [] ∧
        '.' ∉ table ∧ '.' ∉ name ∧
        "references " ++ String.ofList table ++ "(" ++ String.ofList name ++ ")" = text := by
  constructor
  · intro made
    by_cases point : '.' ∈ reference
    · obtain ⟨table, name, rfl, noPoint⟩ := List.eq_append_cons_of_mem point
      rw [referenceText?_append noPoint] at made
      split at made
      next => cases made
      next complete =>
        simp only [not_or] at complete
        exact ⟨table, name, rfl, complete.1, complete.2.1, noPoint, complete.2.2,
          Option.some.inj made⟩
    · simp only [referenceText?, Text.span_ne_of_not_mem point] at made
      cases made
  · rintro ⟨table, name, rfl, named, namedColumn, noPoint, noMore, rfl⟩
    rw [referenceText?_append noPoint, if_neg (by simp [named, namedColumn, noMore])]

theorem defaultClause_eq_ok_iff {tokens : List String} :
    column.defaultClause = .ok tokens ↔
      ∃ part, DefaultPart column.type.storage? column.options.default part ∧
        (part.map fun text => "default " ++ text).toList = tokens := by
  unfold defaultClause
  cases column.options.default with
  | none =>
      constructor
      · intro made
        cases made
        exact ⟨none, .absent, rfl⟩
      · rintro ⟨part, called, rfl⟩
        cases called
        rfl
  | some value =>
      dsimp only
      rw [map_eq_ok]
      constructor
      · rintro ⟨text, made, rfl⟩
        exact ⟨some text, .given (defaultText_sound made), rfl⟩
      · rintro ⟨part, called, rfl⟩
        cases called with
        | given isDefault => exact ⟨_, defaultText_complete isDefault, rfl⟩

theorem referenceClause_eq_ok_iff {tokens : List String} :
    column.referenceClause = .ok tokens ↔
      ∃ part, ReferencePart column.options.foreignKey part ∧
        (part.map fun (table, column) =>
          "references " ++ table ++ "(" ++ column ++ ")").toList = tokens := by
  unfold referenceClause
  dsimp only
  cases refers : column.options.foreignKey.truthy with
  | false =>
      rw [Bool.not_false, if_pos rfl]
      constructor
      · intro made
        cases made
        exact ⟨none, .absent refers, rfl⟩
      · rintro ⟨part, called, rfl⟩
        cases called with
        | absent => rfl
        | @named table name isText =>
            have nonempty : table ++ "." ++ name ≠ "" := by simp
            cases refers.symm.trans (Value.truthy_of_text? isText nonempty)
  | true =>
      rw [Bool.not_true, if_neg Bool.false_ne_true]
      constructor
      · intro made
        split at made
        next text written =>
          cases made
          obtain ⟨s, isText, read⟩ := Option.bind_eq_some_iff.mp written
          obtain ⟨table, name, split, named, namedColumn, noPoint, noMore, rfl⟩ :=
            referenceText?_eq_some_iff.mp read
          have s_eq : String.ofList table ++ "." ++ String.ofList name = s := by
            rw [← String.toList_inj, split]
            simp
          refine ⟨some (String.ofList table, String.ofList name), .named ?_ ?_ ?_ ?_ ?_, rfl⟩
          · rw [isText, s_eq]
          · simpa using named
          · simpa using namedColumn
          · simpa using noPoint
          · simpa using noMore
        next => cases made
      · rintro ⟨part, called, rfl⟩
        cases called with
        | absent notRefers => cases refers.symm.trans notRefers
        | @named table name isText named namedColumn noPoint noMore =>
            have read : referenceText? (table ++ "." ++ name).toList =
                some ("references " ++ table ++ "(" ++ name ++ ")") := by
              refine referenceText?_eq_some_iff.mpr ⟨table.toList, name.toList, by simp, ?_, ?_,
                noPoint, noMore, by simp⟩
              · simpa using named
              · simpa using namedColumn
            rw [isText, Option.bind_some, read]
            rfl

/-- The definition of a column is made exactly when its parts can be, and is their text. -/
theorem definition_eq_ok_iff :
    column.definition dialect = .ok text ↔
      ∃ parts : Parts,
        parts.Of dialect column.name column.type column.nullable column.options ∧
          parts.text = text := by
  unfold definition tokens
  rw [map_eq_ok]
  constructor
  · rintro ⟨all, made, rfl⟩
    obtain ⟨clauseText, clauseMade, made⟩ := bind_eq_ok.mp made
    obtain ⟨defaultTokens, defaultMade, made⟩ := bind_eq_ok.mp made
    obtain ⟨referenceTokens, referenceMade, finished⟩ := bind_eq_ok.mp made
    cases finished
    obtain ⟨clause, clauseOf, rfl⟩ := typeClause_eq_ok_iff.mp clauseMade
    obtain ⟨default, called, rfl⟩ := defaultClause_eq_ok_iff.mp defaultMade
    obtain ⟨reference, refers, rfl⟩ := referenceClause_eq_ok_iff.mp referenceMade
    refine ⟨⟨column.name, clause, column.options.unique, default,
      !column.nullable && !column.options.primaryKey, reference⟩,
      ⟨rfl, clauseOf, rfl, called, rfl, refers⟩, rfl⟩
  · rintro ⟨parts, of, rfl⟩
    have clauseMade := typeClause_eq_ok_iff.mpr ⟨_, of.clause, rfl⟩
    have defaultMade := defaultClause_eq_ok_iff.mpr ⟨_, of.default, rfl⟩
    have referenceMade := referenceClause_eq_ok_iff.mpr ⟨_, of.reference, rfl⟩
    refine ⟨_, bind_eq_ok.mpr ⟨_, clauseMade, bind_eq_ok.mpr ⟨_, defaultMade,
      bind_eq_ok.mpr ⟨_, referenceMade, rfl⟩⟩⟩, ?_⟩
    rw [Parts.text, Parts.options, of.name_eq, of.unique_eq, of.required_eq]
    rfl

end Column
end BoundSql
