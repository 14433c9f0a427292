import BoundSql.Proofs.Argument.Member
import BoundSql.Proofs.Model.Table
import BoundSql.Proofs.Sql.Literal

/-!
# Defaults of columns

A default that is a text is written as a literal of the text.  The literal ends where it is meant
to end, so whatever the text is, it takes nothing of what stands behind it in the definition.

A default that is a number is written as a literal of the number, except for two kinds of
numbers: members of enumerations that are shown by their names, and numbers that are not finite.
These are written as words.
-/

namespace BoundSql

/-! ## Texts -/

namespace Column

/-- A column without its default. -/
def withoutDefault (column : Column) : Column :=
  { column with options := { column.options with default := none } }

namespace Parts

/-- The tokens of a definition before the default. -/
def lead (parts : Parts) : List String :=
  parts.name :: parts.clause.text :: if parts.unique then ["unique"] else []

/-- The tokens of a definition behind the default. -/
def remaining (parts : Parts) : List String :=
  (if parts.required then ["not null"] else []) ++
    (parts.reference.map fun (table, column) =>
      "references " ++ table ++ "(" ++ column ++ ")").toList

/-- The text of a definition behind the default: the remaining tokens, each after a blank. -/
def behind (parts : Parts) : String :=
  String.join (parts.remaining.map (" " ++ ·))

/-- In front of others, a token is followed by them, each after a blank. -/
theorem intercalate_cons_eq_join (token : String) (tokens : List String) :
    " ".intercalate (token :: tokens) = token ++ String.join (tokens.map (" " ++ ·)) := by
  induction tokens generalizing token with
  | nil => simp
  | cons next tokens joined =>
      rw [String.intercalate_cons_cons, joined, List.map_cons, String.join_cons]
      simp only [String.append_assoc]

/-- The text of a definition with a default. -/
theorem text_of_default
    {parts : Parts}
    {written : String}
    (default : parts.default = some written) :
    parts.text = " ".intercalate parts.lead ++ " default " ++ written ++ parts.behind := by
  have tokens : parts.name :: parts.clause.text :: parts.options =
      parts.lead ++ ("default " ++ written) :: parts.remaining := by
    simp [options, lead, remaining, default]
  have some : parts.lead ≠ [] := List.cons_ne_nil _ _
  rw [text, tokens, String.intercalate_append_of_ne_nil some (List.cons_ne_nil _ _),
    intercalate_cons_eq_join, behind]
  have spaced : " default " = " " ++ "default " := rfl
  rw [spaced]
  simp only [String.append_assoc]

/-- No quote follows a default directly: the remaining tokens begin with a blank. -/
theorem not_startsQuoted_behind
    {more : String}
    (parts : Parts)
    (ends : ¬SqlLiteral.StartsQuoted more.toList) :
    ¬SqlLiteral.StartsQuoted (parts.behind ++ more).toList := by
  rw [behind]
  cases parts.remaining with
  | nil => simpa using ends
  | cons token tokens =>
      simp [SqlLiteral.StartsQuoted, Text.apostrophe]

end Parts

/-- A default that is given is written as called for. -/
theorem DefaultPart.exists_text
    {storage? : Option Storage}
    {value : Value}
    {part : Option String}
    (called : DefaultPart storage? (some value) part) :
    ∃ text, part = some text ∧ DefaultText storage? value text := by
  cases called with
  | given isDefault => exact ⟨_, rfl, isDefault⟩

section Texts

variable {column : Column} {value : Value} {s : String} {dialect : Dialect}

theorem storage?_ne_boolean (notBoolean : column.isBoolean = false) :
    column.type.storage? ≠ some .boolean := by
  intro stored
  rw [isBoolean_iff.mpr stored] at notBoolean
  cases notBoolean

/-- A text that is not the current time is written as its literal. -/
theorem defaultText_of_text
    (isText : value.text? = some s)
    (notNow : s ≠ nowText)
    (notBoolean : column.isBoolean = false) :
    column.defaultText value = .ok (sqlQuoted s) :=
  defaultText_complete (.text isText notNow (storage?_ne_boolean notBoolean))

/-- Where a default is written, a definition fails only where it fails without the default. -/
theorem definition_withoutDefault_of_error
    {written : String}
    {fault : SchemaFault}
    (default : column.options.default = some value)
    (writes : column.defaultText value = .ok written)
    (fails : column.definition dialect = .error fault) :
    column.withoutDefault.definition dialect = .error fault := by
  have clause : column.defaultClause = .ok ["default " ++ written] := by
    rw [defaultClause, default]
    exact map_eq_ok.mpr ⟨written, writes, rfl⟩
  -- The clause, the default and the reference are made in this order, and the default does not
  -- fail.
  refine map_eq_error.mpr ?_
  rcases bind_eq_error.mp (map_eq_error.mp fails) with fails | ⟨type, typed, fails⟩
  · exact bind_eq_error.mpr (.inl fails)
  refine bind_eq_error.mpr (.inr ⟨type, typed, bind_eq_error.mpr (.inr ⟨[], rfl, ?_⟩)⟩)
  rcases bind_eq_error.mp fails with fails | ⟨_, _, fails⟩
  · cases clause.symm.trans fails
  rcases bind_eq_error.mp fails with fails | ⟨_, _, fails⟩
  · exact bind_eq_error.mpr (.inl fails)
  · cases fails

/-- A default that is written stands in the definition as it is written. -/
theorem exists_parts_of_default
    {written text : String}
    (default : column.options.default = some value)
    (writes : column.defaultText value = .ok written)
    (made : column.definition dialect = .ok text) :
    ∃ parts : Parts, parts.Of dialect column.name column.type column.nullable column.options ∧
      parts.default = some written ∧
      text = " ".intercalate parts.lead ++ " default " ++ written ++ parts.behind := by
  obtain ⟨parts, of, rfl⟩ := definition_eq_ok_iff.mp made
  obtain ⟨other, isOther, isDefault⟩ := (default ▸ of.default).exists_text
  cases (defaultText_complete isDefault).symm.trans writes
  exact ⟨parts, of, isOther, Parts.text_of_default isOther⟩

/-- A default that is a text other than that of the current time is a literal of the text in the
definition of every column but those of truth values.  A scanner that begins at its first quote
stops at its last one and reads the text, whatever it is made of, and leaves exactly the remaining
tokens of the definition and what stands behind the definition.  The definition fails only where it
fails without the default. -/
theorem definition_quotes_default
    (default : column.options.default = some value)
    (isText : value.text? = some s)
    (notNow : s ≠ nowText)
    (notBoolean : column.isBoolean = false)
    (dialect : Dialect) :
    (∃ fault, column.definition dialect = .error fault ∧
        column.withoutDefault.definition dialect = .error fault) ∨
      ∃ parts : Parts, parts.Of dialect column.name column.type column.nullable column.options ∧
        parts.default = some (sqlQuoted s) ∧
        column.definition dialect =
          .ok (" ".intercalate parts.lead ++ " default " ++ sqlQuoted s ++ parts.behind) ∧
        ∀ more : String, ¬SqlLiteral.StartsQuoted more.toList →
          SqlLiteral.scan? (sqlQuoted s ++ parts.behind ++ more).toList =
            some (s.toList, (parts.behind ++ more).toList) := by
  have writes := defaultText_of_text isText notNow notBoolean
  cases outcome : column.definition dialect with
  | error fault =>
      exact .inl ⟨fault, rfl, definition_withoutDefault_of_error default writes outcome⟩
  | ok text =>
      obtain ⟨parts, of, written, rfl⟩ := exists_parts_of_default default writes outcome
      refine .inr ⟨parts, of, written, rfl, fun more ends => ?_⟩
      rw [String.append_assoc, String.toList_append]
      exact SqlLiteral.scan?_sqlQuoted s (parts.not_startsQuoted_behind ends)

/-- A column with a default that begins and ends with a quote. -/
def motto : Column :=
  ⟨"motto", .text, false,
    { ColumnOptions.plain with
      default := some (.member ⟨"Motto", .text, true⟩ "FINE" (.text "'it's'")) }⟩

theorem definition_quotes_default_motto :
    motto.definition .sqlite = .ok "motto varchar(255) default '''it''s''' not null" ∧
      SqlLiteral.scan? "'''it''s''' not null);".toList =
        some ("'it's'".toList, " not null);".toList) := by
  have made : motto.definition .sqlite =
      .ok "motto varchar(255) default '''it''s''' not null" := by
    rfl
  refine ⟨made, ?_⟩
  have default : motto.options.default = some _ := rfl
  have notNow : "'it's'" ≠ nowText := by decide
  obtain ⟨fault, fails, _⟩ | ⟨parts, of, _, _, scanned⟩ :=
    definition_quotes_default default rfl notNow rfl .sqlite
  · cases made.symm.trans fails
  · have behind : parts.behind = " not null" := by
      have noReference : parts.reference = none := by
        obtain ⟨name, clause, unique, default, required, reference⟩ := parts
        cases of.reference with
        | absent => rfl
        | named isText => cases isText
      rw [Parts.behind, Parts.remaining, of.required_eq, noReference]
      rfl
    have ends : ¬SqlLiteral.StartsQuoted ");".toList := by decide
    have scannedHere := scanned ");" ends
    rw [behind] at scannedHere
    exact scannedHere

end Texts

end Column

/-! ## Numbers -/

/-- Whether the name of an enumeration can be a word: it begins with neither a digit nor a sign. -/
def Enumeration.IsWord (e : Enumeration) : Prop :=
  ∀ first ∈ e.name.toList.head?, first.isDigit = false ∧ first ≠ '+' ∧ first ≠ '-'

/-- The names of members are no literals of numbers. -/
theorem Enumeration.IsWord.not_numeric
    {e : Enumeration}
    {name : String}
    {negative : Bool}
    {coefficient : Nat}
    {exponent : Int}
    (word : e.IsWord) :
    ¬SqlLiteral.Numeric (e.name ++ "." ++ name).toList negative coefficient exponent := by
  intro literal
  obtain ⟨first, rest, same, digit⟩ := literal.exists_digit
  have spelled : (e.name ++ "." ++ name).toList = e.name.toList ++ '.' :: name.toList := by simp
  rw [spelled] at same
  unfold IsWord at word
  cases characters : e.name.toList with
  | nil =>
      -- Without a name the text begins with the point.
      rw [characters] at same
      cases same
      cases digit
  | cons initial others =>
      rw [characters] at word same
      obtain ⟨noDigit, notPlus, notMinus⟩ := word initial rfl
      rw [List.cons_append, Literal.takeSign_of_ne notPlus notMinus] at same
      cases same
      cases noDigit.symm.trans digit

namespace Value

/-- The numbers among values that are no truth values: whole and real numbers, and members of
enumerations that are numbers too. -/
inductive Numeric : Value → Prop
  | whole (i : Int) : Numeric (.int i)
  | real (x : Binary64) : Numeric (.float x)
  | member {e : Enumeration} {name : String} {payload : Value} (given : Value)
      (declares : e.declare name given = .ok (.member e name payload))
      (carries : e.carrier = .integer ∨ e.carrier = .real) :
      Numeric (.member e name payload)

/-- Whether a number is written with digits: it is finite, and no member that is shown by its
name. -/
def isWrittenInDigits : Value → Bool
  | .float x => x.isFinite
  | .member e _ payload => !e.showsName && isWrittenInDigits payload
  | _ => true

/-- Whether a text is a literal of the number that a value is: of a whole number exactly, and of a
real number if this is the one nearest to the literal. -/
inductive HasNumericLiteral (value : Value) (s : String) : Prop
  | whole {i : Int} {negative : Bool} {coefficient : Nat} {exponent : Int} :
      value.int? = some i →
      SqlLiteral.Numeric s.toList negative coefficient exponent →
      SqlLiteral.IsExactly negative coefficient exponent i →
      HasNumericLiteral value s
  | real {x : Binary64} {negative : Bool} {coefficient : Nat} {exponent : Int} :
      value.float? = some x →
      SqlLiteral.Numeric s.toList negative coefficient exponent →
      Binary64.IsNearest negative coefficient exponent x →
      HasNumericLiteral value s

variable {value : Value}

/-- A number that is a member carries a whole or a real number. -/
theorem Numeric.exists_payload
    {e : Enumeration}
    {name : String}
    {payload : Value}
    (isNumber : Numeric (.member e name payload)) :
    (e.carrier = .integer ∧ ∃ i, payload = .int i) ∨
      (e.carrier = .real ∧ ∃ x, payload = .float x) := by
  cases isNumber with
  | member given declares carries =>
      have admits := admits_of_declare declares
      rcases carries with carrier | carrier
      · rw [carrier] at admits
        exact .inl ⟨carrier, admits⟩
      · rw [carrier] at admits
        exact .inr ⟨carrier, admits⟩

/-- A member that is written with digits is displayed as what it carries. -/
theorem display_of_isWrittenInDigits
    {e : Enumeration}
    {name : String}
    {payload : Value}
    (written : isWrittenInDigits (.member e name payload) = true) :
    payload.isWrittenInDigits = true ∧ (Value.member e name payload).display = payload.display := by
  rw [isWrittenInDigits, Bool.and_eq_true, Bool.not_eq_true'] at written
  refine ⟨written.2, ?_⟩
  rw [display, written.1, if_neg Bool.false_ne_true]

/-- A number is a whole or a real one, and is displayed as it when it is written with digits. -/
theorem Numeric.whole_or_real (isNumber : value.Numeric) :
    (∃ i, value.int? = some i ∧
        (value.isWrittenInDigits = true → value.display = toString i)) ∨
      ∃ x, value.float? = some x ∧
        (value.isWrittenInDigits = true →
          x.isFinite = true ∧ value.display = RealLayout.shown.text x) := by
  cases isNumber with
  | whole i => exact .inl ⟨i, rfl, fun _ => rfl⟩
  | real x => exact .inr ⟨x, rfl, fun written => ⟨written, rfl⟩⟩
  | @member e name payload given declares carries =>
      obtain ⟨carrier, i, rfl⟩ | ⟨carrier, x, rfl⟩ :=
        (Numeric.member given declares carries).exists_payload
      · refine .inl ⟨i, by rw [int?, carrier]; rfl, fun written => ?_⟩
        exact (display_of_isWrittenInDigits written).2
      · refine .inr ⟨x, by rw [float?, carrier]; rfl, fun written => ?_⟩
        exact display_of_isWrittenInDigits written

theorem Numeric.int?_or_float? (isNumber : value.Numeric) :
    value.int?.isSome ∨ value.float?.isSome := by
  obtain ⟨i, isWhole, _⟩ | ⟨x, isReal, _⟩ := isNumber.whole_or_real
  · exact .inl (by rw [isWhole]; rfl)
  · exact .inr (by rw [isReal]; rfl)

theorem Numeric.ne_bool (isNumber : value.Numeric) (b : Bool) : value ≠ .bool b := by
  rintro rfl
  cases isNumber

/-- A number that is written with digits is displayed as a literal of it. -/
theorem hasNumericLiteral_display
    (isNumber : value.Numeric)
    (written : value.isWrittenInDigits = true) :
    value.HasNumericLiteral value.display := by
  obtain ⟨i, isWhole, shown⟩ | ⟨x, isReal, shown⟩ := isNumber.whole_or_real
  · obtain ⟨literal, exactly⟩ := SqlLiteral.numeric_int i
    rw [shown written]
    exact .whole isWhole literal exactly
  · obtain ⟨finite, shown⟩ := shown written
    obtain ⟨_, _, _, literal, nearest⟩ := SqlLiteral.exists_numeric_real .shown finite
    rw [shown]
    exact .real isReal literal nearest

/-- How numbers that are not written with digits are displayed: members by their names, and numbers
that are not finite by words. -/
theorem display_of_not_isWrittenInDigits
    (isNumber : value.Numeric)
    (unwritten : value.isWrittenInDigits = false) :
    (∃ e name payload, value = .member e name payload ∧ e.showsName = true ∧
        value.display = e.name ++ "." ++ name) ∨
      value.display ∈ ["nan", "inf", "-inf"] := by
  have words {x : Binary64} (infinite : x.isFinite = false) :
      RealLayout.shown.text x ∈ ["nan", "inf", "-inf"] := by
    cases x with
    | nan => decide
    | infinite negative => cases negative <;> decide
    | finite => cases infinite
  cases isNumber with
  | whole i => cases unwritten
  | real x => exact .inr (words unwritten)
  | @member e name payload given declares carries =>
      cases named : e.showsName with
      | true => exact .inl ⟨e, name, payload, rfl, named, by rw [display, if_pos named]⟩
      | false =>
          have shown : (Value.member e name payload).display = payload.display := by
            rw [display, named, if_neg Bool.false_ne_true]
          rw [isWrittenInDigits, named, Bool.not_false, Bool.true_and] at unwritten
          obtain ⟨_, i, rfl⟩ | ⟨_, x, rfl⟩ :=
            (Numeric.member given declares carries).exists_payload
          · cases unwritten
          · exact .inr (shown ▸ words unwritten)

/-- A number that is not written with digits is displayed as no literal of a number. -/
theorem not_numeric_display
    (isNumber : value.Numeric)
    (unwritten : value.isWrittenInDigits = false)
    (words : ∀ e name payload, value = .member e name payload → e.IsWord)
    (negative : Bool)
    (coefficient : Nat)
    (exponent : Int) :
    ¬SqlLiteral.Numeric value.display.toList negative coefficient exponent := by
  intro literal
  obtain ⟨e, name, payload, rfl, _, shown⟩ | member :=
    display_of_not_isWrittenInDigits isNumber unwritten
  · rw [shown] at literal
    exact (words e name payload rfl).not_numeric literal
  · obtain ⟨first, rest, same, digit⟩ := literal.exists_digit
    simp only [List.mem_cons, List.not_mem_nil, or_false] at member
    obtain shown | shown | shown := member
    all_goals
      rw [shown] at same
      cases same
      cases digit

end Value

namespace Column

variable {value : Value}

/-- The default of a number is its display. -/
theorem DefaultText.eq_display
    {storage? : Option Storage}
    {text : String}
    (isNumber : value.Numeric)
    (isDefault : DefaultText storage? value text) :
    text = value.display := by
  have noText := Value.text?_of_number isNumber.int?_or_float?
  cases isDefault with
  | timestamp now | day now => cases noText.symm.trans now
  | truth b => exact absurd rfl (isNumber.ne_bool b)
  | number => rfl
  | text isText => cases noText.symm.trans isText

/-- Numbers that are written are defaults of every column but those of truth values. -/
theorem defaultText_of_number
    {column : Column}
    (isNumber : value.Numeric)
    (notBoolean : column.isBoolean = false)
    (displayed : value.hasDisplay = true) :
    column.defaultText value = .ok value.display :=
  defaultText_complete (.number isNumber.int?_or_float? isNumber.ne_bool
    (storage?_ne_boolean notBoolean) displayed)

end Column

namespace Model

variable {model : Model} {dialect : Dialect}

/-- A model without a schema is named in the error, unless a number in an option is not written. -/
theorem schema_fails
    {error : Error}
    (failed : model.schema dialect = .error error) :
    (∃ fault, error = .schema (.text model.name) fault) ∨
      (¬∀ field ∈ model.fields, field.options.Written) ∧ ∃ fault, error = .number fault := by
  by_cases shown : ∀ field ∈ model.fields, field.options.Written
  · exact .inl (schema_eq_error shown failed)
  · rw [Model.schema, blamed] at failed
    cases outcome : TableSchema.ofFields dialect model.tableName model.fields with
    | ok schema =>
        rw [outcome] at failed
        cases failed
    | error fault =>
        rw [outcome] at failed
        cases failed
        cases fault with
        | number number => exact .inr ⟨shown, number, rfl⟩
        | _ => exact .inl ⟨_, rfl⟩

/-- A schema has the definition of a field at the place of the field. -/
theorem exists_definition
    {schema : TableSchema}
    {definitions : List Column.Parts}
    {place : Nat}
    {field : Field}
    (lists : schema.Lists dialect model definitions)
    (declared : model.fields[place]? = some field) :
    ∃ parts, definitions[place]? = some parts ∧ field.Defines dialect parts := by
  obtain ⟨within, rfl⟩ := List.getElem?_eq_some_iff.mp declared
  have withinToo : place < definitions.length := lists.each.length_eq ▸ within
  exact ⟨definitions[place], List.getElem?_eq_getElem withinToo, lists.each.get within withinToo⟩

/-- A model with a number as a default of a field has an error that names it, unless a number is not
written, or a schema in which the default is the display of the number.  The display is a literal of
the number when the number is written with digits, and no literal of a number when it is not.  On a
column that is none of truth values the number is never the fault. -/
theorem schema_writes_number
    {place : Nat}
    {field : Field}
    {value : Value}
    (declared : model.fields[place]? = some field)
    (default : field.options.default = some value)
    (isNumber : value.Numeric)
    (dialect : Dialect) :
    ((∃ fault, model.schema dialect = .error (.schema (.text model.name) fault)) ∨
        ((¬∀ other ∈ model.fields, other.options.Written) ∧
          ∃ fault, model.schema dialect = .error (.number fault)) ∨
        ∃ schema definitions parts, model.schema dialect = .ok schema ∧
          schema.Lists dialect model definitions ∧ definitions[place]? = some parts ∧
          field.Defines dialect parts ∧ parts.default = some value.display) ∧
      (value.isWrittenInDigits = true → value.HasNumericLiteral value.display) ∧
      (value.isWrittenInDigits = false →
        (∀ e name payload, value = .member e name payload → e.IsWord) →
        ∀ negative coefficient exponent,
          ¬SqlLiteral.Numeric value.display.toList negative coefficient exponent) ∧
      ∀ column : Column, column.isBoolean = false → value.hasDisplay = true →
        column.defaultText value = .ok value.display := by
  refine ⟨?_, value.hasNumericLiteral_display isNumber, value.not_numeric_display isNumber,
    fun column => Column.defaultText_of_number isNumber⟩
  cases outcome : model.schema dialect with
  | error error =>
      obtain ⟨fault, rfl⟩ | ⟨unwritten, fault, rfl⟩ := schema_fails outcome
      · exact .inl ⟨fault, rfl⟩
      · exact .inr (.inl ⟨unwritten, fault, rfl⟩)
  | ok schema =>
      obtain ⟨definitions, lists⟩ := schema_eq_ok_iff.mp outcome
      obtain ⟨parts, found, defines⟩ := exists_definition lists declared
      have ⟨_, _, _, of⟩ := defines
      obtain ⟨text, written, isDefault⟩ := (default ▸ of.default).exists_text
      cases isDefault.eq_display isNumber
      exact .inr (.inr ⟨schema, definitions, parts, rfl, lists, found, defines, written⟩)

/-- A model with a large real number as a default. -/
def gauge : Model :=
  ⟨0, "Gauge", none,
    [⟨"id", .scalar .integer, { ColumnOptions.plain with primaryKey := true }, none⟩,
      ⟨"most", .scalar .real,
        { ColumnOptions.plain with default := some (.float (.ofInt (-(10 ^ 22)))) }, none⟩]⟩

theorem schema_writes_number_gauge :
    (∃ schema definitions parts, gauge.schema .sqlite = .ok schema ∧
        schema.Lists .sqlite gauge definitions ∧ definitions[1]? = some parts ∧
        parts.default = some "-1e+22") ∧
      (Value.float (.ofInt (-(10 ^ 22)))).HasNumericLiteral "-1e+22" := by
  have made : (gauge.schema .sqlite).toOption = some ⟨"Gauge", "id",
      "create table if not exists Gauge (id integer primary key, " ++
        "most float default -1e+22 not null);"⟩ := by
    decide +kernel
  have display : (Value.float (.ofInt (-(10 ^ 22)))).display = "-1e+22" := by
    decide +kernel
  have declared : gauge.fields[1]? = some _ := rfl
  have writes := schema_writes_number declared rfl (.real _) .sqlite
  rw [display] at writes
  obtain ⟨⟨fault, fails⟩ | ⟨_, fault, fails⟩ | exists_schema, literal, _⟩ := writes
  · rw [fails] at made
    cases made
  · rw [fails] at made
    cases made
  · obtain ⟨schema, definitions, parts, isMade, lists, found, _, written⟩ := exists_schema
    exact ⟨⟨schema, definitions, parts, isMade, lists, found, written⟩, literal (by decide +kernel)⟩

/-- A model with a member of whole numbers that are shown by their names as a default. -/
def job : Model :=
  ⟨0, "Job", none,
    [⟨"id", .scalar .integer, { ColumnOptions.plain with primaryKey := true }, none⟩,
      ⟨"level", .scalar .integer,
        { ColumnOptions.plain with
          default := some (.member Argument.namedWholes "MEMBER" (.int 7)) }, none⟩]⟩

/-- The member stands in the schema with its name, which is no literal of its seven nor of any other
number. -/
theorem schema_of_job :
    (Value.member Argument.namedWholes "MEMBER" (.int 7)).Numeric ∧
      job.schema .sqlite = .ok ⟨"Job", "id",
        "create table if not exists Job (id integer primary key, " ++
          "level integer default IntMixin.MEMBER not null);"⟩ ∧
      ∀ negative coefficient exponent,
        ¬SqlLiteral.Numeric "IntMixin.MEMBER".toList negative coefficient exponent := by
  have isNumber : (Value.member Argument.namedWholes "MEMBER" (.int 7)).Numeric :=
    .member (.int 7) rfl (.inl rfl)
  have word : Argument.namedWholes.IsWord := by
    intro first member
    cases member
    decide
  have named : "IntMixin.MEMBER" = Argument.namedWholes.name ++ "." ++ "MEMBER" := rfl
  refine ⟨isNumber, rfl, fun negative coefficient exponent literal => ?_⟩
  rw [named] at literal
  exact word.not_numeric literal

end Model
end BoundSql
