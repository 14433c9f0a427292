import BoundSql.Text.Matching
import BoundSql.Value.Number

/-!
# Errors

Every way in which an operation of the library can fail, by its cause. The
wording of a cause is in one place, and so is the report that an interface can
hand on: a code where there is a stable one, and the details that go with it.

Most causes also have a form that an application states in its own words.
-/

namespace BoundSql

/-- Why a sequence of conditions or a selection does not become SQL text. -/
inductive CompileFault
  /-- A column reference was to be bound as a value. -/
  | columnBound (reference : Value)
  /-- A column reference was to be inserted. -/
  | columnInserted (reference : Value) (field : String)
  /-- There was nothing to insert. -/
  | emptyInsert
  /-- There was nothing to assign. -/
  | emptyUpdate
  /-- A sequence held something that is neither a predicate nor a connective. -/
  | foreignItem (position : Nat) (typeName : String)
  /-- Several tables were selected and no join fixed the first one. -/
  | openBaseTable
  /-- A join had no conditions. -/
  | joinWithoutConditions (table : String)
  /-- No model was given to build rows with. -/
  | noShape
  /-- Nothing was selected. -/
  | noTarget
  /-- A cause in an application's words. -/
  | stated (text : String)

/-- Why a connective cannot stand where it stands. -/
inductive SequenceFault
  /-- A connective among the values of an insertion. -/
  | insideInsert (connective : Connective) (position : Nat)
  /-- A connective without a predicate on its left. -/
  | nothingOnLeft (connective : Connective) (position : Nat)
  /-- A connective at the end. -/
  | trailing (position : Nat)
  /-- A cause in an application's words. -/
  | stated (message position : Value)

/-- Why a value has no form under a tag. -/
inductive CoercionReason
  /-- Values of the type have no serialized form. -/
  | noEncoding
  /-- The value is not converted to the number that the tag asks for. -/
  | conversion (fault : NumberFault)
  /-- A reason in an application's words; an empty one is none. -/
  | stated (reason : Value)

/-- Why a model has no table. -/
inductive SchemaFault
  | composedType (field spelling : String)
  | type (field typeName : String)
  | nowOutsideDates (field : String)
  | booleanDefault (field : String)
  | default (value : Value) (field : String)
  | foreignKey (reference : String)
  | noFields
  | keyCount (count : Nat)
  /-- An option of a column holds a number that is not written. -/
  | number (fault : NumberFault)
  /-- A cause in an application's words. -/
  | stated (text : String)

/-- Why connection settings cannot be used. -/
inductive ConfigurationFault
  | unknownScheme (scheme : String) (known : List String)
  | missingScheme (url : String)
  | urlNotSet
  /-- A cause in an application's words. -/
  | stated (text : String)

/-- A failure of an operation. -/
inductive Error
  /-- A failure in an application's words. -/
  | general (text : String)
  | compile (fault : CompileFault)
  | unknownOperator (given : Value) (valid : List String)
  | sequence (fault : SequenceFault)
  | coercion (value tag : Value) (reason : CoercionReason)
  | zeroRows (statement : Value)
  | schema (model : Value) (fault : SchemaFault)
  | configuration (fault : ConfigurationFault)
  | number (fault : NumberFault)
  | unknownDialect (name : String)
  /-- A slot was numbered below one. -/
  | slotIndex (index : Value)
  /-- A result does not have the columns that the shapes expect. -/
  | columnCount (found : Nat) (shapes : List String) (expected : Nat)
  /-- A record has fewer or more values than there are columns. -/
  | recordLength (shorter : Bool)
  /-- A slot index that is not compared with numbers. -/
  | unordered (index : Value)
  /-- A place beyond the ends of a sequence of a type. -/
  | noSuchItem (typeName : String)
  /-- A place too far from the beginning for any sequence. -/
  | placeOutOfReach
  /-- A value in a sequence of conditions that can be no key. -/
  | unfitKey (value : Value)
  /-- A slice with steps of length zero. -/
  | zeroStep
  /-- A failure that the connection reported. -/
  | driver (text : String)
  /-- Fields whose values do not fit a model or settings. -/
  | validation (fields : List String)
  /-- A name under which no instance is kept. -/
  | unknownVariable (name : String)

/-- The failure of an operation that shows a value. Where the value has no literal, because a whole
number in it has too many digits to be written, that is the failure instead. -/
def Error.showing (value : Value) (error : Error) : Error :=
  if value.hasLiteral then error else .number (.tooLong Literal.digitLimit)

/-- Texts in ascending order. -/
def sortedTexts (texts : List String) : List String :=
  texts.mergeSort fun a b => decide (a ≤ b)

/-- What a compile fault says. -/
def CompileFault.message : CompileFault → String
  | .columnBound reference =>
      "Column reference " ++ reference.literal ++ " cannot be bound as a value"
  | .columnInserted reference field =>
      "Cannot insert column reference " ++ reference.literal ++ " into '" ++ field ++ "'"
  | .emptyInsert => "Insert sequence has no field = value pairs"
  | .emptyUpdate => "Update sequence has no field = value pairs"
  | .foreignItem position typeName =>
      s!"Expected a FieldCondition or LogicalOperator at position {position}, got {typeName}"
  | .openBaseTable => "SELECT over several tables needs a join to fix the FROM table"
  | .joinWithoutConditions table => "JOIN " ++ table ++ " has no ON conditions"
  | .noShape => "No model given to build result rows"
  | .noTarget => "select() needs at least one model or table"
  | .stated text => text

/-- What a sequence fault says. -/
def SequenceFault.message : SequenceFault → String
  | .insideInsert connective position =>
      "Logical operator '" ++ connective.symbol ++
        s!"' is not allowed in an insert sequence (position {position})"
  | .nothingOnLeft connective position =>
      "Logical operator '" ++ connective.symbol ++
        s!"' at position {position} has no condition on its left"
  | .trailing position => s!"Trailing logical operator at position {position}"
  | .stated message _ => message.display

/-- The message of a sequence fault as it was given. -/
def SequenceFault.messageValue : SequenceFault → Value
  | .stated message _ => message
  | fault => .text fault.message

/-- The position a sequence fault is about. -/
def SequenceFault.position : SequenceFault → Value
  | .insideInsert _ position | .nothingOnLeft _ position | .trailing position => .int position
  | .stated _ position => position

/-- What a reason for a coercion error says, if it says anything. -/
def CoercionReason.text? : CoercionReason → Option String
  | .noEncoding => some "no canonical encoding for this type"
  | .conversion fault => some fault.message
  | .stated reason => if reason.truthy then some reason.display else none

/-- What a schema fault says. -/
def SchemaFault.message : SchemaFault → String
  | .composedType field spelling => s!"field '{field}' has unsupported annotation {spelling}"
  | .type field typeName => s!"field '{field}' has unsupported type {typeName}"
  | .nowOutsideDates field => s!"default 'now' on '{field}' requires a date or datetime field"
  | .booleanDefault field => s!"boolean field '{field}' needs a True/False default"
  | .default value field => "unsupported default " ++ value.literal ++ s!" on field '{field}'"
  | .foreignKey reference => s!"invalid foreign key '{reference}', expected 'Table.column'"
  | .noFields => "model declares no fields"
  | .keyCount count => s!"expected exactly one primary key, found {count}"
  | .number fault => fault.message
  | .stated text => text

/-- What a configuration fault says. -/
def ConfigurationFault.message : ConfigurationFault → String
  | .unknownScheme scheme known =>
      s!"Cannot infer SQL dialect from URL scheme '{scheme}'. Expected one of: " ++
        ", ".intercalate known
  | .missingScheme url => s!"Invalid connection URL '{url}': missing scheme"
  | .urlNotSet => "DATABASE_URL is not set"
  | .stated text => text

/-- The valid operators that an unknown one may be meant for. -/
def suggestions (given : Value) (valid : List String) : List String :=
  Text.closeMatches (given.text?.getD given.display) valid

/-- What is said of an operator that is none of the valid ones. -/
def unknownOperatorMessage (given : Value) (valid : List String) : String :=
  let suggestions := suggestions given valid
  "Unknown operator: '" ++ given.display ++ "'." ++
    (if suggestions.isEmpty then ""
      else " Did you mean: " ++ ", ".intercalate suggestions ++ "?") ++
    " Valid operators: " ++ ", ".intercalate (sortedTexts valid)

namespace Error

/-- What an error says. -/
def message : Error → String
  | .general text => text
  | .compile fault => fault.message
  | .unknownOperator given valid => unknownOperatorMessage given valid
  | .sequence fault => fault.message
  | .coercion value tag reason =>
      "Cannot coerce " ++ value.literal ++ " as '" ++ tag.display ++ "'" ++
        match reason.text? with
        | some text => ": " ++ text
        | none => ""
  | .zeroRows statement => "Query returned no rows: " ++ statement.display
  | .schema model fault => model.display ++ ": " ++ fault.message
  | .configuration fault => fault.message
  | .number fault => fault.message
  | .unknownDialect name => s!"'{name}' is not a valid Dialect"
  | .slotIndex index => "Placeholder index must be >= 1, got " ++ index.display
  | .columnCount found shapes expected =>
      s!"Result has {found} columns but " ++ ", ".intercalate shapes ++ s!" expect {expected}"
  | .recordLength shorter =>
      "zip() argument 2 is " ++ (if shorter then "shorter" else "longer") ++ " than argument 1"
  | .unordered (.decimal _) => "[<class 'decimal.InvalidOperation'>]"
  | .unordered index =>
      "'<' not supported between instances of '" ++ index.qualifiedTypeName ++ "' and 'int'"
  | .noSuchItem typeName => typeName ++ " index out of range"
  | .placeOutOfReach => "cannot fit 'int' into an index-sized integer"
  | .unfitKey value => "unhashable type: '" ++ value.typeName ++ "'"
  | .zeroStep => "slice step cannot be zero"
  | .driver text => text
  | .validation _ => ""
  | .unknownVariable name => name

/-- The stable code of an error, for causes that have one. -/
def code? : Error → Option String
  | .unknownOperator _ _ => some "OPERATOR_NOT_FOUND"
  | .sequence _ => some "CONDITION_SEQUENCE_ERROR"
  | .coercion _ _ _ => some "TYPE_COERCION_ERROR"
  | .zeroRows _ => some "ZERO_ROWS"
  | .schema _ _ => some "SCHEMA_ERROR"
  | _ => none

/-- Texts as a value. -/
def textList (texts : List String) : Value :=
  .list (texts.map .text)

/-- The details of the report of an error, by name. -/
def details (error : Error) : List (String × Value) :=
  match error with
  | .unknownOperator given valid =>
      [("operator", given), ("suggestions", textList (suggestions given valid)),
        ("valid_operators", textList (sortedTexts valid))]
  | .sequence fault =>
      [("message", fault.messageValue), ("position", fault.position)]
  | .coercion value tag _ =>
      [("value", .text value.display), ("type_tag", tag), ("message", .text error.message)]
  | .zeroRows statement => [("statement", statement)]
  | .schema model _ => [("model", model), ("message", .text error.message)]
  | _ => [("message", .text error.message)]

end Error
end BoundSql
