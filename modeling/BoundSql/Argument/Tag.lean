import BoundSql.Text.Blank
import BoundSql.Text.Case
import BoundSql.Value.Text

/-!
# Spellings of tags

Arguments made by other tools name the type of a value in many ways. A loose
spelling is read without regard to letter case, surrounding blanks and double
quotes. It may say that the value is optional, with the type between brackets,
and it may qualify the type by the place it comes from, which is dropped. Every
word that is not one of the known names stands for text.
-/

namespace BoundSql

/-- How the tag of an argument is given: as a tag, or as a word for one. -/
inductive TagSpelling
  | exact (tag : TypeTag)
  | loose (spelling : String)
  deriving DecidableEq, Repr

/-- What a spelling of a tag says: a tag, and whether the null text stands for nothing. -/
structure TagReading where
  tag : TypeTag
  nullable : Bool
  deriving DecidableEq, Repr

namespace TagSpelling

/-- Names of whole-number types. -/
def integerNames : List String :=
  ["integer", "int", "int8", "int16", "int32", "int64", "uint8", "uint16", "uint32", "uint64",
    "bool", "boolean", "smallint", "bigint", "serial"]

/-- Names of real-number types. -/
def floatNames : List String :=
  ["float", "float32", "float64", "double", "real", "decimal", "numeric"]

/-- The tag that a lower-case name stands for. -/
def tagOfName (name : String) : TypeTag :=
  if integerNames.contains name then .integer
  else if floatNames.contains name then .float
  else if name == "null" then .null
  else if name == "column" then .column
  else if name == "date" then .date
  else if name == "datetime" then .datetime
  else .text

/-- Whether a character is a letter of a word up to case; the dotless i is an i. -/
def isLetter (letter c : Char) : Bool :=
  c == letter || (letter == 'i' && c == 'ı')

/-- Drop a word, up to case, from the front of a text. -/
def dropWord? : List Char → List Char → Option (List Char)
  | [], s => some s
  | letter :: word, c :: s => if isLetter letter c then dropWord? word s else none
  | _ :: _, [] => none

/-- What stands before the bracket that closes a text; a line end may follow the bracket. -/
def beforeClosing? (s : List Char) : Option (List Char) :=
  match s.reverse with
  | ']' :: inside => some inside.reverse
  | '\n' :: ']' :: inside => some inside.reverse
  | _ => none

/-- The type between the brackets of an optional type, which must be on one line. -/
def optionalType? (s : List Char) : Option (List Char) := do
  let rest ← dropWord? "optional".toList s
  match rest.dropWhile Text.isBlank with
  | '[' :: rest =>
      let inside ← beforeClosing? rest
      if inside.contains '\n' then none else some inside
  | _ => none

/-- What stands after the last point of a text. -/
def lastSegment (s : List Char) : List Char :=
  (s.reverse.takeWhile (· != '.')).reverse

/-- What a loose spelling says. -/
def readLoose (spelling : List Char) : TagReading :=
  let word := Text.lower (Text.trimBy (· == '"') (Text.strip spelling))
  let (word, optional) :=
    match optionalType? word with
    | some inside => (Text.lower (Text.strip inside), true)
    | none => (word, false)
  let tag := tagOfName (String.ofList (lastSegment word))
  ⟨tag, optional || tag == .null⟩

/-- What a spelling says. -/
def reading : TagSpelling → TagReading
  | .exact tag => ⟨tag, tag == .null⟩
  | .loose spelling => readLoose spelling.toList

/-- The spelling as text. -/
def text : TagSpelling → String
  | .exact tag => tag.symbol
  | .loose spelling => spelling

/-- The spelling a value stands for: a tag is one itself, any other value by its display. -/
def ofValue : Value → TagSpelling
  | .keyword (.tag tag) => .exact tag
  | value => .loose value.display

end TagSpelling
end BoundSql
