import BoundSql.Text.Quoted
import BoundSql.Number.Shortest
import BoundSql.Value.Basic

/-!
# Text of values

Two texts of a value. Its *display* is what stands for it in a longer text: a
text is its own display, and points in time have a blank between date and time.
Its *literal* shows what kind of value it is: texts stand between quotes, and
other values are spelled out with their types. Containers show the literals of
what they hold either way.
-/

namespace BoundSql
namespace Value

/-- Items with commas between them. -/
def commaSeparated (items : List String) : String :=
  ", ".intercalate items

/-- A type applied to arguments, as literals spell it. -/
def application (typeName : String) (arguments : List String) : String :=
  typeName ++ "(" ++ commaSeparated arguments ++ ")"

/-- The literal of a date. -/
def dateLiteral (date : Date) : String :=
  application "datetime.date" [toString date.year, toString date.month, toString date.day]

/-- The parts of a time of day that its literal spells out. -/
def clockParts (time : TimeOfDay) : List String :=
  [toString time.hour, toString time.minute]
    ++ (if time.showsSeconds then [toString time.second] else [])
    ++ (if time.microsecond != 0 then [toString time.microsecond] else [])

/-- The literal of a length of time given in microseconds. -/
def deltaLiteral (microseconds : Int) : String :=
  let days := microseconds.fdiv microsecondsPerDay
  let rest := microseconds.fmod microsecondsPerDay
  let part (name : String) (amount : Int) :=
    if amount == 0 then [] else [name ++ "=" ++ toString amount]
  let parts := part "days" days ++ part "seconds" (rest / 1000000) ++
    part "microseconds" (rest % 1000000)
  application "datetime.timedelta" (if parts.isEmpty then ["0"] else parts)

/-- The literal of an offset. -/
def offsetLiteral (offset : UtcOffset) : String :=
  if offset.microseconds == 0 then
    "datetime.timezone.utc"
  else
    application "datetime.timezone" [deltaLiteral offset.microseconds]

/-- The literal of a point in time. -/
def datetimeLiteral (moment : DateTime) : String :=
  let date := moment.date
  let zone :=
    match moment.offset with
    | some offset => ["tzinfo=" ++ offsetLiteral offset]
    | none => []
  application "datetime.datetime"
    ([toString date.year, toString date.month, toString date.day] ++ clockParts moment.time ++ zone)

/-- A text between quotes. -/
def quotedText (s : String) : String :=
  String.ofList (Text.quoted s.toList)

/-- The literal of a member, from its enumeration, its name and the literal of what it carries. -/
def memberLiteral (enumeration name payload : String) : String :=
  "<" ++ enumeration ++ "." ++ name ++ ": " ++ payload ++ ">"

mutual

/-- The literal of a value. -/
def literal : Value → String
  | .null => "None"
  | .bool b => if b then "True" else "False"
  | .int i => toString i
  | .float x => RealLayout.shown.text x
  | .decimal d => application "Decimal" [quotedText d.text]
  | .text s => quotedText s
  | .date d => dateLiteral d
  | .datetime d => datetimeLiteral d
  | .time t => application "datetime.time" (clockParts t)
  | .duration d => deltaLiteral (d.seconds * 1000000)
  | .uuid u => application "UUID" [quotedText u.text]
  | .bytes content => String.ofList (Text.quotedBytes content)
  | .list items => "[" ++ commaSeparated (literals items) ++ "]"
  | .tuple [item] => "(" ++ literal item ++ ",)"
  | .tuple items => "(" ++ commaSeparated (literals items) ++ ")"
  | .dict entries => "\x7b" ++ commaSeparated (entryLiterals entries) ++ "\x7d"
  | .object className => "<" ++ className ++ ">"
  | .keyword k => memberLiteral k.vocabulary k.name (quotedText k.symbol)
  | .member e name payload => memberLiteral e.name name (literal payload)

/-- The literals of several values. -/
def literals : List Value → List String
  | [] => []
  | item :: items => literal item :: literals items

/-- The literals of the entries of a dictionary. -/
def entryLiterals : List (Value × Value) → List String
  | [] => []
  | (key, item) :: entries => (literal key ++ ": " ++ literal item) :: entryLiterals entries

end

/-- The display of a value. -/
def display : Value → String
  | .text s => s
  | .decimal d => d.text
  | .date d => String.ofList d.isoText
  | .datetime d => String.ofList (d.isoText ' ')
  | .time t => String.ofList t.isoText
  | .duration d => d.text
  | .uuid u => u.text
  | .keyword (.tag t) => t.symbol
  | .keyword k => k.vocabulary ++ "." ++ k.name
  | .member e name payload => if e.showsName then e.name ++ "." ++ name else display payload
  | value => literal value

mutual

/-- Whether the literal of a value is written: no whole number in it has too many digits. -/
def hasLiteral : Value → Bool
  | .int i => decide ((Nat.toDigits 10 i.natAbs).length ≤ Literal.digitLimit)
  | .list items | .tuple items => haveLiterals items
  | .dict entries => entriesHaveLiterals entries
  | .member _ _ payload => hasLiteral payload
  | _ => true

/-- Whether the literals of several values are written. -/
def haveLiterals : List Value → Bool
  | [] => true
  | item :: items => hasLiteral item && haveLiterals items

/-- Whether the literals of the entries of a dictionary are written. -/
def entriesHaveLiterals : List (Value × Value) → Bool
  | [] => true
  | (key, item) :: entries => hasLiteral key && hasLiteral item && entriesHaveLiterals entries

end

/-- Whether the display of a value is written. -/
def hasDisplay : Value → Bool
  | .member e _ payload => e.showsName || hasDisplay payload
  | value => hasLiteral value

/-- The text of values that are given as a message: nothing at all, the display of a single one, or
the literal of several. -/
def messageText : List Value → String
  | [] => ""
  | [value] => value.display
  | values => (Value.tuple values).literal

end Value
end BoundSql
