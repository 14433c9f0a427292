import BoundSql.Calendar.DateTime
import BoundSql.Calendar.Duration
import BoundSql.Keyword
import BoundSql.Number.Decimal
import BoundSql.Number.Uuid

/-!
# Values

The values an application hands to the library. Which of them can be bound is
not decided by their type: a value of any kind can be offered, and the ones
without a serialized form are refused with an error that shows them.

A member of an enumeration is a value of its own that carries another one. The
enumeration says whether the member is also a text or a number, and whether it
is shown by its name or by what it carries.
-/

namespace BoundSql

/-- What the members of an enumeration are besides members. -/
inductive Carrier
  | plain
  | text
  | integer
  | real
  deriving DecidableEq, Repr

/-- An enumeration of an application. -/
structure Enumeration where
  name : String
  carrier : Carrier
  showsName : Bool
  deriving DecidableEq, Repr

/-- A value of an application. -/
inductive Value
  | null
  | bool (b : Bool)
  | int (i : Int)
  | float (x : Binary64)
  | decimal (d : Decimal)
  | text (s : String)
  | date (d : Date)
  | datetime (d : DateTime)
  | time (t : TimeOfDay)
  | duration (d : Duration)
  | uuid (u : Uuid)
  | bytes (content : List UInt8)
  | list (items : List Value)
  | tuple (items : List Value)
  | dict (entries : List (Value × Value))
  | object (className : String)
  | keyword (k : Keyword)
  | member (enumeration : Enumeration) (name : String) (payload : Value)

namespace Value

instance : Inhabited Value := ⟨.null⟩

/-- The text a value is: a text, a keyword, or a member that is also a text. -/
def text? : Value → Option String
  | .text s => some s
  | .keyword k => some k.symbol
  | .member e _ payload => if e.carrier == .text then payload.text? else none
  | _ => none

/-- The whole number a value is: a number, a truth value, or a member that is also a number. -/
def int? : Value → Option Int
  | .int i => some i
  | .bool b => some (if b then 1 else 0)
  | .member e _ payload => if e.carrier == .integer then payload.int? else none
  | _ => none

/-- The double-precision number a value is. -/
def float? : Value → Option Binary64
  | .float x => some x
  | .member e _ payload => if e.carrier == .real then payload.float? else none
  | _ => none

/-- The items of a list or a tuple. -/
def items? : Value → Option (List Value)
  | .list items | .tuple items => some items
  | _ => none

/-- Whether a value is a given text. -/
def isText (value : Value) (s : String) : Bool :=
  value.text? == some s

/-- Whether a value is nothing. -/
def isNull : Value → Bool
  | .null => true
  | _ => false

/-- Whether a value counts as true: zero, nothing and what is empty do not. -/
def truthy : Value → Bool
  | .null => false
  | .bool b => b
  | .int i => i != 0
  | .float x => !x.isZero
  | .decimal d => !d.isZero
  | .text s => s != ""
  | .bytes content => !content.isEmpty
  | .list items => !items.isEmpty
  | .tuple items => !items.isEmpty
  | .dict entries => !entries.isEmpty
  | .duration d => d.seconds != 0
  | .member e _ payload => e.carrier == .plain || payload.truthy
  | _ => true

/-- The name of the type of a value. -/
def typeName : Value → String
  | .null => "NoneType"
  | .bool _ => "bool"
  | .int _ => "int"
  | .float _ => "float"
  | .decimal _ => "Decimal"
  | .text _ => "str"
  | .date _ => "date"
  | .datetime _ => "datetime"
  | .time _ => "time"
  | .duration _ => "timedelta"
  | .uuid _ => "UUID"
  | .bytes _ => "bytes"
  | .list _ => "list"
  | .tuple _ => "tuple"
  | .dict _ => "dict"
  | .object className => className
  | .keyword k => k.vocabulary
  | .member e _ _ => e.name

/-- The name of the type of a value with the name of the module that calendar types belong to. -/
def qualifiedTypeName (value : Value) : String :=
  match value with
  | .date _ | .datetime _ | .time _ | .duration _ => "datetime." ++ value.typeName
  | _ => value.typeName

end Value
end BoundSql
