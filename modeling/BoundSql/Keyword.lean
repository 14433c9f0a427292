/-!
# Keywords

The small closed vocabularies of the library: the tags under which arguments are
bound, the comparison operators of predicates, the connectives between them, and
the kinds of joins. Each keyword has a symbol, which stands in SQL text or in an
argument, and a name.
-/

namespace BoundSql

/-- How a serialized value is bound. -/
inductive TypeTag
  | integer
  | float
  | text
  | date
  | datetime
  | null
  | column
  deriving DecidableEq, Repr

/-- The operator of a predicate. -/
inductive Comparison
  | eq
  | ne
  | lt
  | le
  | gt
  | ge
  deriving DecidableEq, Repr

/-- What stands between two predicates. -/
inductive Connective
  | and
  | or
  deriving DecidableEq, Repr

/-- The kind of a join. -/
inductive JoinKind
  | inner
  | left
  | right
  | full
  deriving DecidableEq, Repr

namespace TypeTag

/-- All tags. -/
def all : List TypeTag := [.integer, .float, .text, .date, .datetime, .null, .column]

/-- The spelling of a tag in an argument. -/
def symbol : TypeTag → String
  | .integer => "integer"
  | .float => "float"
  | .text => "text"
  | .date => "date"
  | .datetime => "datetime"
  | .null => "null"
  | .column => "column"

/-- The name of a tag. -/
def name : TypeTag → String
  | .integer => "INTEGER"
  | .float => "FLOAT"
  | .text => "TEXT"
  | .date => "DATE"
  | .datetime => "DATETIME"
  | .null => "NULL"
  | .column => "COLUMN"

end TypeTag

namespace Comparison

/-- All comparison operators. -/
def all : List Comparison := [.eq, .ne, .lt, .le, .gt, .ge]

/-- The operator in SQL text. -/
def symbol : Comparison → String
  | .eq => "="
  | .ne => "!="
  | .lt => "<"
  | .le => "<="
  | .gt => ">"
  | .ge => ">="

/-- The name of an operator. -/
def name : Comparison → String
  | .eq => "EQ"
  | .ne => "NE"
  | .lt => "LT"
  | .le => "LE"
  | .gt => "GT"
  | .ge => "GE"

/-- Other spellings of operators. -/
def aliases : List (String × Comparison) := [("==", .eq), ("<>", .ne)]

end Comparison

namespace Connective

/-- Both connectives. -/
def all : List Connective := [.and, .or]

/-- The connective in SQL text. -/
def symbol : Connective → String
  | .and => "and"
  | .or => "or"

/-- The name of a connective. -/
def name : Connective → String
  | .and => "AND"
  | .or => "OR"

end Connective

namespace JoinKind

/-- All kinds of joins. -/
def all : List JoinKind := [.inner, .left, .right, .full]

/-- The kind of a join in SQL text, which is also its name. -/
def symbol : JoinKind → String
  | .inner => "INNER"
  | .left => "LEFT"
  | .right => "RIGHT"
  | .full => "FULL"

end JoinKind

/-- A keyword of any of the vocabularies, used as a value. -/
inductive Keyword
  | tag (tag : TypeTag)
  | comparison (operator : Comparison)
  | connective (connective : Connective)
  | join (kind : JoinKind)
  deriving DecidableEq, Repr

namespace Keyword

/-- The symbol of a keyword. -/
def symbol : Keyword → String
  | .tag t => t.symbol
  | .comparison c => c.symbol
  | .connective c => c.symbol
  | .join k => k.symbol

/-- The name of a keyword within its vocabulary. -/
def name : Keyword → String
  | .tag t => t.name
  | .comparison c => c.name
  | .connective c => c.name
  | .join k => k.symbol

/-- The name of the vocabulary of a keyword. -/
def vocabulary : Keyword → String
  | .tag _ => "ValueType"
  | .comparison _ => "ComparisonOperator"
  | .connective _ => "LogicalConnective"
  | .join _ => "JoinType"

end Keyword
end BoundSql
