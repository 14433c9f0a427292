import BoundSql.Number.Binary64
import BoundSql.Text.Blank
import BoundSql.Text.Digit

/-!
# Reading numbers

Numbers written by people: digits of any script, blanks around them, one sign,
and single underscores between digits. Whole numbers have a largest number of
digits; the limit is met before anything behind the digits is looked at. Real
numbers have a point and an exponent besides, or are an infinity or no number at
all by name.
-/

namespace BoundSql
namespace Literal

/-- Why a text is not read as a whole number. -/
inductive WholeFault
  | malformed
  | tooManyDigits (count : Nat)
  deriving DecidableEq, Repr

/-- The largest number of digits of a whole number that is read. -/
def digitLimit : Nat := 4300

/-- Write every decimal digit by the digit of ASCII with its value. -/
def plain (s : List Char) : List Char :=
  s.map fun c =>
    match Text.digitValue? c with
    | some value => Char.ofNat ('0'.toNat + value)
    | none => c

/-- Blanks that may surround a number: all but the information separators. -/
def isBlank (c : Char) : Bool :=
  Text.isBlank c && !Text.inRanges [(0x1c, 0x1f)] c

/-- Split off a sign; the first part tells whether it is a minus. -/
def takeSign : List Char → Bool × List Char
  | '-' :: rest => (true, rest)
  | '+' :: rest => (false, rest)
  | s => (false, s)

/-- The number that a list of digits denotes. -/
def natural (digits : List Char) : Nat :=
  digits.foldl (fun value c => 10 * value + (c.toNat - '0'.toNat)) 0

/-- Whether a list of digits and underscores has a digit on both sides of every underscore. -/
def wellSeparated : List Char → Bool
  | [] => false
  | [c] => c.isDigit
  | c :: '_' :: rest => c.isDigit && wellSeparated rest
  | c :: rest => c.isDigit && wellSeparated rest

/-- Read a whole number. -/
def whole (s : List Char) : Except WholeFault Int :=
  let (negative, body) := takeSign ((plain s).dropWhile isBlank)
  let (run, rest) := body.span fun c => c.isDigit || c == '_'
  let digits := run.filter Char.isDigit
  if !wellSeparated run then
    .error .malformed
  else if digitLimit < digits.length then
    .error (.tooManyDigits digits.length)
  else if !rest.all isBlank then
    .error .malformed
  else
    let value : Int := natural digits
    .ok (if negative then -value else value)

/-- Remove the underscores of a text, each of which must stand between two digits. -/
def joinDigits? (afterDigit : Bool) : List Char → Option (List Char)
  | [] => some []
  | '_' :: c :: rest =>
      if afterDigit && c.isDigit then (joinDigits? true rest).map (c :: ·) else none
  | c :: rest =>
      if c == '_' then none else (joinDigits? c.isDigit rest).map (c :: ·)

/-- Read an exponent mark with its exponent; nothing at all is the exponent zero. -/
def exponent? : List Char → Option Int
  | [] => some 0
  | mark :: rest =>
      let (negative, digits) := takeSign rest
      if (mark == 'e' || mark == 'E') && !digits.isEmpty && digits.all Char.isDigit then
        let value : Int := natural digits
        some (if negative then -value else value)
      else
        none

/-- Read an unsigned decimal with an optional point and exponent: coefficient and exponent. -/
def decimal? (s : List Char) : Option (Nat × Int) :=
  let (before, rest) := s.span Char.isDigit
  let (after, rest) : List Char × List Char :=
    match rest with
    | '.' :: rest => rest.span Char.isDigit
    | rest => ([], rest)
  if before.isEmpty && after.isEmpty then
    none
  else
    (exponent? rest).map fun exponent =>
      (natural (before ++ after), exponent - (after.length : Int))

/-- Read an unsigned real number. -/
def unsignedReal? (negative : Bool) (s : List Char) : Option Binary64 :=
  let name := String.ofList (s.map (·.toLower))
  if name == "inf" || name == "infinity" then
    some (.infinite negative)
  else if name == "nan" then
    some .nan
  else
    (decimal? s).map fun (coefficient, exponent) => .ofDecimal negative coefficient exponent

/-- Read a real number. -/
def real? (s : List Char) : Option Binary64 := do
  let joined ← joinDigits? false (Text.trimBy isBlank (plain s))
  let (negative, body) := takeSign joined
  unsignedReal? negative body

end Literal
end BoundSql
