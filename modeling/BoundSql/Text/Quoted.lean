import BoundSql.Text.Printable

/-!
# Quoted text

Text shown between quotes, as error messages show the values they reject. The
quote is an apostrophe unless the text holds an apostrophe and no double quote.
The quote in use, the backslash and every character that is not shown as it is
are escaped.
-/

namespace BoundSql
namespace Text

/-- The apostrophe, which is also the usual quote. -/
def apostrophe : Char := Char.ofNat 39

/-- The lower-case hexadecimal digits of a number, padded with zeros to a width. -/
def hexDigits (width value : Nat) : List Char :=
  let digits := Nat.toDigits 16 value
  List.replicate (width - digits.length) '0' ++ digits

/-- The quote under which a text needs the fewest escapes. -/
def quoteFor (s : List Char) : Char :=
  if s.contains apostrophe && !s.contains '"' then '"' else apostrophe

/-- The numeric escape of a character: two, four or eight hexadecimal digits. -/
def numericEscape (c : Char) : List Char :=
  if c.toNat < 0x100 then '\\' :: 'x' :: hexDigits 2 c.toNat
  else if c.toNat < 0x10000 then '\\' :: 'u' :: hexDigits 4 c.toNat
  else '\\' :: 'U' :: hexDigits 8 c.toNat

/-- One character of a quoted text, where `shown` decides which are shown as they are. -/
def escape (shown : Char → Bool) (quote c : Char) : List Char :=
  if c == quote || c == '\\' then ['\\', c]
  else if c == '\n' then ['\\', 'n']
  else if c == '\r' then ['\\', 'r']
  else if c == '\t' then ['\\', 't']
  else if shown c then [c]
  else numericEscape c

/-- A text between quotes, where `shown` decides which characters are shown as they are. -/
def quotedBy (shown : Char → Bool) (s : List Char) : List Char :=
  let quote := quoteFor s
  quote :: s.flatMap (escape shown quote) ++ [quote]

/-- A text between quotes, showing every printable character. -/
def quoted (s : List Char) : List Char :=
  quotedBy isPrintable s

/-- Whether a character is a printable character of ASCII. -/
def isPlainAscii (c : Char) : Bool :=
  0x20 <= c.toNat && c.toNat < 0x7f

/-- A sequence of bytes between quotes, marked by a `b` in front. -/
def quotedBytes (bytes : List UInt8) : List Char :=
  'b' :: quotedBy isPlainAscii (bytes.map fun byte => Char.ofNat byte.toNat)

end Text
end BoundSql
