import BoundSql.Entries
import BoundSql.Value.Basic

/-!
# Equality of values

Values are equal by what they stand for. Numbers of all kinds are compared
exactly, so a truth value, a whole number, a double and a decimal can be equal; a
value that is no number equals nothing. Texts, keywords and members that are
texts are compared as texts. Other members and objects are equal to no value
made elsewhere.

A dictionary has one entry for each of its keys up to equality. Keys have to be
values that do not change, so lists and dictionaries are none.
-/

namespace BoundSql

/-- The exact quantity of a number. -/
inductive Quantity
  | nan
  | infinite (negative : Bool)
  /-- A whole number times a power of ten. -/
  | scaled (coefficient : Int) (exponent : Int)
  deriving DecidableEq, Repr

namespace Quantity

/-- How many places before the point the digits of a scaled number begin. -/
def leadingPlace (coefficient exponent : Int) : Int :=
  (Nat.toDigits 10 coefficient.natAbs).length + exponent

/-- Whether two scaled numbers are equal. Their digits are aligned only when they begin at the same
place, so that exponents of any size are compared. -/
def sameScaled (n e m f : Int) : Bool :=
  if n == 0 || m == 0 then
    n == m
  else
    leadingPlace n e == leadingPlace m f &&
      n * Nat.pow 10 (e - f).toNat == m * Nat.pow 10 (f - e).toNat

/-- Whether two quantities are equal. -/
def same : Quantity → Quantity → Bool
  | .infinite a, .infinite b => a == b
  | .scaled n e, .scaled m f => sameScaled n e m f
  | _, _ => false

/-- Whether a quantity is below one; what is no number is not. -/
def isBelowOne : Quantity → Bool
  | .nan => false
  | .infinite negative => negative
  | .scaled coefficient exponent => coefficient ≤ 0 || leadingPlace coefficient exponent ≤ 0

end Quantity

/-- The quantity of a double-precision number. -/
def Binary64.quantity : Binary64 → Quantity
  | .nan => .nan
  | .infinite negative => .infinite negative
  | .finite negative magnitude =>
      let units : Int := magnitude.units * Nat.pow 5 smallestPower
      .scaled (if negative then -units else units) (-(smallestPower : Int))

/-- The quantity of a decimal number. -/
def Decimal.quantity : Decimal → Quantity
  | .nan _ _ _ => .nan
  | .infinite negative => .infinite negative
  | .finite negative coefficient exponent =>
      .scaled (if negative then -(coefficient : Int) else coefficient) exponent

namespace Value

/-- The quantity of a value that is a number. -/
def quantity? (value : Value) : Option Quantity :=
  match value with
  | .decimal d => some d.quantity
  | _ =>
      match value.int?, value.float? with
      | some i, _ => some (.scaled i 0)
      | none, some x => some x.quantity
      | none, none => none

/-- Equality of values that hold no others. -/
def sameAtom (a b : Value) : Bool :=
  match a.quantity?, b.quantity? with
  | some p, some q => p.same q
  | _, _ =>
      match a.text?, b.text? with
      | some s, some t => s == t
      | _, _ =>
          match a, b with
          | .null, .null => true
          | .date d, .date e => d == e
          | .datetime d, .datetime e => d.sameAs e
          | .time t, .time u => t == u
          | .duration d, .duration e => d == e
          | .uuid u, .uuid v => u == v
          | .bytes x, .bytes y => x == y
          | _, _ => false

mutual

/-- Whether two values are equal. -/
def same : Value → Value → Bool
  | .list items, .list others => sameItems items others
  | .tuple items, .tuple others => sameItems items others
  | .dict entries, .dict others =>
      entries.length == others.length && entriesAmong entries others
  | a, b => sameAtom a b

/-- Whether two lists of values are equal item by item. -/
def sameItems : List Value → List Value → Bool
  | [], [] => true
  | a :: items, b :: others => same a b && sameItems items others
  | _, _ => false

/-- Whether each entry of a dictionary is equal to one of another. -/
def entriesAmong : List (Value × Value) → List (Value × Value) → Bool
  | [], _ => true
  | (key, item) :: entries, others =>
      (others.any fun other => same key other.1 && same item other.2) && entriesAmong entries others

end

/-- The dictionary of a list of keys with their items. -/
def dictionary (pairs : List (Value × Value)) : Value :=
  .dict (Entries.ofPairs same pairs)

mutual

/-- The first value in a value, or the value itself, that can be no key. -/
def unfitKey? : Value → Option Value
  | .list items => some (.list items)
  | .dict entries => some (.dict entries)
  | .tuple items => firstUnfitKey? items
  | _ => none

/-- The first of several values that can be no key. -/
def firstUnfitKey? : List Value → Option Value
  | [] => none
  | item :: items =>
      match unfitKey? item with
      | some unfit => some unfit
      | none => firstUnfitKey? items

end

end Value
end BoundSql
