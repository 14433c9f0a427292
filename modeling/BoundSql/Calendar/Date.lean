/-!
# Calendar dates

Days of the Gregorian calendar in the years 1 to 9999, extended backwards over
the years in which it was not in use. A date carries the proof that it is a day
of the calendar. Its text is year, month and day with leading zeros.
-/

namespace BoundSql

/-- Whether a year has a twenty-ninth of February. -/
def isLeapYear (year : Nat) : Bool :=
  year % 4 == 0 && (year % 100 != 0 || year % 400 == 0)

/-- The number of days of a month. -/
def daysInMonth (year month : Nat) : Nat :=
  if month == 2 then (if isLeapYear year then 29 else 28)
  else if month == 4 || month == 6 || month == 9 || month == 11 then 30
  else 31

/-- Whether three numbers name a day of the calendar. -/
def IsCalendarDay (year month day : Nat) : Prop :=
  1 ≤ year ∧ year ≤ 9999 ∧ 1 ≤ month ∧ month ≤ 12 ∧ 1 ≤ day ∧ day ≤ daysInMonth year month

instance (year month day : Nat) : Decidable (IsCalendarDay year month day) := by
  unfold IsCalendarDay
  infer_instance

/-- A day of the calendar. -/
structure Date where
  year : Nat
  month : Nat
  day : Nat
  isDay : IsCalendarDay year month day
  deriving DecidableEq, Repr

/-- A number in decimal, padded with zeros to a width. -/
def padded (width value : Nat) : List Char :=
  let digits := Nat.toDigits 10 value
  List.replicate (width - digits.length) '0' ++ digits

/-- Read a number of exactly `width` digits from the front of a text. -/
def fixedWidth? (width : Nat) (s : List Char) : Option (Nat × List Char) :=
  let digits := s.take width
  if digits.length == width && digits.all Char.isDigit then
    some (digits.foldl (fun value c => 10 * value + (c.toNat - '0'.toNat)) 0, s.drop width)
  else
    none

/-- Take a given character from the front of a text. -/
def expect? (c : Char) : List Char → Option (List Char)
  | d :: rest => if c == d then some rest else none
  | [] => none

namespace Date

/-- The day three numbers name, if they name one. -/
def ofParts? (year month day : Nat) : Option Date :=
  if isDay : IsCalendarDay year month day then some ⟨year, month, day, isDay⟩ else none

/-- The text of a date. -/
def isoText (date : Date) : List Char :=
  padded 4 date.year ++ '-' :: padded 2 date.month ++ '-' :: padded 2 date.day

/-- Read a date from the front of a text. -/
def takeIso? (s : List Char) : Option (Date × List Char) := do
  let (year, s) ← fixedWidth? 4 s
  let (month, s) ← fixedWidth? 2 (← expect? '-' s)
  let (day, s) ← fixedWidth? 2 (← expect? '-' s)
  let date ← ofParts? year month day
  pure (date, s)

/-- Read a text that is a date and nothing else. -/
def ofIso? (s : List Char) : Option Date := do
  let (date, rest) ← takeIso? s
  if rest.isEmpty then some date else none

/-- The number of days from the first of January of year 1 to the first of a later year. -/
def daysBeforeYear (year : Nat) : Nat :=
  let past := year - 1
  365 * past + past / 4 - past / 100 + past / 400

/-- The number of days of a year before the first of a month. -/
def daysBeforeMonth (year month : Nat) : Nat :=
  (List.range (month - 1)).foldl (fun days before => days + daysInMonth year (before + 1)) 0

/-- The place of a date in the order of all days. -/
def ordinal (date : Date) : Nat :=
  daysBeforeYear date.year + daysBeforeMonth date.year date.month + date.day

end Date
end BoundSql
