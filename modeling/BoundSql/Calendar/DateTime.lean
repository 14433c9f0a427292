import BoundSql.Calendar.Date

/-!
# Times of day and points in time

A time of day is exact to the microsecond. A point in time is a date with a time
of day and may know how far its clock is ahead of universal time. The texts show
microseconds only when there are some, and of an offset only the parts down to
the last one that is needed.
-/

namespace BoundSql

/-- A time of day. -/
structure TimeOfDay where
  hour : Nat
  minute : Nat
  second : Nat
  microsecond : Nat
  inDay : hour < 24 ∧ minute < 60 ∧ second < 60 ∧ microsecond < 1000000
  deriving DecidableEq, Repr

/-- Microseconds of a day. -/
def microsecondsPerDay : Nat := 86400000000

/-- How far a clock is ahead of universal time: less than a day to either side. -/
structure UtcOffset where
  microseconds : Int
  withinDay : microseconds.natAbs < microsecondsPerDay
  deriving DecidableEq, Repr

/-- A point in time as a calendar and a clock show it. -/
structure DateTime where
  date : Date
  time : TimeOfDay
  offset : Option UtcOffset
  deriving DecidableEq, Repr

/-- The fraction of a second, when there is one. -/
def fractionText (microsecond : Nat) : List Char :=
  if microsecond == 0 then [] else '.' :: padded 6 microsecond

/-- Whether a character stands between seconds and their fraction. -/
def isFractionMark (c : Char) : Bool :=
  c == '.' || c == ','

/-- Read the fraction of a second, digits behind a mark, from the front of a text. Digits behind the
sixth do not count. -/
def takeFraction? : List Char → Option (Nat × List Char)
  | [] => some (0, [])
  | c :: s =>
      if isFractionMark c then
        let (digits, rest) := s.span Char.isDigit
        if digits.isEmpty then
          none
        else
          (fixedWidth? 6 (digits ++ List.replicate 6 '0')).map fun (value, _) => (value, rest)
      else
        some (0, c :: s)

namespace TimeOfDay

/-- The time of day four numbers name, if they name one. -/
def ofParts? (hour minute second microsecond : Nat) : Option TimeOfDay :=
  if inDay : hour < 24 ∧ minute < 60 ∧ second < 60 ∧ microsecond < 1000000 then
    some ⟨hour, minute, second, microsecond, inDay⟩
  else
    none

/-- The beginning of a day. -/
def midnight : TimeOfDay := ⟨0, 0, 0, 0, by decide⟩

/-- The text of a time of day. -/
def isoText (time : TimeOfDay) : List Char :=
  padded 2 time.hour ++ ':' :: padded 2 time.minute ++ ':' :: padded 2 time.second ++
    fractionText time.microsecond

/-- Read hours, minutes, seconds and microseconds from the front of a text. -/
def takeParts? (s : List Char) : Option ((Nat × Nat × Nat × Nat) × List Char) := do
  let (hour, s) ← fixedWidth? 2 s
  let (minute, s) ← fixedWidth? 2 (← expect? ':' s)
  match s with
  | ':' :: s =>
      let (second, s) ← fixedWidth? 2 s
      let (microsecond, s) ← takeFraction? s
      pure ((hour, minute, second, microsecond), s)
  | s => pure ((hour, minute, 0, 0), s)

/-- Read a time of day from the front of a text. -/
def takeIso? (s : List Char) : Option (TimeOfDay × List Char) := do
  let ((hour, minute, second, microsecond), rest) ← takeParts? s
  let time ← ofParts? hour minute second microsecond
  pure (time, rest)

/-- Read a text that is a time of day and nothing else. -/
def ofIso? (s : List Char) : Option TimeOfDay := do
  let (time, rest) ← takeIso? s
  if rest.isEmpty then some time else none

/-- Microseconds since midnight. -/
def microseconds (time : TimeOfDay) : Nat :=
  ((time.hour * 60 + time.minute) * 60 + time.second) * 1000000 + time.microsecond

/-- Whether the seconds of a time of day are needed to name it. -/
def showsSeconds (time : TimeOfDay) : Bool :=
  time.second != 0 || time.microsecond != 0

end TimeOfDay

namespace UtcOffset

/-- The offset of a number of microseconds, if it is less than a day. -/
def ofMicroseconds? (microseconds : Int) : Option UtcOffset :=
  if withinDay : microseconds.natAbs < microsecondsPerDay then
    some ⟨microseconds, withinDay⟩
  else
    none

/-- The text of an offset: hours and minutes, then seconds and microseconds if there are any. -/
def isoText (offset : UtcOffset) : List Char :=
  let total := offset.microseconds.natAbs
  let seconds := total / 1000000
  let sign := if offset.microseconds < 0 then '-' else '+'
  let coarse := sign :: padded 2 (seconds / 3600) ++ ':' :: padded 2 (seconds / 60 % 60)
  if seconds % 60 == 0 && total % 1000000 == 0 then
    coarse
  else
    coarse ++ ':' :: padded 2 (seconds % 60) ++ fractionText (total % 1000000)

/-- Read a text that is an offset and nothing else. An offset without whole seconds is read as
none at all. -/
def ofIso? : List Char → Option UtcOffset
  | ['Z'] => ofMicroseconds? 0
  | sign :: s => do
      if sign != '+' && sign != '-' then none
      let ((hour, minute, second, microsecond), rest) ← TimeOfDay.takeParts? s
      if !rest.isEmpty then none
      let seconds := (hour * 60 + minute) * 60 + second
      let total : Int := if seconds == 0 then 0 else seconds * 1000000 + microsecond
      ofMicroseconds? (if sign == '-' then -total else total)
  | [] => none

end UtcOffset

namespace DateTime

/-- The text of a point in time, with a separator between date and time. -/
def isoText (separator : Char) (moment : DateTime) : List Char :=
  moment.date.isoText ++ separator :: moment.time.isoText ++
    match moment.offset with
    | some offset => offset.isoText
    | none => []

/-- The beginning of a day. -/
def atMidnight (date : Date) : DateTime :=
  ⟨date, TimeOfDay.midnight, none⟩

/-- What may stand between the date and the time of a point in time that is read. -/
def separators : List Char := ['T', 't', ' ', '_']

/-- Read a text that is a point in time and nothing else. A date alone is its beginning. -/
def ofIso? (s : List Char) : Option DateTime := do
  let (date, s) ← Date.takeIso? s
  match s with
  | separator :: s =>
      if !separators.contains separator then none
      let (time, s) ← TimeOfDay.takeIso? s
      if s.isEmpty then
        pure ⟨date, time, none⟩
      else
        let offset ← UtcOffset.ofIso? s
        pure ⟨date, time, some offset⟩
  | [] => pure (atMidnight date)

/-- Microseconds on the clock shown, counted from the beginning of the calendar. -/
def clockMicroseconds (moment : DateTime) : Int :=
  moment.date.ordinal * microsecondsPerDay + moment.time.microseconds

/-- Whether two points in time are the same: by the clock when neither has an offset, by universal
time when both have one. -/
def sameAs (a b : DateTime) : Bool :=
  match a.offset, b.offset with
  | none, none => a.clockMicroseconds == b.clockMicroseconds
  | some x, some y =>
      a.clockMicroseconds - x.microseconds == b.clockMicroseconds - y.microseconds
  | _, _ => false

end DateTime
end BoundSql
