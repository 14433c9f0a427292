import BoundSql.Calendar.DateTime
import BoundSql.Proofs.Number.Digits

/-!
# Reading calendar texts

Numbers of fixed width read back from the front of a text, and so do dates and times
of day, with or without a fraction of a second.  A point in time whose clock knows no
offset reads back from its text with a blank between date and time.
-/

namespace BoundSql

/-! ## Numbers of fixed width -/

section Padded

variable {width value : Nat}

theorem isDigit_of_mem_padded {c : Char} (member : c ∈ padded width value) :
    c.isDigit = true := by
  obtain zero | digit := List.mem_append.mp member
  · rw [List.eq_of_mem_replicate zero]
    rfl
  · exact Literal.isDigit_of_mem_toDigits digit

theorem length_padded (width value : Nat) (positive : 0 < width) (small : value < 10 ^ width) :
    (padded width value).length = width := by
  have short := (Nat.length_toDigits_le_iff (by decide) positive).mpr small
  rw [padded, List.length_append, List.length_replicate]
  omega

theorem natural_padded (width value : Nat) : Literal.natural (padded width value) = value := by
  rw [padded, Literal.natural_append, Literal.natural_zeros, Literal.natural_toDigits, Nat.mul_zero,
    Nat.zero_add]

/-- A number that fits a width reads back from its text of that width. -/
theorem fixedWidth?_padded
    (width value : Nat)
    (positive : 0 < width)
    (small : value < 10 ^ width)
    (rest : List Char) :
    fixedWidth? width (padded width value ++ rest) = some (value, rest) := by
  have sameLength := length_padded width value positive small
  have taken : (padded width value ++ rest).take width = padded width value :=
    List.take_left' sameLength
  have dropped : (padded width value ++ rest).drop width = rest :=
    List.drop_left' sameLength
  have digits : (padded width value).all Char.isDigit = true :=
    List.all_eq_true.mpr fun c member => isDigit_of_mem_padded member
  have read : (padded width value).foldl
      (fun value c => 10 * value + (c.toNat - '0'.toNat)) 0 = value :=
    natural_padded width value
  simp only [fixedWidth?, taken, dropped, sameLength, digits, read, beq_self_eq_true,
    Bool.and_self, if_pos]

end Padded

/-! ## Dates -/

theorem daysInMonth_le (year month : Nat) : daysInMonth year month ≤ 31 := by
  unfold daysInMonth
  split
  · split <;> decide
  · split <;> decide

namespace Date

/-- A date reads back from the front of a text. -/
theorem takeIso?_isoText (date : Date) (rest : List Char) :
    takeIso? (date.isoText ++ rest) = some (date, rest) := by
  obtain ⟨year, month, day, calendarDay⟩ := date
  have ⟨_, lastYear, _, lastMonth, _, lastDay⟩ := calendarDay
  have atMost := daysInMonth_le year month
  have years := fixedWidth?_padded 4 year (by decide) (by omega)
  have months := fixedWidth?_padded 2 month (by decide) (by omega)
  have days := fixedWidth?_padded 2 day (by decide) (by omega)
  have named : ofParts? year month day = some ⟨year, month, day, calendarDay⟩ :=
    dif_pos calendarDay
  simp only [isoText, takeIso?, List.append_assoc, List.cons_append, years, months, days, named,
    expect?, beq_self_eq_true, if_pos, Option.bind_eq_bind, Option.bind_some]
  rfl

end Date

/-! ## Times of day -/

/-- A fraction of a second reads back, up to what is neither a digit nor a mark. -/
theorem takeFraction?_fractionText
    {microsecond : Nat}
    {rest : List Char}
    (small : microsecond < 1000000)
    (ends : ∀ c ∈ rest.head?, c.isDigit = false ∧ isFractionMark c = false) :
    takeFraction? (fractionText microsecond ++ rest) = some (microsecond, rest) := by
  unfold fractionText
  split
  next whole =>
      rw [beq_iff_eq] at whole
      rw [whole, List.nil_append]
      cases rest with
      | nil => rfl
      | cons c rest =>
          have notMark := (ends c rfl).2
          rw [takeFraction?, notMark]
          rfl
  next fraction =>
      have digits : ∀ c ∈ padded 6 microsecond, c.isDigit = true := fun c member =>
        isDigit_of_mem_padded member
      have split := Text.span_append digits fun c member => (ends c member).1
      have some : (padded 6 microsecond).isEmpty = false := by
        have sameLength := length_padded 6 microsecond (by decide) small
        rw [← Bool.not_eq_true, List.isEmpty_iff]
        rintro empty
        rw [empty] at sameLength
        contradiction
      have read := fixedWidth?_padded 6 microsecond (by decide) small (List.replicate 6 '0')
      have mark : isFractionMark '.' = true := rfl
      simp only [takeFraction?, List.cons_append, mark, split, some, read, if_pos,
        Bool.false_eq_true, if_false, Option.map_some]

namespace TimeOfDay

/-- A time of day reads back from the front of a text, up to what is neither a digit nor a mark. -/
theorem takeIso?_isoText
    {rest : List Char}
    (time : TimeOfDay)
    (ends : ∀ c ∈ rest.head?, c.isDigit = false ∧ isFractionMark c = false) :
    takeIso? (time.isoText ++ rest) = some (time, rest) := by
  obtain ⟨hour, minute, second, microsecond, parts⟩ := time
  have ⟨lastHour, lastMinute, lastSecond, lastMicrosecond⟩ := parts
  have hours := fixedWidth?_padded 2 hour (by decide) (by omega)
  have minutes := fixedWidth?_padded 2 minute (by decide) (by omega)
  have seconds := fixedWidth?_padded 2 second (by decide) (by omega)
  have fraction := takeFraction?_fractionText lastMicrosecond ends
  have named : ofParts? hour minute second microsecond =
      some ⟨hour, minute, second, microsecond, parts⟩ :=
    dif_pos parts
  simp only [isoText, takeIso?, takeParts?, List.append_assoc, List.cons_append, hours, minutes,
    seconds, fraction, named, expect?, beq_self_eq_true, if_pos, Option.bind_eq_bind,
    Option.bind_some, Option.pure_def]

end TimeOfDay

/-! ## Points in time -/

namespace DateTime

/-- A point in time without an offset reads back from its text. -/
theorem ofIso?_isoText
    {moment : DateTime}
    (naive : moment.offset = none) :
    ofIso? (moment.isoText ' ') = some moment := by
  obtain ⟨date, time, offset⟩ := moment
  obtain rfl : offset = none := naive
  have clock : TimeOfDay.takeIso? (time.isoText ++ []) = some (time, []) :=
    time.takeIso?_isoText nofun
  rw [List.append_nil] at clock
  have blank : separators.contains ' ' = true := rfl
  simp only [isoText, ofIso?, List.append_nil, Date.takeIso?_isoText, clock,
    blank, Option.bind_eq_bind, Option.bind_some]
  rfl

/-- The text of a date is read as its beginning. -/
theorem ofIso?_date (date : Date) : ofIso? date.isoText = some (atMidnight date) := by
  have taken := date.takeIso?_isoText []
  rw [List.append_nil] at taken
  rw [ofIso?, taken]
  rfl

end DateTime
end BoundSql
