import BoundSql.Argument.Codec
import BoundSql.Model.Schema
import BoundSql.Proofs.Calendar.IsoText
import BoundSql.Proofs.Outcome

/-!
# The width of calendar texts

Columns of dates and of points in time are declared with a width, and hold the texts that
their values are encoded as.  The text of a date has ten characters, as many as its
column.  The text of a point in time has nineteen, seven more for a fraction of a second,
and for an offset six, nine or sixteen more: an offset shows its seconds, and their
fraction, only when it has some.

So the width of forty that columns of points in time have is enough for every text but
one kind.  Where the time of day and the offset both have a fraction of a second, the
text has forty-two characters.
-/

namespace BoundSql

/-! ## Declared widths -/

/-- Whether the column of a field is declared to hold texts up to a width. -/
def Field.Declares (field : Field) (width : Nat) : Prop :=
  ∃ column, Column.ofField field = .ok column ∧
    column.sqlType = .ok ("varchar(" ++ toString width ++ ")")

namespace Field

variable {field : Field} {column : Column} {width other : Nat}

/-- A column has one width. -/
theorem Declares.unique (declares : field.Declares width) (declaresOther : field.Declares other) :
    width = other := by
  obtain ⟨column, ofField, declared⟩ := declares
  obtain ⟨_, sameField, declaredOther⟩ := declaresOther
  cases ofField.symm.trans sameField
  have sameType := Except.ok.inj (declared.symm.trans declaredOther)
  rw [String.append_left_inj, String.append_right_inj] at sameType
  -- The digits of a width read back as the width.
  have sameDigits : Nat.toDigits 10 width = Nat.toDigits 10 other := String.ofList_injective
    ((Nat.repr_eq_ofList_toDigits).symm.trans (sameType.trans Nat.repr_eq_ofList_toDigits))
  rw [← Literal.natural_toDigits width, sameDigits, Literal.natural_toDigits]

theorem Declares.iff_eq (declares : field.Declares width) (other : Nat) :
    field.Declares other ↔ other = width := by
  constructor
  · intro declaresOther
    exact declaresOther.unique declares
  · rintro rfl
    exact declares

/-- What the type of the column says is the width of a field whose type is a scalar one. -/
theorem declares_of_scalar?
    {type : ScalarType}
    {nullable : Bool}
    (scalar : field.type.scalar? = some (type, nullable))
    (typed : (Column.mk field.name type nullable field.options).sqlType =
      .ok ("varchar(" ++ toString width ++ ")")) :
    field.Declares width := by
  refine ⟨⟨field.name, type, nullable, field.options⟩, ?_, typed⟩
  rw [Column.ofField, scalar]

end Field

/-! ## Lengths of texts -/

theorem Date.length_isoText (date : Date) : date.isoText.length = 10 := by
  have ⟨_, lastYear, _, lastMonth, _, lastDay⟩ := date.isDay
  have atMost := daysInMonth_le date.year date.month
  have years := length_padded 4 date.year (by decide) (by omega)
  have months := length_padded 2 date.month (by decide) (by omega)
  have days := length_padded 2 date.day (by decide) (by omega)
  simp only [isoText, List.length_append, List.length_cons, years, months, days]

/-- A fraction of a second takes seven characters when there is one. -/
theorem length_fractionText {microsecond : Nat} (small : microsecond < 1000000) :
    (fractionText microsecond).length = if microsecond = 0 then 0 else 7 := by
  have digits := length_padded 6 microsecond (by decide) small
  by_cases whole : microsecond = 0
  · simp [fractionText, whole]
  · simp [fractionText, whole, digits]

theorem TimeOfDay.length_isoText (time : TimeOfDay) :
    time.isoText.length = 8 + if time.microsecond = 0 then 0 else 7 := by
  have ⟨lastHour, lastMinute, lastSecond, lastMicrosecond⟩ := time.inDay
  have hours := length_padded 2 time.hour (by decide) (by omega)
  have minutes := length_padded 2 time.minute (by decide) (by omega)
  have seconds := length_padded 2 time.second (by decide) (by omega)
  simp only [isoText, List.length_append, List.length_cons, hours, minutes, seconds,
    length_fractionText lastMicrosecond]

namespace UtcOffset

/-- The microseconds of an offset that are no whole second. -/
def microsecond (offset : UtcOffset) : Nat :=
  offset.microseconds.natAbs % 1000000

/-- The seconds of an offset that are no whole minute. -/
def second (offset : UtcOffset) : Nat :=
  offset.microseconds.natAbs / 1000000 % 60

/-- Of an offset only the parts down to the last one that is needed take characters. -/
theorem length_isoText (offset : UtcOffset) :
    offset.isoText.length =
      if offset.microsecond ≠ 0 then 16 else if offset.second ≠ 0 then 9 else 6 := by
  have withinDay := offset.withinDay
  rw [microsecondsPerDay] at withinDay
  have hours := length_padded 2 (offset.microseconds.natAbs / 1000000 / 3600) (by decide)
    (by omega)
  have minutes := length_padded 2 (offset.microseconds.natAbs / 1000000 / 60 % 60) (by decide)
    (by omega)
  have seconds := length_padded 2 (offset.microseconds.natAbs / 1000000 % 60) (by decide)
    (by omega)
  have fraction := length_fractionText
    (Nat.mod_lt offset.microseconds.natAbs (Nat.succ_pos 999999))
  by_cases wholeSecond : offset.microseconds.natAbs % 1000000 = 0
  · by_cases wholeMinute : offset.microseconds.natAbs / 1000000 % 60 = 0
    · simp [isoText, microsecond, second, wholeSecond, wholeMinute, hours, minutes]
    · simp [isoText, microsecond, second, wholeSecond, wholeMinute, hours, minutes, seconds,
        fractionText]
  · simp [isoText, microsecond, wholeSecond, hours, minutes, seconds, fraction]

end UtcOffset

namespace DateTime

/-- Whether the time of day and the offset of a point in time both have a fraction of a second. -/
def IsFractionalTwice (moment : DateTime) : Prop :=
  moment.time.microsecond ≠ 0 ∧ ∃ offset, moment.offset = some offset ∧ offset.microsecond ≠ 0

/-- With two fractions of a second the text of a point in time has forty-two characters. -/
theorem length_isoText_of_twice
    {moment : DateTime}
    (twice : moment.IsFractionalTwice)
    (separator : Char) :
    (moment.isoText separator).length = 42 := by
  obtain ⟨ofTime, offset, shown, ofOffset⟩ := twice
  simp [isoText, shown, moment.date.length_isoText, moment.time.length_isoText,
    offset.length_isoText, ofTime, ofOffset]

/-- With one fraction of a second or none it has thirty-five at most. -/
theorem length_isoText_le_of_not_twice
    {moment : DateTime}
    (once : ¬moment.IsFractionalTwice)
    (separator : Char) :
    (moment.isoText separator).length ≤ 35 := by
  have ofDate := moment.date.length_isoText
  have ofTime := moment.time.length_isoText
  cases shown : moment.offset with
  | none =>
      simp only [isoText, shown, List.length_append, List.length_cons, List.length_nil, ofDate,
        ofTime]
      split <;> decide
  | some offset =>
      have ofOffset := offset.length_isoText
      have notBoth : moment.time.microsecond = 0 ∨ offset.microsecond = 0 := by
        by_contra both
        rw [not_or] at both
        exact once ⟨both.1, offset, shown, both.2⟩
      simp only [isoText, shown, List.length_append, List.length_cons, ofDate, ofTime, ofOffset]
      rcases notBoth with whole | whole
      · simp only [whole, if_pos]
        split
        · decide
        · split <;> decide
      · simp only [whole, ne_eq, not_true_eq_false, if_false]
        split <;> split <;> decide

end DateTime

namespace Argument

/-- What is encoded for a date fits the ten characters of the column of a field of dates.  What is
encoded for a point in time fits the forty characters of the column of a field of points in time,
unless the time of day and the offset both have a fraction of a second, and then it has forty-two
characters.  A column has no other width. -/
theorem encode_fits_iff (field : Field) (nullable : Bool) :
    (field.type.scalar? = some (.date, nullable) →
      (∀ width, field.Declares width ↔ width = 10) ∧
      ∀ date : Date, ∃ s, encode (.date date) = .ok (ofText .date s) ∧ s.length ≤ 10) ∧
    (field.type.scalar? = some (.datetime, nullable) →
      (∀ width, field.Declares width ↔ width = 40) ∧
      ∀ moment : DateTime, ∃ s, encode (.datetime moment) = .ok (ofText .datetime s) ∧
        (s.length ≤ 40 ↔ ¬moment.IsFractionalTwice) ∧
        (moment.IsFractionalTwice → s.length = 42)) := by
  constructor
  · intro dated
    have declared : field.Declares 10 := Field.declares_of_scalar? dated rfl
    refine ⟨declared.iff_eq, fun date => ⟨_, rfl, ?_⟩⟩
    rw [String.length_ofList, date.length_isoText]
  · intro timed
    have declared : field.Declares 40 := Field.declares_of_scalar? timed rfl
    refine ⟨declared.iff_eq, fun moment => ⟨_, rfl, ?_⟩⟩
    rw [String.length_ofList]
    by_cases twice : moment.IsFractionalTwice
    · rw [DateTime.length_isoText_of_twice twice]
      exact ⟨iff_of_false (by decide) (not_not_intro twice), fun _ => rfl⟩
    · have short := DateTime.length_isoText_le_of_not_twice twice ' '
      exact ⟨iff_of_true (by omega) twice, fun both => absurd both twice⟩

/-- A field of points in time. -/
def momentField : Field :=
  ⟨"at", .scalar .datetime, .plain, none⟩

/-- A point in time with a time of day and an offset of any number of microseconds. -/
def atOffset
    (microsecond : Nat)
    (offset : Int)
    (small : microsecond < 1000000)
    (withinDay : offset.natAbs < microsecondsPerDay) : DateTime where
  date := ⟨2024, 1, 2, by decide⟩
  time := ⟨3, 4, 5, microsecond, by omega⟩
  offset := some ⟨offset, withinDay⟩

/-- A date, and a point in time with a fraction of a second whose offset has seconds but no
fraction, fit their columns. -/
theorem encode_fits_iff_once :
    ((Field.mk "on" (.scalar .date) .plain none).Declares 10 ∧
      ∃ s, encode (.date ⟨2024, 2, 29, by decide⟩) = .ok (ofText .date s) ∧ s.length ≤ 10) ∧
    momentField.Declares 40 ∧
      ∃ s, encode (.datetime (atOffset 1 7201000000 (by decide) (by decide))) =
        .ok (ofText .datetime s) ∧ s.length ≤ 40 := by
  obtain ⟨ofDates, -⟩ := encode_fits_iff (Field.mk "on" (.scalar .date) .plain none) false
  obtain ⟨-, ofMoments⟩ := encode_fits_iff momentField false
  obtain ⟨dateWidth, fitsDate⟩ := ofDates rfl
  obtain ⟨momentWidth, fitsMoment⟩ := ofMoments rfl
  refine ⟨⟨(dateWidth 10).mpr rfl, fitsDate _⟩, (momentWidth 40).mpr rfl, ?_⟩
  obtain ⟨s, encoded, fits, -⟩ := fitsMoment (atOffset 1 7201000000 (by decide) (by decide))
  refine ⟨s, encoded, fits.mpr ?_⟩
  rintro ⟨_, offset, shown, fractional⟩
  cases shown
  exact fractional rfl

/-- With two fractions of a second the text is longer than any width that the column is declared
with. -/
theorem encode_outgrows :
    ∃ s, encode (.datetime (atOffset 1 7200000001 (by decide) (by decide))) =
        .ok (ofText .datetime s) ∧ s.length = 42 ∧ momentField.Declares 40 ∧
      ∀ width, momentField.Declares width → width < s.length := by
  have declared : momentField.Declares 40 := Field.declares_of_scalar? rfl rfl
  have long : ((atOffset 1 7200000001 (by decide) (by decide)).isoText ' ').length = 42 :=
    DateTime.length_isoText_of_twice ⟨by decide, _, rfl, by decide⟩ ' '
  refine ⟨_, rfl, (String.length_ofList).trans long, declared, ?_⟩
  intro width declaredToo
  rw [← declared.unique declaredToo, String.length_ofList, long]
  decide

end Argument
end BoundSql
