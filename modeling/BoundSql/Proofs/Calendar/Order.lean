import BoundSql.Argument.Codec
import BoundSql.Proofs.Calendar.IsoText
import Mathlib.Order.Monotone.Basic
import Mathlib.Tactic.Ring

/-!
# The order of calendar texts

Columns of dates and of points in time hold their texts, so what is compared in them is
texts, character by character.  This is the order of time: all numbers have a fixed width
and stand from the coarsest to the finest, and days, months and years follow each other
without overlaps.  A fraction of a second is left out when it is zero.  What then stands
in its place, the end of the text or the sign of an offset, comes before the point of any
fraction.
-/

namespace BoundSql

/-! ## Places in stages -/

section Stages

variable (begins length : Nat → Nat) {m n r s : Nat}

/-- Where each stage ends before the next one begins, places are compared by their stages first, and
then within the stage.  A further comparison decides between places that are equal. -/
theorem compare_stages
    (follows : ∀ stage, begins stage + length stage ≤ begins (stage + 1))
    (inFirst : r < length m)
    (inSecond : s < length n)
    (further : Prop) :
    begins m + r < begins n + s ∨ begins m + r = begins n + s ∧ further ↔
      m < n ∨ m = n ∧ (r < s ∨ r = s ∧ further) := by
  have ascends : Monotone begins :=
    monotone_nat_of_le_succ fun stage => (Nat.le_add_right _ _).trans (follows stage)
  have ends : ∀ {k l : Nat}, k < l → begins k + length k ≤ begins l :=
    fun before => (follows _).trans (ascends before)
  rcases Nat.lt_trichotomy m n with before | rfl | after
  · have apart := ends before
    exact iff_of_true (.inl (by omega)) (.inl before)
  · have irrefl : ¬m < m := Nat.lt_irrefl m
    simp only [irrefl, false_or, true_and, Nat.add_lt_add_iff_left, Nat.add_right_inj]
  · have apart := ends after
    apply iff_of_false
    · rintro (less | ⟨equal, _⟩) <;> omega
    · rintro (less | ⟨equal, _⟩) <;> omega

end Stages

/-! ## Numbers of fixed width -/

namespace Literal

theorem natural_cons (c : Char) (digits : List Char) :
    natural (c :: digits) =
      10 ^ digits.length * (c.toNat - '0'.toNat) + natural digits := by
  have single : natural [c] = c.toNat - '0'.toNat := by
    simp [natural]
  rw [← single, ← natural_append, List.singleton_append]

theorem natural_lt_pow {digits : List Char} (isDigit : ∀ c ∈ digits, c.isDigit = true) :
    natural digits < 10 ^ digits.length := by
  induction digits with
  | nil => decide
  | cons c digits below =>
      rw [List.forall_mem_cons, Char.isDigit_iff_toNat] at isDigit
      obtain ⟨⟨_, atMost⟩, others⟩ := isDigit
      have leading : c.toNat - '0'.toNat ≤ 9 := Nat.sub_le_sub_right atMost '0'.toNat
      rw [natural_cons, List.length_cons]
      calc 10 ^ digits.length * (c.toNat - '0'.toNat) + natural digits
          < 10 ^ digits.length * 9 + 10 ^ digits.length :=
            Nat.add_lt_add_of_le_of_lt (Nat.mul_le_mul_left _ leading) (below others)
        _ = 10 ^ (digits.length + 1) := by ring

section Digit

variable {c d : Char}

theorem digit_lt_iff (digitC : c.isDigit = true) (digitD : d.isDigit = true) :
    c < d ↔ c.toNat - '0'.toNat < d.toNat - '0'.toNat := by
  have aboveC := (Char.isDigit_iff_toNat.mp digitC).1
  have aboveD := (Char.isDigit_iff_toNat.mp digitD).1
  have byCode : c < d ↔ c.toNat < d.toNat := Iff.rfl
  rw [byCode]
  omega

theorem digit_eq_iff (digitC : c.isDigit = true) (digitD : d.isDigit = true) :
    c = d ↔ c.toNat - '0'.toNat = d.toNat - '0'.toNat := by
  have aboveC := (Char.isDigit_iff_toNat.mp digitC).1
  have aboveD := (Char.isDigit_iff_toNat.mp digitD).1
  rw [← Char.toNat_inj]
  omega

end Digit

/-- Texts that begin with equally many digits are compared by the numbers that these denote, and
behind them when the numbers are equal. -/
theorem append_lt_append_iff
    {x y : List Char}
    (digitsX : ∀ c ∈ x, c.isDigit = true)
    (digitsY : ∀ c ∈ y, c.isDigit = true)
    (sameLength : x.length = y.length)
    (s t : List Char) :
    x ++ s < y ++ t ↔ natural x < natural y ∨ natural x = natural y ∧ s < t := by
  induction x generalizing y with
  | nil =>
      obtain rfl := List.length_eq_zero_iff.mp sameLength.symm
      simp
  | cons c x compares =>
      cases y with
      | nil => cases sameLength
      | cons d y =>
          rw [List.length_cons, List.length_cons, Nat.add_right_cancel_iff] at sameLength
          rw [List.forall_mem_cons] at digitsX digitsY
          have fitsX := natural_lt_pow digitsX.2
          have fitsY := natural_lt_pow digitsY.2
          rw [← sameLength] at fitsY
          have follows : ∀ digit, 10 ^ x.length * digit + 10 ^ x.length ≤
              10 ^ x.length * (digit + 1) :=
            fun digit => Nat.le_of_eq (Nat.mul_succ _ digit).symm
          have leading := digit_lt_iff digitsX.1 digitsY.1
          have sameLeading := digit_eq_iff digitsX.1 digitsY.1
          rw [List.cons_append, List.cons_append, List.cons_lt_cons_iff,
            compares digitsX.2 digitsY.2 sameLength, natural_cons, natural_cons, ← sameLength,
            compare_stages _ _ follows fitsX fitsY, leading, sameLeading]

end Literal

/-- Numbers in one width are compared as numbers. -/
theorem padded_append_lt_iff
    {width a b : Nat}
    (positive : 0 < width)
    (smallA : a < 10 ^ width)
    (smallB : b < 10 ^ width)
    (s t : List Char) :
    padded width a ++ s < padded width b ++ t ↔ a < b ∨ a = b ∧ s < t := by
  have sameLength : (padded width a).length = (padded width b).length := by
    rw [length_padded width a positive smallA, length_padded width b positive smallB]
  rw [Literal.append_lt_append_iff (fun _ => isDigit_of_mem_padded)
    (fun _ => isDigit_of_mem_padded) sameLength, natural_padded, natural_padded]

/-! ## Days of the calendar -/

namespace Date

/-- The days before a month are those before the month that precedes it and those of that month. -/
theorem daysBeforeMonth_succ (year months : Nat) :
    daysBeforeMonth year (months + 2) =
      daysBeforeMonth year (months + 1) + daysInMonth year (months + 1) := by
  simp only [daysBeforeMonth, Nat.add_sub_cancel]
  rw [Nat.add_succ_sub_one, List.range_succ, List.foldl_append]
  rfl

/-- The days of a year are those of its twelve months. -/
theorem daysBeforeMonth_thirteen (year : Nat) :
    daysBeforeMonth year 13 = if isLeapYear year then 366 else 365 := by
  change 0 + 31 + (if isLeapYear year then 29 else 28) + 31 + 30 + 31 + 30 + 31 + 31 + 30 + 31 +
    30 + 31 = if isLeapYear year then 366 else 365
  split <;> rfl

theorem isLeapYear_iff (year : Nat) :
    isLeapYear year = true ↔ 4 ∣ year ∧ (¬100 ∣ year ∨ 400 ∣ year) := by
  simp [isLeapYear, Nat.dvd_iff_mod_eq_zero]

/-- The days before a year are those before the year that precedes it and those of that year. -/
theorem daysBeforeYear_succ (years : Nat) :
    daysBeforeYear (years + 2) =
      daysBeforeYear (years + 1) + daysBeforeMonth (years + 1) 13 := by
  have centuries : years / 100 ≤ years / 4 := Nat.div_le_div_left (by decide) (by decide)
  rw [daysBeforeMonth_thirteen, daysBeforeYear, daysBeforeYear]
  simp only [Nat.add_sub_cancel, Nat.add_succ_sub_one, Nat.succ_div, isLeapYear_iff]
  -- A year that is divisible by four hundred is by a hundred, and one that is by a hundred is by
  -- four.
  by_cases byFour : 4 ∣ years + 1
  · by_cases byHundred : 100 ∣ years + 1
    · by_cases byFourHundred : 400 ∣ years + 1
      · simp only [byFour, byHundred, byFourHundred, if_true, not_true, or_true, and_self]
        omega
      · simp only [byFour, byHundred, byFourHundred, if_true, if_false, not_true, or_false,
          and_false]
        omega
    · have notByFourHundred : ¬400 ∣ years + 1 := fun divides =>
        byHundred ((by decide : 100 ∣ 400).trans divides)
      simp only [byFour, byHundred, notByFourHundred, if_true, if_false, not_false_eq_true, true_or,
        and_self]
      omega
  · have notByHundred : ¬100 ∣ years + 1 := fun divides =>
      byFour ((by decide : 4 ∣ 100).trans divides)
    have notByFourHundred : ¬400 ∣ years + 1 := fun divides =>
      byFour ((by decide : 4 ∣ 400).trans divides)
    simp only [byFour, notByHundred, notByFourHundred, if_false, false_and]
    omega

/-- Whether a date is earlier than another one. -/
def Precedes (a b : Date) : Prop :=
  a.ordinal < b.ordinal

/-- The years, months and days that are over when a date begins. -/
theorem exists_past (date : Date) :
    ∃ years months days,
      date.year = years + 1 ∧ date.month = months + 1 ∧ date.day = days + 1 ∧ months < 12 ∧
        days < daysInMonth (years + 1) (months + 1) ∧
        date.ordinal =
          daysBeforeYear (years + 1) + (daysBeforeMonth (years + 1) (months + 1) + days) + 1 := by
  obtain ⟨year, month, day, firstYear, _, firstMonth, lastMonth, firstDay, lastDay⟩ := date
  obtain ⟨years, rfl⟩ := Nat.exists_eq_add_of_le' firstYear
  obtain ⟨months, rfl⟩ := Nat.exists_eq_add_of_le' firstMonth
  obtain ⟨days, rfl⟩ := Nat.exists_eq_add_of_le' firstDay
  refine ⟨years, months, days, rfl, rfl, rfl, by omega, lastDay, ?_⟩
  dsimp only [ordinal]
  omega

/-- Days of a year are compared by their months, and then within the month. -/
theorem compare_months
    {year monthsA monthsB daysA daysB : Nat}
    (inMonthA : daysA < daysInMonth year (monthsA + 1))
    (inMonthB : daysB < daysInMonth year (monthsB + 1))
    (further : Prop) :
    daysBeforeMonth year (monthsA + 1) + daysA < daysBeforeMonth year (monthsB + 1) + daysB ∨
        daysBeforeMonth year (monthsA + 1) + daysA = daysBeforeMonth year (monthsB + 1) + daysB ∧
          further ↔
      monthsA < monthsB ∨ monthsA = monthsB ∧ (daysA < daysB ∨ daysA = daysB ∧ further) :=
  compare_stages (fun months => daysBeforeMonth year (months + 1))
    (fun months => daysInMonth year (months + 1))
    (fun months => Nat.le_of_eq (daysBeforeMonth_succ year months).symm) inMonthA inMonthB further

/-- The days of twelve months are those of a year. -/
theorem dayOfYear_lt
    {year months days : Nat}
    (inYear : months < 12)
    (inMonth : days < daysInMonth year (months + 1)) :
    daysBeforeMonth year (months + 1) + days < daysBeforeMonth year 13 := by
  have nextYear : 0 < daysInMonth year 13 := Nat.succ_pos 30
  have earlier := (compare_months inMonth nextYear False).mpr (.inl inYear)
  simp only [and_false, or_false] at earlier
  exact earlier

/-- Dates are compared by their years, then by their months and then by their days. -/
theorem compare_ordinal (a b : Date) (further : Prop) :
    a.ordinal < b.ordinal ∨ a.ordinal = b.ordinal ∧ further ↔
      a.year < b.year ∨ a.year = b.year ∧ (a.month < b.month ∨
        a.month = b.month ∧ (a.day < b.day ∨ a.day = b.day ∧ further)) := by
  obtain ⟨yearsA, monthsA, daysA, yearA, monthA, dayA, inYearA, inMonthA, ordinalA⟩ :=
    a.exists_past
  obtain ⟨yearsB, monthsB, daysB, yearB, monthB, dayB, inYearB, inMonthB, ordinalB⟩ :=
    b.exists_past
  have byYear := compare_stages (fun years => daysBeforeYear (years + 1))
    (fun years => daysBeforeMonth (years + 1) 13)
    (fun years => Nat.le_of_eq (daysBeforeYear_succ years).symm)
    (dayOfYear_lt inYearA inMonthA) (dayOfYear_lt inYearB inMonthB) further
  rw [ordinalA, ordinalB, Nat.add_lt_add_iff_right, Nat.add_right_cancel_iff, byYear, yearA, yearB,
    monthA, monthB, dayA, dayB]
  simp only [Nat.add_lt_add_iff_right, Nat.add_right_cancel_iff]
  apply or_congr_right
  apply and_congr_right
  rintro rfl
  exact compare_months inMonthA inMonthB further

/-- Texts that begin with dates are compared by the dates, and behind them when these are equal. -/
theorem isoText_append_lt_iff (a b : Date) (s t : List Char) :
    a.isoText ++ s < b.isoText ++ t ↔
      a.Precedes b ∨ a.ordinal = b.ordinal ∧ s < t := by
  have ⟨_, lastYearA, _, lastMonthA, _, lastDayA⟩ := a.isDay
  have ⟨_, lastYearB, _, lastMonthB, _, lastDayB⟩ := b.isDay
  have atMostA := daysInMonth_le a.year a.month
  have atMostB := daysInMonth_le b.year b.month
  rw [Precedes, compare_ordinal]
  simp only [isoText, List.append_assoc, List.cons_append]
  rw [padded_append_lt_iff (by decide) (by omega) (by omega), List.cons_lt_cons_self,
    padded_append_lt_iff (by decide) (by omega) (by omega), List.cons_lt_cons_self,
    padded_append_lt_iff (by decide) (by omega) (by omega)]

end Date

/-! ## Times of day -/

/-- Fractions of a second are compared by their size, also where one of them is left out, before
what begins with a character that precedes the point. -/
theorem fractionText_append_lt_iff
    {a b : Nat}
    {rest : List Char}
    (smallA : a < 1000000)
    (smallB : b < 1000000)
    (beforePoint : ∀ c ∈ rest.head?, c < '.') :
    fractionText a ++ rest < fractionText b ++ rest ↔ a < b := by
  have irrefl : ¬rest < rest := List.lt_irrefl rest
  have restLt : ∀ digits, rest < '.' :: digits := by
    intro digits
    cases rest with
    | nil => exact List.nil_lt_cons '.' digits
    | cons c rest => exact List.cons_lt_cons_iff.mpr (.inl (beforePoint c rfl))
  unfold fractionText
  split
  next wholeA =>
    rw [beq_iff_eq] at wholeA
    split
    next wholeB =>
      rw [beq_iff_eq] at wholeB
      apply iff_of_false irrefl
      omega
    next fractionB =>
      rw [beq_iff_eq] at fractionB
      apply iff_of_true (restLt _)
      omega
  next fractionA =>
    rw [beq_iff_eq] at fractionA
    split
    next wholeB =>
      rw [beq_iff_eq] at wholeB
      apply iff_of_false
      · exact List.lt_asymm (restLt _)
      · omega
    next fractionB =>
      rw [List.cons_append, List.cons_append, List.cons_lt_cons_self,
        padded_append_lt_iff (by decide) smallA smallB]
      simp only [irrefl, and_false, or_false]

namespace TimeOfDay

theorem microseconds_lt (time : TimeOfDay) : time.microseconds < microsecondsPerDay := by
  obtain ⟨lastHour, lastMinute, lastSecond, lastMicrosecond⟩ := time.inDay
  rw [microseconds, microsecondsPerDay]
  omega

/-- Texts of times of day are compared as times of day. -/
theorem isoText_append_lt_iff
    (a b : TimeOfDay)
    {rest : List Char}
    (beforePoint : ∀ c ∈ rest.head?, c < '.') :
    a.isoText ++ rest < b.isoText ++ rest ↔ a.microseconds < b.microseconds := by
  obtain ⟨lastHourA, lastMinuteA, lastSecondA, lastMicrosecondA⟩ := a.inDay
  obtain ⟨lastHourB, lastMinuteB, lastSecondB, lastMicrosecondB⟩ := b.inDay
  simp only [isoText, List.append_assoc, List.cons_append]
  rw [padded_append_lt_iff (by decide) (by omega) (by omega), List.cons_lt_cons_self,
    padded_append_lt_iff (by decide) (by omega) (by omega), List.cons_lt_cons_self,
    padded_append_lt_iff (by decide) (by omega) (by omega),
    fractionText_append_lt_iff lastMicrosecondA lastMicrosecondB beforePoint]
  rw [microseconds, microseconds]
  omega

end TimeOfDay

/-! ## Points in time -/

/-- The text of an offset begins with its sign, which precedes a point. -/
theorem UtcOffset.head_isoText (offset : UtcOffset) :
    ∀ c ∈ offset.isoText.head?, c < '.' := by
  have sign : (if offset.microseconds < 0 then '-' else '+') < '.' := by
    split <;> decide
  intro c first
  rw [isoText] at first
  split at first
  · cases first
    exact sign
  · cases first
    exact sign

namespace DateTime

/-- Whether a point in time is earlier than another one: by the clock when neither has an offset, by
universal time when both have one.  Other points in time are not compared. -/
def Precedes (a b : DateTime) : Prop :=
  match a.offset, b.offset with
  | none, none => a.clockMicroseconds < b.clockMicroseconds
  | some x, some y =>
      a.clockMicroseconds - x.microseconds < b.clockMicroseconds - y.microseconds
  | _, _ => False

/-- Under the same offset the clocks decide. -/
theorem precedes_iff {a b : DateTime} (sameOffset : a.offset = b.offset) :
    a.Precedes b ↔ a.clockMicroseconds < b.clockMicroseconds := by
  rw [Precedes, sameOffset]
  cases b.offset with
  | none => rfl
  | some offset => exact Int.sub_lt_sub_right_iff

/-- What the clocks show is compared by the date, and then by the time of day. -/
theorem clockMicroseconds_lt_iff (a b : DateTime) :
    a.clockMicroseconds < b.clockMicroseconds ↔
      a.date.Precedes b.date ∨
        a.date.ordinal = b.date.ordinal ∧ a.time.microseconds < b.time.microseconds := by
  have byDate := compare_stages (fun day => day * microsecondsPerDay)
    (fun _ => microsecondsPerDay) (fun day => Nat.le_of_eq (Nat.succ_mul day _).symm)
    (m := a.date.ordinal) (n := b.date.ordinal) a.time.microseconds_lt b.time.microseconds_lt False
  simp only [and_false, or_false] at byDate
  rw [clockMicroseconds, clockMicroseconds, Date.Precedes, ← byDate]
  exact_mod_cast Iff.rfl

/-- Texts of points in time with the same offset, or with none, are compared as points in time. -/
theorem isoText_lt_iff
    {a b : DateTime}
    (sameOffset : a.offset = b.offset)
    (separator : Char) :
    a.isoText separator < b.isoText separator ↔ a.Precedes b := by
  rw [precedes_iff sameOffset, clockMicroseconds_lt_iff]
  simp only [isoText, List.append_assoc, List.cons_append, sameOffset]
  rw [Date.isoText_append_lt_iff, List.cons_lt_cons_self, TimeOfDay.isoText_append_lt_iff]
  cases b.offset with
  | none =>
      intro c starts
      cases starts
  | some offset => exact offset.head_isoText

end DateTime

namespace Argument

/-- What is encoded for dates, and for points in time with the same offset or with none, is compared
as text exactly as these are in time. -/
theorem encode_lt_iff :
    (∀ a b : Date, ∃ s t, encode (.date a) = .ok (ofText .date s) ∧
        encode (.date b) = .ok (ofText .date t) ∧ (s < t ↔ a.Precedes b)) ∧
      ∀ a b : DateTime, a.offset = b.offset →
        ∃ s t, encode (.datetime a) = .ok (ofText .datetime s) ∧
          encode (.datetime b) = .ok (ofText .datetime t) ∧ (s < t ↔ a.Precedes b) := by
  constructor
  · intro a b
    refine ⟨_, _, rfl, rfl, ?_⟩
    have compared := a.isoText_append_lt_iff b [] []
    rw [List.append_nil, List.append_nil] at compared
    simp only [String.lt_iff, String.toList_ofList, compared, List.not_lt_nil, and_false,
      or_false]
  · intro a b sameOffset
    refine ⟨_, _, rfl, rfl, ?_⟩
    simp only [String.lt_iff, String.toList_ofList, DateTime.isoText_lt_iff sameOffset]

/-- A point in time whose clock is behind universal time. -/
def behindUniversal (microsecond : Nat) (small : microsecond < 1000000) : DateTime where
  date := ⟨2024, 2, 29, by decide⟩
  time := ⟨23, 59, 59, microsecond, by omega⟩
  offset := some ⟨-19800000000, by decide⟩

/-- With an offset, a whole second is compared with a fraction by the sign of the offset. -/
theorem encode_lt_iff_fraction :
    (behindUniversal 0 (by decide)).offset = (behindUniversal 1 (by decide)).offset ∧
      ∃ s t, encode (.datetime (behindUniversal 0 (by decide))) = .ok (ofText .datetime s) ∧
        encode (.datetime (behindUniversal 1 (by decide))) = .ok (ofText .datetime t) ∧ s < t := by
  have sameOffset :
      (behindUniversal 0 (by decide)).offset = (behindUniversal 1 (by decide)).offset := rfl
  have earlier : (behindUniversal 0 (by decide)).clockMicroseconds <
      (behindUniversal 1 (by decide)).clockMicroseconds := by
    decide +kernel
  obtain ⟨s, t, encodedS, encodedT, compared⟩ := encode_lt_iff.2 _ _ sameOffset
  have precedes := (DateTime.precedes_iff sameOffset).mpr earlier
  exact ⟨sameOffset, s, t, encodedS, encodedT, compared.mpr precedes⟩

end Argument
end BoundSql
