import BoundSql.Proofs.Number.Shortest

/-!
# The text of real numbers

A real number reads back from its text.  Digits may have the point before, among or
behind them, or an exponent behind them; each of the layouts denotes the decimal
that it was made from.
-/

namespace BoundSql
namespace Literal

/-- A text denotes a decimal when it is plainly written, starts with a digit and is read as the same
quantity. -/
structure Denotes (s : List Char) (coefficient : Nat) (exponent : Int) : Prop where
  numerals : ∀ c ∈ s, isNumeral c = true
  starts : ∃ first rest, s = first :: rest ∧ first.isDigit = true
  reads : ∀ negative, (decimal? s).map (fun decimal =>
      Binary64.ofDecimal negative decimal.1 decimal.2) =
    some (.ofDecimal negative coefficient exponent)

/-! ## Points and exponents -/

section Parts

variable {before after tail : List Char} {exponent : Int}

/-- Digits with a point among them, and what follows them. -/
theorem decimal?_pointed
    (nonempty : before ≠ [])
    (digitsBefore : ∀ c ∈ before, c.isDigit = true)
    (digitsAfter : ∀ c ∈ after, c.isDigit = true)
    (ends : ∀ c ∈ tail.head?, c.isDigit = false)
    (mark : exponent? tail = some exponent) :
    decimal? (before ++ '.' :: after ++ tail) =
      some (natural (before ++ after), exponent - after.length) := by
  have point : ∀ c ∈ ('.' :: after ++ tail).head?, c.isDigit = false := by
    intro c member
    cases member
    rfl
  have present : before.isEmpty = false := by simpa using nonempty
  rw [decimal?, List.append_assoc, Text.span_append digitsBefore point]
  simp only [List.cons_append, Text.span_append digitsAfter ends]
  simp [present, mark]

/-- Digits without a point, and what follows them. -/
theorem decimal?_whole
    (nonempty : before ≠ [])
    (digitsBefore : ∀ c ∈ before, c.isDigit = true)
    (ends : ∀ c ∈ tail.head?, c.isDigit = false)
    (noPoint : ∀ rest, tail ≠ '.' :: rest)
    (mark : exponent? tail = some exponent) :
    decimal? (before ++ tail) = some (natural before, exponent) := by
  have present : before.isEmpty = false := by simpa using nonempty
  rw [decimal?, Text.span_append digitsBefore ends]
  dsimp only
  split
  · exact absurd rfl (noPoint _)
  · simp [present, mark]

/-- Zeros before the digits of a number are digits too. -/
theorem isDigit_of_mem_padded
    {zeros n : Nat}
    {c : Char}
    (member : c ∈ List.replicate zeros '0' ++ Nat.toDigits 10 n) :
    c.isDigit = true := by
  obtain zero | digit := List.mem_append.mp member
  · rw [List.eq_of_mem_replicate zero]
    rfl
  · exact isDigit_of_mem_toDigits digit

/-- Zeros before the digits of a number do not change it. -/
theorem natural_padded (zeros n : Nat) :
    natural (List.replicate zeros '0' ++ Nat.toDigits 10 n) = n := by
  rw [natural_append, natural_zeros, natural_toDigits, Nat.mul_zero, Nat.zero_add]

/-- An exponent with its sign and zeros before it. -/
theorem exponent?_written
    (zeros : Nat)
    (written : Int) :
    exponent? ('e' :: (if written < 0 then '-' else '+') ::
      List.replicate zeros '0' ++ Nat.toDigits 10 written.natAbs) = some written := by
  have allDigits : ∀ c ∈ List.replicate zeros '0' ++ Nat.toDigits 10 written.natAbs,
      c.isDigit = true := fun _ => isDigit_of_mem_padded
  have nonempty : (List.replicate zeros '0' ++ Nat.toDigits 10 written.natAbs).isEmpty = false := by
    simp [Nat.toDigits_ne_nil]
  have value := natural_padded zeros written.natAbs
  by_cases negative : written < 0
  · have sign : -(written.natAbs : Int) = written := by omega
    rw [if_pos negative]
    simp only [List.cons_append, exponent?, takeSign, nonempty, List.all_eq_true.mpr allDigits,
      value, sign]
    rfl
  · have sign : (written.natAbs : Int) = written := by omega
    rw [if_neg negative]
    simp only [List.cons_append, exponent?, takeSign, nonempty, List.all_eq_true.mpr allDigits,
      value, sign]
    rfl

end Parts

/-! ## Layouts -/

/-- Digits around a point denote a decimal of the same quantity. -/
theorem denotes_pointed
    (before after : List Char)
    {coefficient : Nat}
    {exponent : Int}
    (nonempty : before ≠ [])
    (digitsBefore : ∀ c ∈ before, c.isDigit = true)
    (digitsAfter : ∀ c ∈ after, c.isDigit = true)
    (same : ∀ negative, Binary64.ofDecimal negative (natural (before ++ after)) (-after.length) =
      .ofDecimal negative coefficient exponent) :
    Denotes (before ++ '.' :: after) coefficient exponent := by
  have ends : ∀ c ∈ ([] : List Char).head?, c.isDigit = false := nofun
  have read := decimal?_pointed nonempty digitsBefore digitsAfter ends rfl
  rw [List.append_nil, Int.zero_sub] at read
  refine ⟨?_, ?_, fun negative => ?_⟩
  · intro c member
    obtain member | member := List.mem_append.mp member
    · exact isNumeral_of_isDigit (digitsBefore c member)
    · obtain rfl | member := List.mem_cons.mp member
      · rfl
      · exact isNumeral_of_isDigit (digitsAfter c member)
  · obtain ⟨first, rest, rfl⟩ := List.exists_cons_of_ne_nil nonempty
    exact ⟨first, _, rfl, digitsBefore first List.mem_cons_self⟩
  · rw [read, Option.map_some, same]

theorem ofDecimal_append_zeros
    (negative : Bool)
    (digits : List Char)
    (zeros : Nat)
    (exponent : Int) :
    Binary64.ofDecimal negative (natural (digits ++ List.replicate zeros '0')) exponent =
      .ofDecimal negative (natural digits) (exponent + zeros) := by
  rw [natural_append, natural_zeros, List.length_replicate, Nat.add_zero, Nat.mul_comm,
    Binary64.ofDecimal_mul_pow]

section Layouts

variable {digits : List Char}

/-- A positional layout is a point with digits on both sides, which denote the number of the digits
laid out with the point in its place. -/
theorem exists_positional
    (nonempty : digits ≠ [])
    (allDigits : ∀ c ∈ digits, c.isDigit = true)
    (place : Int) :
    ∃ before after, RealLayout.positional digits place = before ++ '.' :: after ∧
      before ≠ [] ∧ after ≠ [] ∧
      (∀ c ∈ before, c.isDigit = true) ∧ (∀ c ∈ after, c.isDigit = true) ∧
      ∀ negative, Binary64.ofDecimal negative (natural (before ++ after)) (-after.length) =
        .ofDecimal negative (natural digits) (place - digits.length) := by
  have zerosAreDigits : ∀ count, ∀ c ∈ List.replicate count '0', c.isDigit = true := by
    intro count c member
    rw [List.eq_of_mem_replicate member]
    rfl
  unfold RealLayout.positional
  split
  next before =>
      refine ⟨['0'], List.replicate (-place).toNat '0' ++ digits, rfl, List.cons_ne_nil _ _,
        by simp [nonempty], by simp, List.forall_mem_append.mpr ⟨zerosAreDigits _, allDigits⟩, ?_⟩
      intro negative
      have value : natural (['0'] ++ (List.replicate (-place).toNat '0' ++ digits)) =
          natural digits := by
        rw [List.singleton_append, natural_cons_zero, natural_append, natural_zeros, Nat.mul_zero,
          Nat.zero_add]
      have exponents : -((List.replicate (-place).toNat '0' ++ digits).length : Int) =
          place - digits.length := by
        rw [List.length_append, List.length_replicate]
        omega
      rw [value, exponents]
  split
  next behind =>
      refine ⟨digits ++ List.replicate (place.toNat - digits.length) '0', ['0'], rfl,
        by simp [nonempty], List.cons_ne_nil _ _,
        List.forall_mem_append.mpr ⟨allDigits, zerosAreDigits _⟩, by simp, ?_⟩
      intro negative
      have zeros : digits ++ List.replicate (place.toNat - digits.length) '0' ++ ['0'] =
          digits ++ List.replicate (place.toNat - digits.length + 1) '0' := by
        rw [List.replicate_succ', List.append_assoc]
      have exponents : -((['0'] : List Char).length : Int) +
          ((place.toNat - digits.length + 1 : Nat) : Int) = place - digits.length := by
        rw [List.length_singleton]
        omega
      rw [zeros, ofDecimal_append_zeros, exponents]
  next among =>
      have present : digits.take place.toNat ≠ [] := by
        simp only [Ne, List.take_eq_nil_iff, nonempty, or_false]
        omega
      have presentToo : digits.drop place.toNat ≠ [] := by
        rw [Ne, List.drop_eq_nil_iff]
        omega
      refine ⟨digits.take place.toNat, digits.drop place.toNat, rfl, present, presentToo,
        fun c member => allDigits c (List.mem_of_mem_take member),
        fun c member => allDigits c (List.mem_of_mem_drop member), ?_⟩
      intro negative
      have exponents : -((digits.drop place.toNat).length : Int) = place - digits.length := by
        rw [List.length_drop]
        omega
      rw [List.take_append_drop, exponents]

/-- Digits in a positional layout denote their number with the point in its place. -/
theorem denotes_positional
    (nonempty : digits ≠ [])
    (allDigits : ∀ c ∈ digits, c.isDigit = true)
    (place : Int) :
    Denotes (RealLayout.positional digits place) (natural digits)
      (place - digits.length) := by
  obtain ⟨before, after, text, some, _, digitsBefore, digitsAfter, same⟩ :=
    exists_positional nonempty allDigits place
  rw [text]
  exact denotes_pointed before after some digitsBefore digitsAfter same

/-- An exponent as it is written: its mark, its sign and at least two digits. -/
def writtenExponent (exponent : Int) : List Char :=
  'e' :: (if exponent < 0 then '-' else '+') ::
    List.replicate (2 - (Nat.toDigits 10 exponent.natAbs).length) '0' ++
      Nat.toDigits 10 exponent.natAbs

theorem scientific_singleton (first : Char) (exponent : Int) :
    RealLayout.scientific [first] exponent = [first] ++ writtenExponent exponent := by
  simp only [RealLayout.scientific, List.append_assoc]
  rfl

theorem scientific_cons_cons (first second : Char) (rest : List Char) (exponent : Int) :
    RealLayout.scientific (first :: second :: rest) exponent =
      [first] ++ '.' :: (second :: rest) ++ writtenExponent exponent := by
  simp only [RealLayout.scientific, List.append_assoc]
  rfl

theorem isNumeral_of_mem_writtenExponent
    {exponent : Int}
    {c : Char}
    (member : c ∈ writtenExponent exponent) :
    isNumeral c = true := by
  rw [writtenExponent, List.cons_append, List.cons_append] at member
  obtain rfl | member := List.mem_cons.mp member
  · rfl
  obtain rfl | member := List.mem_cons.mp member
  · split <;> rfl
  · exact isNumeral_of_isDigit (isDigit_of_mem_padded member)

/-- Digits in a layout with an exponent denote their number with the point behind the first
digit. -/
theorem denotes_scientific
    (nonempty : digits ≠ [])
    (allDigits : ∀ c ∈ digits, c.isDigit = true)
    (exponent : Int) :
    Denotes (RealLayout.scientific digits exponent) (natural digits)
      (exponent + 1 - digits.length) := by
  have mark : exponent? (writtenExponent exponent) = some exponent := exponent?_written _ exponent
  have ends : ∀ c ∈ (writtenExponent exponent).head?, c.isDigit = false := by
    intro c member
    cases member
    rfl
  have noPoint : ∀ rest, writtenExponent exponent ≠ '.' :: rest := by
    simp [writtenExponent]
  cases digits with
  | nil => exact absurd rfl nonempty
  | cons first others =>
      have digit := allDigits first List.mem_cons_self
      cases others with
      | nil =>
          have read := decimal?_whole nonempty allDigits ends noPoint mark
          have exponents : exponent + 1 - (([first] : List Char).length : Int) = exponent := by
            rw [List.length_singleton]
            omega
          rw [scientific_singleton, exponents]
          refine ⟨?_, ⟨first, writtenExponent exponent, rfl, digit⟩, fun negative => ?_⟩
          · intro c member
            obtain rfl | member := List.mem_cons.mp member
            · exact isNumeral_of_isDigit digit
            · exact isNumeral_of_mem_writtenExponent member
          · rw [read, Option.map_some]
      | cons second rest =>
          have digitsAfter : ∀ c ∈ second :: rest, c.isDigit = true := fun c member =>
            allDigits c (List.mem_cons_of_mem first member)
          have read := decimal?_pointed (List.cons_ne_nil first [])
            (by simp [digit]) digitsAfter ends mark
          have exponents : exponent + 1 - ((first :: second :: rest).length : Int) =
              exponent - ((second :: rest).length : Int) := by
            simp only [List.length_cons]
            omega
          rw [scientific_cons_cons, exponents]
          refine ⟨?_, ⟨first, _, rfl, digit⟩, fun negative => ?_⟩
          · intro c member
            obtain rfl | member := List.mem_cons.mp member
            · exact isNumeral_of_isDigit digit
            · obtain member | member := List.mem_append.mp member
              · obtain rfl | member := List.mem_cons.mp member
                · rfl
                · exact isNumeral_of_isDigit (digitsAfter c member)
              · exact isNumeral_of_mem_writtenExponent member
          · rw [read, Option.map_some]
            rfl

end Layouts

/-- The text of a decimal denotes it, whatever the layout. -/
theorem denotes_magnitude
    (layout : RealLayout)
    (decimal : DecimalDigits) :
    Denotes (layout.magnitude decimal) decimal.coefficient decimal.exponent := by
  let digits := Nat.toDigits 10 decimal.coefficient
  have nonempty : digits ≠ [] := Nat.toDigits_ne_nil
  have allDigits : ∀ c ∈ digits, c.isDigit = true := fun c member =>
    isDigit_of_mem_toDigits member
  have value : natural digits = decimal.coefficient := natural_toDigits decimal.coefficient
  unfold RealLayout.magnitude
  dsimp only
  split
  next near =>
      have denoted := denotes_positional nonempty allDigits (decimal.exponent + digits.length)
      rwa [value, Int.add_sub_cancel] at denoted
  next far =>
      have denoted := denotes_scientific nonempty allDigits
        (decimal.exponent + digits.length - 1)
      rwa [value, Int.sub_add_cancel, Int.add_sub_cancel] at denoted

/-! ## Reading -/

/-- Digits are no letters of any case. -/
theorem toLower_of_isDigit {c : Char} (digit : c.isDigit = true) : c.toLower = c :=
  (isAscii_of_isNumeral (isNumeral_of_isDigit digit)).of_checked
    (motive := fun c => c.isDigit = true → c.toLower = c) (by decide +kernel) digit

section Reading

variable {s : List Char} {coefficient : Nat} {exponent : Int}

/-- What starts with a digit is none of the names of numbers that are not finite. -/
theorem unsignedReal?_of_denotes
    (denoted : Denotes s coefficient exponent)
    (negative : Bool) :
    unsignedReal? negative s = some (.ofDecimal negative coefficient exponent) := by
  obtain ⟨first, rest, rfl, digit⟩ := denoted.starts
  have notName : ∀ name : String, name.toList.head?.any Char.isDigit = false →
      (String.ofList ((first :: rest).map (·.toLower)) == name) = false := by
    intro name noDigit
    rw [beq_eq_false_iff_ne]
    rintro rfl
    rw [String.toList_ofList, List.map_cons, List.head?_cons, Option.any_some,
      toLower_of_isDigit digit, digit] at noDigit
    contradiction
  have read := denoted.reads negative
  unfold unsignedReal?
  dsimp only
  rw [notName "inf" rfl, notName "infinity" rfl, notName "nan" rfl]
  exact read

/-- A text that denotes a decimal is read as the number nearest to it. -/
theorem real?_of_denotes
    (denoted : Denotes s coefficient exponent) :
    real? s = some (.ofDecimal false coefficient exponent) := by
  obtain ⟨first, rest, rfl, digit⟩ := denoted.starts
  rw [real?_of_isNumeral denoted.numerals, takeSign_of_isDigit digit]
  exact unsignedReal?_of_denotes denoted false

/-- A minus before it is the sign of the number. -/
theorem real?_minus_of_denotes
    (denoted : Denotes s coefficient exponent) :
    real? ('-' :: s) = some (.ofDecimal true coefficient exponent) := by
  have numerals : ∀ c ∈ '-' :: s, isNumeral c = true := by
    intro c member
    obtain rfl | member := List.mem_cons.mp member
    · rfl
    · exact denoted.numerals c member
  rw [real?_of_isNumeral numerals]
  exact unsignedReal?_of_denotes denoted true

end Reading

/-- Every double-precision number reads back from the text that is bound for it. -/
theorem real?_text
    (x : Binary64) :
    real? (RealLayout.bound.text x).toList = some x := by
  cases x with
  | nan => decide +kernel
  | infinite negative => cases negative <;> decide +kernel
  | finite negative magnitude =>
      have reads := (DecimalDigits.readsAs_iff _ _).mp (Magnitude.readsAs_shortest magnitude)
      have denoted := denotes_magnitude .bound magnitude.shortest
      cases negative with
      | false =>
          have text : (RealLayout.bound.text (.finite false magnitude)).toList =
              RealLayout.bound.magnitude magnitude.shortest :=
            String.toList_ofList
          rw [text, real?_of_denotes denoted, reads]
      | true =>
          have text : (RealLayout.bound.text (.finite true magnitude)).toList =
              '-' :: RealLayout.bound.magnitude magnitude.shortest := by
            simp [RealLayout.text, RealLayout.signed]
          rw [text, real?_minus_of_denotes denoted, Binary64.ofDecimal_of_magnitude true reads]

end Literal
end BoundSql
