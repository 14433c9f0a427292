import BoundSql.Number.Literal
import BoundSql.Proofs.Text.Folding
import Mathlib.Algebra.Ring.Nat
import Mathlib.Data.List.TakeWhile

/-!
# Reading written numbers

Numbers that are written with the digits of ASCII, a point, an exponent mark and
signs read back without any of the freedoms that reading allows: nothing is
rewritten, trimmed or joined.  A whole number that is not too long reads back from
its text.
-/

namespace BoundSql
namespace Literal

/-! ## The number that digits denote -/

theorem natural_eq_ofDigitChars (digits : List Char) :
    natural digits = Nat.ofDigitChars 10 digits 0 := by
  rw [Nat.ofDigitChars_eq_foldl]
  rfl

@[simp] theorem natural_toDigits (n : Nat) : natural (Nat.toDigits 10 n) = n := by
  rw [natural_eq_ofDigitChars, Nat.ofDigitChars_ten_toDigits]

theorem natural_append (digits more : List Char) :
    natural (digits ++ more) = 10 ^ more.length * natural digits + natural more := by
  simp only [natural_eq_ofDigitChars, Nat.ofDigitChars_append]
  exact Nat.ofDigitChars_eq_ofDigitChars_zero

@[simp] theorem natural_zeros (count : Nat) : natural (List.replicate count '0') = 0 := by
  rw [natural_eq_ofDigitChars, Nat.ofDigitChars_replicate_zero, Nat.mul_zero]

theorem natural_cons_zero (digits : List Char) : natural ('0' :: digits) = natural digits := rfl

/-! ## Characters of written numbers -/

/-- Whether a character stands in written numbers: a digit of ASCII, a point, an exponent mark or a
sign. -/
def isNumeral (c : Char) : Bool :=
  c.isDigit || c == '.' || c == 'e' || c == '+' || c == '-'

theorem isNumeral_of_isDigit {c : Char} (digit : c.isDigit = true) : isNumeral c = true := by
  simp [isNumeral, digit]

theorem isAscii_of_isNumeral {c : Char} (numeral : isNumeral c = true) : Text.IsAscii c := by
  simp only [isNumeral, Bool.or_eq_true, beq_iff_eq, Char.isDigit_iff_toNat] at numeral
  obtain (((digit | rfl) | rfl) | rfl) | rfl := numeral
  · exact Nat.lt_of_le_of_lt digit.2 (by decide)
  all_goals decide

/-- Reading leaves the characters of written numbers as they are. -/
theorem plain_isBlank_of_isNumeral {c : Char} (numeral : isNumeral c = true) :
    plain [c] = [c] ∧ isBlank c = false ∧ (c == '_') = false :=
  (isAscii_of_isNumeral numeral).of_checked
    (motive := fun c => isNumeral c = true →
      plain [c] = [c] ∧ isBlank c = false ∧ (c == '_') = false)
    (by decide +kernel) numeral

variable {s : List Char}

theorem plain_of_isNumeral (numerals : ∀ c ∈ s, isNumeral c = true) : plain s = s := by
  induction s with
  | nil => rfl
  | cons c s restPlain =>
      have first := (plain_isBlank_of_isNumeral (numerals c List.mem_cons_self)).1
      have rest := restPlain fun d member => numerals d (List.mem_cons_of_mem c member)
      change plain [c] ++ plain s = c :: s
      rw [first, rest]
      rfl

theorem dropWhile_isBlank_of_isNumeral (numerals : ∀ c ∈ s, isNumeral c = true) :
    s.dropWhile isBlank = s := by
  cases s with
  | nil => rfl
  | cons c s =>
      have first := (plain_isBlank_of_isNumeral (numerals c List.mem_cons_self)).2.1
      rw [List.dropWhile_cons_of_neg (by simp [first])]

theorem trimBy_isBlank_of_isNumeral (numerals : ∀ c ∈ s, isNumeral c = true) :
    Text.trimBy isBlank s = s := by
  have reversed : ∀ c ∈ s.reverse, isNumeral c = true := fun c member =>
    numerals c (List.mem_reverse.mp member)
  rw [Text.trimBy, dropWhile_isBlank_of_isNumeral numerals, Text.dropTrailing,
    dropWhile_isBlank_of_isNumeral reversed, List.reverse_reverse]

theorem joinDigits?_of_isNumeral
    (afterDigit : Bool)
    (numerals : ∀ c ∈ s, isNumeral c = true) :
    joinDigits? afterDigit s = some s := by
  induction s generalizing afterDigit with
  | nil => rfl
  | cons c s restJoined =>
      have first := (plain_isBlank_of_isNumeral (numerals c List.mem_cons_self)).2.2
      have rest := restJoined c.isDigit fun d member => numerals d (List.mem_cons_of_mem c member)
      rw [joinDigits?.eq_def]
      split
      · contradiction
      · rename_i equal
        cases equal
        contradiction
      · rename_i equal
        cases equal
        simp [first, rest]

/-- Reading a real number that is plainly written takes off its sign and reads the rest. -/
theorem real?_of_isNumeral (numerals : ∀ c ∈ s, isNumeral c = true) :
    real? s = unsignedReal? (takeSign s).1 (takeSign s).2 := by
  rw [real?, plain_of_isNumeral numerals, trimBy_isBlank_of_isNumeral numerals,
    joinDigits?_of_isNumeral false numerals]
  rfl

theorem takeSign_of_ne {c : Char} (notPlus : c ≠ '+') (notMinus : c ≠ '-') :
    takeSign (c :: s) = (false, c :: s) := by
  unfold takeSign
  split
  · rename_i equal
    exact absurd (List.cons.inj equal).1 notMinus
  · rename_i equal
    exact absurd (List.cons.inj equal).1 notPlus
  · rfl

/-- There is no sign before a digit. -/
theorem takeSign_of_isDigit {c : Char} (digit : c.isDigit = true) :
    takeSign (c :: s) = (false, c :: s) := by
  apply takeSign_of_ne
  · rintro rfl
    contradiction
  · rintro rfl
    contradiction

theorem isDigit_of_mem_toDigits {n : Nat} {c : Char} (member : c ∈ Nat.toDigits 10 n) :
    c.isDigit = true :=
  Nat.isDigit_of_mem_toDigits (by decide) (by decide) member

/-! ## Whole numbers -/

/-- Digits alone are well separated. -/
theorem wellSeparated_of_isDigit
    (nonempty : s ≠ [])
    (allDigits : ∀ c ∈ s, c.isDigit = true) :
    wellSeparated s = true := by
  fun_induction wellSeparated s with
  | case1 => exact absurd rfl nonempty
  | case2 c => exact allDigits c List.mem_cons_self
  | case3 c rest _ =>
      have underscore := allDigits '_' (by simp)
      contradiction
  | case4 c rest notEmpty notUnderscore separated =>
      have first := allDigits c List.mem_cons_self
      have others := separated (fun empty => notEmpty empty) fun d member =>
        allDigits d (List.mem_cons_of_mem c member)
      rw [first, others]
      rfl

theorem toList_toString_int (i : Int) :
    (toString i).toList =
      if i < 0 then '-' :: Nat.toDigits 10 i.natAbs else Nat.toDigits 10 i.natAbs := by
  rw [Int.toString_eq_repr, Int.repr_eq_if]
  by_cases negative : i < 0
  · rw [if_neg (by omega), if_pos negative, show (-i).toNat = i.natAbs by omega]
    simp [Nat.repr_eq_ofList_toDigits]
  · rw [if_pos (by omega), if_neg negative, show i.toNat = i.natAbs by omega]
    simp [Nat.repr_eq_ofList_toDigits]

/-- Reading a whole number that is plainly written: a sign, and digits that are not too many. -/
theorem whole_of_takeSign
    {negative : Bool}
    {n : Nat}
    (numerals : ∀ c ∈ s, isNumeral c = true)
    (signed : takeSign s = (negative, Nat.toDigits 10 n))
    (short : (Nat.toDigits 10 n).length ≤ digitLimit) :
    whole s = .ok (if negative then -(n : Int) else n) := by
  have allDigits : ∀ c ∈ Nat.toDigits 10 n, c.isDigit = true := fun c member =>
    isDigit_of_mem_toDigits member
  have inRun : ∀ c ∈ Nat.toDigits 10 n, (c.isDigit || c == '_') = true := by
    intro c member
    rw [allDigits c member]
    rfl
  have run : (Nat.toDigits 10 n).span (fun c => c.isDigit || c == '_') =
      (Nat.toDigits 10 n, []) :=
    Text.span_of_forall inRun
  have separated : wellSeparated (Nat.toDigits 10 n) = true :=
    wellSeparated_of_isDigit Nat.toDigits_ne_nil allDigits
  have digits : (Nat.toDigits 10 n).filter Char.isDigit = Nat.toDigits 10 n :=
    List.filter_eq_self.mpr allDigits
  have limited : ¬digitLimit < (Nat.toDigits 10 n).length := by omega
  simp only [whole, plain_of_isNumeral numerals, dropWhile_isBlank_of_isNumeral numerals, signed,
    run, separated, digits, natural_toDigits]
  simp [limited]

/-- A whole number that is not too long reads back from its text. -/
theorem whole_toString
    {i : Int}
    (short : (Nat.toDigits 10 i.natAbs).length ≤ digitLimit) :
    whole (toString i).toList = .ok i := by
  have allDigits : ∀ c ∈ Nat.toDigits 10 i.natAbs, isNumeral c = true := fun c member =>
    isNumeral_of_isDigit (isDigit_of_mem_toDigits member)
  rw [toList_toString_int]
  by_cases negative : i < 0
  · have numerals : ∀ c ∈ '-' :: Nat.toDigits 10 i.natAbs, isNumeral c = true := by
      intro c member
      obtain rfl | member := List.mem_cons.mp member
      · rfl
      · exact allDigits c member
    have signed : takeSign ('-' :: Nat.toDigits 10 i.natAbs) =
        (true, Nat.toDigits 10 i.natAbs) := rfl
    rw [if_pos negative, whole_of_takeSign numerals signed short, if_pos rfl]
    congr 1
    omega
  · obtain ⟨first, rest, written⟩ := List.exists_cons_of_ne_nil
      (Nat.toDigits_ne_nil (b := 10) (n := i.natAbs))
    have unsigned : takeSign (Nat.toDigits 10 i.natAbs) = (false, Nat.toDigits 10 i.natAbs) := by
      rw [written]
      exact takeSign_of_isDigit (isDigit_of_mem_toDigits (written ▸ List.mem_cons_self))
    rw [if_neg negative, whole_of_takeSign allDigits unsigned short, if_neg Bool.false_ne_true]
    congr 1
    omega

end Literal
end BoundSql
