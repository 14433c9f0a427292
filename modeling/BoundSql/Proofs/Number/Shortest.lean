import BoundSql.Number.Shortest
import BoundSql.Proofs.Number.Digits
import BoundSql.Proofs.Number.Rounding

/-!
# Reading back real numbers

The shortest decimal of a magnitude reads as the magnitude: the search only stops at
decimals that do, the exact expansion does, and dropping zeros keeps the quantity.
Its text is read as a decimal of the same quantity however it is laid out, so every
double-precision number reads back from its text.
-/

namespace BoundSql

/-! ## The shortest decimal -/

namespace Binary64

/-- A decimal that is rounded to a finite magnitude is rounded to it under either sign. -/
theorem ofDecimal_of_magnitude
    {coefficient : Nat}
    {exponent : Int}
    {magnitude : Magnitude}
    (negative : Bool)
    (reads : ofDecimal false coefficient exponent = .finite false magnitude) :
    ofDecimal negative coefficient exponent = .finite negative magnitude := by
  rw [ofDecimal_eq_ofFraction] at reads ⊢
  by_cases inside : Magnitude.nearestCode (coefficient * 10 ^ exponent.toNat)
      (10 ^ (-exponent).toNat) < magnitudeLimit
  · rw [ofFraction_of_lt inside] at reads ⊢
    cases reads
    rfl
  · rw [ofFraction_of_le (Nat.le_of_not_lt inside)] at reads
    contradiction

/-- The decimal expansion of a fraction by a power of two. -/
theorem ofDecimal_expansion
    (negative : Bool)
    (numerator power : Nat) :
    ofDecimal negative (numerator * 5 ^ power) (-(power : Int)) =
      ofFraction negative numerator (2 ^ power) := by
  have whole : (-(power : Int)).toNat = 0 := by omega
  have places : (-(-(power : Int))).toNat = power := by omega
  rw [ofDecimal_eq_ofFraction, whole, places, Nat.pow_zero, Nat.mul_one]
  apply ofFraction_congr negative (Nat.pow_pos (by decide)) (Nat.two_pow_pos power)
  rw [Nat.mul_assoc, ← Nat.mul_pow]

end Binary64

namespace DecimalDigits

theorem readsAs_iff
    (digits : DecimalDigits)
    (magnitude : Magnitude) :
    digits.readsAs magnitude = true ↔
      Binary64.ofDecimal false digits.coefficient digits.exponent = .finite false magnitude := by
  rw [readsAs, decide_eq_true_iff]

/-- Dropping zeros keeps what a decimal reads as. -/
theorem ofDecimal_dropZeros
    (fuel : Nat)
    (digits : DecimalDigits) :
    Binary64.ofDecimal false (dropZeros fuel digits).coefficient (dropZeros fuel digits).exponent =
      Binary64.ofDecimal false digits.coefficient digits.exponent := by
  induction fuel generalizing digits with
  | zero => rfl
  | succ fuel dropped =>
      unfold dropZeros
      split
      next zero =>
          simp only [Bool.and_eq_true, beq_iff_eq] at zero
          have whole : digits.coefficient = digits.coefficient / 10 * 10 ^ 1 := by omega
          rw [dropped]
          conv => rhs; rw [whole]
          exact (Binary64.ofDecimal_mul_pow false _ 1 _).symm
      next => rfl

theorem readsAs_normalize
    {digits : DecimalDigits}
    {magnitude : Magnitude}
    (reads : digits.readsAs magnitude = true) :
    digits.normalize.readsAs magnitude = true := by
  rw [readsAs_iff] at reads ⊢
  rw [normalize, ofDecimal_dropZeros, reads]

end DecimalDigits

namespace Magnitude

theorem ofFraction_units
    (magnitude : Magnitude) :
    Binary64.ofFraction false magnitude.units unitsPerOne = .finite false magnitude := by
  have code : nearestCode magnitude.units unitsPerOne = magnitude.val := by
    rw [units_eq_codeUnits]
    exact nearestCode_codeUnits magnitude.val
  have inside : nearestCode magnitude.units unitsPerOne < magnitudeLimit := code ▸ magnitude.isLt
  have same : (⟨nearestCode magnitude.units unitsPerOne, inside⟩ : Magnitude) = magnitude :=
    Fin.ext code
  rw [Binary64.ofFraction_of_lt inside, same]

/-- The exact expansion reads as the magnitude. -/
theorem readsAs_exactDigits
    (magnitude : Magnitude) :
    magnitude.exactDigits.readsAs magnitude = true := by
  rw [DecimalDigits.readsAs_iff, exactDigits, Nat.pow_eq, Binary64.ofDecimal_expansion,
    ← unitsPerOne_eq, ofFraction_units]

/-- The search stops at decimals that read as the magnitude only. -/
theorem readsAs_of_shortestHit?
    {magnitude : Magnitude}
    {digits : DecimalDigits}
    (hit : magnitude.shortestHit? = some digits) :
    digits.readsAs magnitude = true := by
  obtain ⟨places, _, found⟩ := List.exists_of_findSome?_eq_some hit
  exact List.find?_some (p := fun (hit : DecimalDigits) => hit.readsAs magnitude) found

/-- The shortest decimal reads as the magnitude. -/
theorem readsAs_shortest
    (magnitude : Magnitude) :
    magnitude.shortest.readsAs magnitude = true := by
  unfold shortest
  split
  next zero =>
      have same : magnitude = .zero := Fin.ext (beq_iff_eq.mp zero)
      rw [same]
      rfl
  next =>
      apply DecimalDigits.readsAs_normalize
      cases hit : magnitude.shortestHit? with
      | none => exact readsAs_exactDigits magnitude
      | some digits => exact readsAs_of_shortestHit? hit

end Magnitude
end BoundSql
