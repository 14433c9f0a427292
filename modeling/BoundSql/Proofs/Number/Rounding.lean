import BoundSql.Number.Binary64
import Mathlib.Tactic.Ring

/-!
# Rounding to the nearest magnitude

The magnitude found for a fraction is the nearest one among all codes, and the one
with the even code where another is equally near.  It depends on the quantity of the
fraction only, so a decimal may be written with any exponent, and a magnitude is
found again from its own units.
-/

namespace BoundSql
namespace Magnitude

/-! ## Quotients -/

/-- How far apart two numbers are. -/
def distance (a b : Nat) : Nat := (a - b) + (b - a)

section Quotient

variable {numerator denominator : Nat}

/-- A rounded quotient is at most half a denominator away, and even when it is just half. -/
theorem roundedQuotient_within
    (numerator : Nat)
    (positive : 0 < denominator) :
    2 * distance numerator (roundedQuotient numerator denominator * denominator) ≤ denominator ∧
      (2 * distance numerator (roundedQuotient numerator denominator * denominator) = denominator →
        roundedQuotient numerator denominator % 2 = 0) := by
  have split := Nat.div_add_mod numerator denominator
  have small := Nat.mod_lt numerator positive
  have above : (numerator / denominator + 1) * denominator =
      numerator / denominator * denominator + denominator := by ring
  rw [Nat.mul_comm] at split
  simp only [roundedQuotient, distance]
  split
  next up =>
      simp only [Bool.or_eq_true, Bool.and_eq_true, decide_eq_true_eq, beq_iff_eq] at up
      rw [above]
      omega
  next down =>
      simp only [Bool.or_eq_true, Bool.and_eq_true, decide_eq_true_eq, beq_iff_eq] at down
      omega

/-- Different multiples of a number are at least that number apart. -/
theorem le_distance_mul
    (denominator : Nat)
    {a b : Nat}
    (different : a ≠ b) :
    denominator ≤ distance (a * denominator) (b * denominator) := by
  obtain less | greater := Nat.lt_or_gt_of_ne different
  · have step := Nat.mul_le_mul_right denominator less
    rw [Nat.succ_mul] at step
    simp only [distance]
    omega
  · have step := Nat.mul_le_mul_right denominator greater
    rw [Nat.succ_mul] at step
    simp only [distance]
    omega

/-- No multiple of the denominator is nearer than the rounded quotient. -/
theorem roundedQuotient_closest
    (numerator : Nat)
    (positive : 0 < denominator)
    (other : Nat) :
    distance numerator (roundedQuotient numerator denominator * denominator) ≤
      distance numerator (other * denominator) := by
  have within := (roundedQuotient_within numerator positive).1
  by_cases same : other = roundedQuotient numerator denominator
  · rw [same]
  · have apart := le_distance_mul denominator same
    simp only [distance] at within apart ⊢
    omega

/-- A rounded quotient is even when another multiple is equally near. -/
theorem roundedQuotient_even
    (positive : 0 < denominator)
    {other : Nat}
    (different : other ≠ roundedQuotient numerator denominator)
    (tie : distance numerator (roundedQuotient numerator denominator * denominator) =
      distance numerator (other * denominator)) :
    roundedQuotient numerator denominator % 2 = 0 := by
  obtain ⟨within, even⟩ := roundedQuotient_within numerator positive
  have apart := le_distance_mul denominator different
  apply even
  simp only [distance] at within apart tie ⊢
  omega

theorem le_roundedQuotient
    {bound : Nat}
    (positive : 0 < denominator)
    (least : bound * denominator ≤ numerator) :
    bound ≤ roundedQuotient numerator denominator := by
  have below := (Nat.le_div_iff_mul_le positive).mpr least
  simp only [roundedQuotient]
  split <;> omega

theorem roundedQuotient_le
    {bound : Nat}
    (positive : 0 < denominator)
    (most : numerator < bound * denominator) :
    roundedQuotient numerator denominator ≤ bound := by
  have above := (Nat.div_lt_iff_lt_mul positive).mpr most
  simp only [roundedQuotient]
  split <;> omega

theorem roundedQuotient_mul
    {factor : Nat}
    (positive : 0 < factor) :
    roundedQuotient (numerator * factor) (denominator * factor) =
      roundedQuotient numerator denominator := by
  have rest : 2 * (numerator % denominator * factor) = 2 * (numerator % denominator) * factor := by
    ring
  have less : denominator * factor < 2 * (numerator % denominator) * factor ↔
      denominator < 2 * (numerator % denominator) :=
    Nat.mul_lt_mul_right positive
  have equal : 2 * (numerator % denominator) * factor = denominator * factor ↔
      2 * (numerator % denominator) = denominator :=
    Nat.mul_left_inj (Nat.pos_iff_ne_zero.mp positive)
  simp only [roundedQuotient, Nat.mul_div_mul_right _ _ positive, Nat.mul_mod_mul_right, rest, less,
    Bool.beq_eq_decide_eq, equal]

end Quotient

/-! ## Codes -/

/-- The exact value of a code, counted in units of the smallest magnitude.  The codes beyond the
finite ones go on in the same way. -/
def codeUnits (code : Nat) : Nat :=
  (code - (code / binadeSize - 1) * binadeSize) * 2 ^ (code / binadeSize - 1)

theorem units_eq_codeUnits (magnitude : Magnitude) :
    magnitude.units = codeUnits magnitude.val := rfl

theorem binadeSize_pos : 0 < binadeSize := by decide

theorem unitsPerOne_eq : unitsPerOne = 2 ^ smallestPower := by
  delta unitsPerOne
  rw [Nat.pow_eq]

theorem unitsPerOne_pos : 0 < unitsPerOne := by
  rw [unitsPerOne_eq]
  exact Nat.two_pow_pos smallestPower

/-- A code is a significand above the codes with smaller spacings. -/
theorem exists_significand
    (code : Nat) :
    ∃ significand spacing,
      code = significand + spacing * binadeSize ∧
        (spacing = 0 ∨ binadeSize ≤ significand) ∧ significand < 2 * binadeSize := by
  have split := Nat.div_add_mod' code binadeSize
  have small := Nat.mod_lt code binadeSize_pos
  by_cases least : code / binadeSize = 0
  · refine ⟨code, 0, by omega, Or.inl rfl, ?_⟩
    rw [least] at split
    omega
  · obtain ⟨spacing, same⟩ := Nat.exists_eq_succ_of_ne_zero least
    rw [same, Nat.succ_mul] at split
    exact ⟨binadeSize + code % binadeSize, spacing, by omega, Or.inr (by omega), by omega⟩

/-- The units of a significand at a spacing, which may reach up to the next one. -/
theorem codeUnits_significand
    {significand spacing : Nat}
    (large : spacing = 0 ∨ binadeSize ≤ significand)
    (small : significand ≤ 2 * binadeSize) :
    codeUnits (significand + spacing * binadeSize) = significand * 2 ^ spacing := by
  have place : (significand + spacing * binadeSize) / binadeSize =
      significand / binadeSize + spacing :=
    Nat.add_mul_div_right significand spacing binadeSize_pos
  obtain less | rfl := Nat.lt_or_eq_of_le small
  · have reach : significand / binadeSize + spacing - 1 = spacing := by
      have most : significand / binadeSize < 2 := Nat.div_lt_of_lt_mul (by omega)
      obtain rfl | least := large
      · omega
      · have atLeast := Nat.div_pos least binadeSize_pos
        omega
    rw [codeUnits, place, reach, Nat.add_sub_cancel]
  · have reach : 2 * binadeSize / binadeSize + spacing - 1 = spacing + 1 := by
      rw [Nat.mul_div_cancel _ binadeSize_pos]
      omega
    have rest : 2 * binadeSize + spacing * binadeSize - (spacing + 1) * binadeSize =
        binadeSize := by
      have above : (spacing + 1) * binadeSize = spacing * binadeSize + binadeSize := by ring
      omega
    rw [codeUnits, place, reach, rest]
    ring

theorem codeUnits_lt_succ
    (code : Nat) :
    codeUnits code < codeUnits (code + 1) := by
  obtain ⟨significand, spacing, rfl, large, small⟩ := exists_significand code
  have next : significand + spacing * binadeSize + 1 =
      significand + 1 + spacing * binadeSize := by
    omega
  rw [next, codeUnits_significand large (by omega),
    codeUnits_significand (by omega) (by omega), Nat.succ_mul]
  exact Nat.lt_add_of_pos_right (Nat.two_pow_pos spacing)

/-- Larger codes are larger magnitudes. -/
theorem codeUnits_strictMono : StrictMono codeUnits :=
  strictMono_nat_of_lt_succ codeUnits_lt_succ

/-- At a spacing, a code is on its grid or below all codes with that spacing. -/
theorem codeUnits_grid
    (spacing code : Nat) :
    (∃ count, codeUnits code = count * 2 ^ spacing) ∨
      spacing ≠ 0 ∧ codeUnits code < binadeSize * 2 ^ spacing := by
  obtain ⟨significand, own, rfl, large, small⟩ := exists_significand code
  rw [codeUnits_significand large (Nat.le_of_lt small)]
  by_cases coarser : spacing ≤ own
  · obtain ⟨finer, rfl⟩ := Nat.exists_eq_add_of_le coarser
    exact Or.inl ⟨significand * 2 ^ finer, by ring⟩
  · obtain ⟨finer, rfl⟩ := Nat.exists_eq_add_of_lt (Nat.lt_of_not_le coarser)
    refine Or.inr ⟨by omega, ?_⟩
    calc
      significand * 2 ^ own < 2 * binadeSize * 2 ^ own :=
        Nat.mul_lt_mul_of_pos_right small (Nat.two_pow_pos own)
      _ = binadeSize * 2 ^ (own + 1) * 1 := by ring
      _ ≤ binadeSize * 2 ^ (own + 1) * 2 ^ finer :=
        Nat.mul_le_mul_left _ (Nat.two_pow_pos finer)
      _ = binadeSize * 2 ^ (own + finer + 1) := by ring

/-! ## The code found for a fraction -/

section Fraction

variable {numerator denominator : Nat}

/-- The code that is found is a rounded quotient above the codes with smaller spacings. -/
theorem exists_nearestCode_eq
    (numerator : Nat)
    (positive : 0 < denominator) :
    ∃ spacing significand,
      significand = roundedQuotient (numerator * unitsPerOne) (denominator * 2 ^ spacing) ∧
        nearestCode numerator denominator = significand + spacing * binadeSize ∧
        (spacing ≠ 0 → binadeSize * (denominator * 2 ^ spacing) ≤ numerator * unitsPerOne) ∧
        (spacing = 0 ∨ binadeSize ≤ significand) ∧ significand ≤ 2 * binadeSize := by
  let spacing := Nat.log2 (numerator * unitsPerOne / denominator) - 52
  have gridPositive : 0 < denominator * 2 ^ spacing :=
    Nat.mul_pos positive (Nat.two_pow_pos spacing)
  have least : spacing ≠ 0 →
      binadeSize * (denominator * 2 ^ spacing) ≤ numerator * unitsPerOne := by
    intro coarse
    have nonzero : numerator * unitsPerOne / denominator ≠ 0 := by
      intro none
      simp [spacing, none] at coarse
    have reached : 2 ^ (52 + spacing) ≤ numerator * unitsPerOne / denominator := by
      rw [← Nat.le_log2 nonzero]
      omega
    calc
      binadeSize * (denominator * 2 ^ spacing) = 2 ^ (52 + spacing) * denominator := by
        rw [binadeSize, Nat.pow_eq]
        ring
      _ ≤ numerator * unitsPerOne := (Nat.le_div_iff_mul_le positive).mp reached
  have most : numerator * unitsPerOne < 2 * binadeSize * (denominator * 2 ^ spacing) := by
    have limited : numerator * unitsPerOne / denominator < 2 ^ (53 + spacing) := by
      apply Nat.lt_log2_self.trans_le
      apply Nat.pow_le_pow_right (by decide)
      omega
    calc
      numerator * unitsPerOne < 2 ^ (53 + spacing) * denominator :=
        (Nat.div_lt_iff_lt_mul positive).mp limited
      _ = 2 * binadeSize * (denominator * 2 ^ spacing) := by
        rw [binadeSize, Nat.pow_eq]
        ring
  refine ⟨spacing, _, rfl, rfl, least, ?_, ?_⟩
  · by_cases finest : spacing = 0
    · exact Or.inl finest
    · exact Or.inr (le_roundedQuotient gridPositive (least finest))
  · exact roundedQuotient_le gridPositive most

variable (numerator denominator) in
/-- A code is nearest to a fraction when no code is nearer, and even when another one is equally
near. -/
structure Nearest (code : Nat) : Prop where
  closest : ∀ other,
    distance (numerator * unitsPerOne) (codeUnits code * denominator) ≤
      distance (numerator * unitsPerOne) (codeUnits other * denominator)
  even_of_tie : ∀ other, other ≠ code →
    distance (numerator * unitsPerOne) (codeUnits code * denominator) =
      distance (numerator * unitsPerOne) (codeUnits other * denominator) →
    code % 2 = 0

/-- The code found for a fraction is the nearest one. -/
theorem nearest_nearestCode
    (numerator : Nat)
    (positive : 0 < denominator) :
    Nearest numerator denominator (nearestCode numerator denominator) := by
  obtain ⟨spacing, significand, rounded, found, least, large, small⟩ :=
    exists_nearestCode_eq numerator positive
  have gridPositive : 0 < denominator * 2 ^ spacing :=
    Nat.mul_pos positive (Nat.two_pow_pos spacing)
  have onGrid : ∀ count, count * 2 ^ spacing * denominator =
      count * (denominator * 2 ^ spacing) := fun count => by ring
  have closest := roundedQuotient_closest (numerator * unitsPerOne) gridPositive
  rw [← rounded] at closest
  have farther : ∀ other, spacing ≠ 0 → codeUnits other < binadeSize * 2 ^ spacing →
      distance (numerator * unitsPerOne) (significand * (denominator * 2 ^ spacing)) <
        distance (numerator * unitsPerOne) (codeUnits other * denominator) := by
    intro other coarse below
    have reached := least coarse
    have nearer := closest binadeSize
    have off := Nat.mul_lt_mul_of_pos_right below positive
    rw [onGrid] at off
    simp only [distance] at nearer ⊢
    omega
  rw [found]
  constructor
  · intro other
    rw [codeUnits_significand large small, onGrid]
    obtain ⟨count, units⟩ | ⟨coarse, below⟩ := codeUnits_grid spacing other
    · rw [units, onGrid]
      exact closest count
    · exact Nat.le_of_lt (farther other coarse below)
  · intro other different tie
    rw [codeUnits_significand large small, onGrid] at tie
    obtain ⟨count, units⟩ | ⟨coarse, below⟩ := codeUnits_grid spacing other
    · have distinct : count ≠ significand := by
        rintro rfl
        rw [← codeUnits_significand large small] at units
        exact different (codeUnits_strictMono.injective units)
      rw [units, onGrid, rounded] at tie
      have even := roundedQuotient_even gridPositive (rounded ▸ distinct) tie
      rw [← rounded] at even
      rw [binadeSize, Nat.pow_eq]
      omega
    · have strictly := farther other coarse below
      omega

/-- The code found depends on the quantity of the fraction only. -/
theorem nearestCode_congr
    {otherNumerator otherDenominator : Nat}
    (positive : 0 < denominator)
    (otherPositive : 0 < otherDenominator)
    (same : numerator * otherDenominator = otherNumerator * denominator) :
    nearestCode numerator denominator = nearestCode otherNumerator otherDenominator := by
  have expanded : ∀ numerator denominator factor, 0 < factor →
      nearestCode (numerator * factor) (denominator * factor) =
        nearestCode numerator denominator := by
    intro numerator denominator factor factorPositive
    have scaled : numerator * factor * unitsPerOne = numerator * unitsPerOne * factor := by ring
    have grid : ∀ spacing, denominator * factor * 2 ^ spacing =
        denominator * 2 ^ spacing * factor := fun spacing => by ring
    simp only [nearestCode, Nat.pow_eq, scaled, Nat.mul_div_mul_right _ _ factorPositive, grid,
      roundedQuotient_mul factorPositive]
  rw [← expanded numerator denominator otherDenominator otherPositive, same,
    Nat.mul_comm denominator, expanded otherNumerator otherDenominator denominator positive]

/-- A code is found from its own units. -/
theorem nearestCode_codeUnits
    (code : Nat) :
    nearestCode (codeUnits code) unitsPerOne = code := by
  have nearest := nearest_nearestCode (codeUnits code) unitsPerOne_pos
  have none := nearest.closest code
  have same : codeUnits (nearestCode (codeUnits code) unitsPerOne) * unitsPerOne =
      codeUnits code * unitsPerOne := by
    simp only [distance] at none
    omega
  exact codeUnits_strictMono.injective (Nat.eq_of_mul_eq_mul_right unitsPerOne_pos same)

/-- A fraction below half a unit is nearest to zero. -/
theorem nearestCode_eq_zero
    (small : 2 * (numerator * unitsPerOne) < denominator) :
    nearestCode numerator denominator = 0 := by
  have closest := (nearest_nearestCode numerator (Nat.zero_lt_of_lt small)).closest 0
  by_contra nonzero
  have atLeast := codeUnits_strictMono (Nat.pos_of_ne_zero nonzero)
  have off := Nat.mul_le_mul_right denominator atLeast
  have none : codeUnits 0 = 0 := rfl
  rw [none] at closest off
  simp only [distance] at closest
  omega

/-- A fraction of the size of the first code that is not finite is beyond the finite ones. -/
theorem magnitudeLimit_le_nearestCode
    (positive : 0 < denominator)
    (large : codeUnits magnitudeLimit * denominator ≤ numerator * unitsPerOne) :
    magnitudeLimit ≤ nearestCode numerator denominator := by
  have closest := (nearest_nearestCode numerator positive).closest magnitudeLimit
  by_contra finite
  have below := codeUnits_strictMono (Nat.lt_of_not_le finite)
  have off := Nat.mul_lt_mul_of_pos_right below positive
  simp only [distance] at closest
  omega

/-- The code found for a fraction is finite exactly below the middle between the last finite code
and the next one, which is the even one of the two. -/
theorem nearestCode_lt_magnitudeLimit_iff
    (positive : 0 < denominator) :
    nearestCode numerator denominator < magnitudeLimit ↔
      2 * (numerator * unitsPerOne) <
        codeUnits (magnitudeLimit - 1) * denominator + codeUnits magnitudeLimit * denominator := by
  have nearest := nearest_nearestCode numerator positive
  have least : 0 < magnitudeLimit := by decide
  have apart := Nat.mul_lt_mul_of_pos_right
    (codeUnits_strictMono (Nat.sub_one_lt_of_lt least)) positive
  constructor
  · intro inside
    have below := Nat.mul_le_mul_right denominator
      (codeUnits_strictMono.monotone (Nat.le_sub_one_of_lt inside))
    have closest := nearest.closest magnitudeLimit
    have tie := nearest.even_of_tie magnitudeLimit (Nat.ne_of_gt inside)
    by_contra beyond
    have last : nearestCode numerator denominator = magnitudeLimit - 1 := by
      by_contra smaller
      have strictly := Nat.mul_lt_mul_of_pos_right (codeUnits_strictMono
        (Nat.lt_of_le_of_ne (Nat.le_sub_one_of_lt inside) smaller)) positive
      simp only [distance] at closest
      omega
    have odd : (magnitudeLimit - 1) % 2 = 1 := by decide
    rw [last] at closest tie
    simp only [distance] at closest tie
    omega
  · intro small
    by_contra outside
    have above := Nat.mul_le_mul_right denominator
      (codeUnits_strictMono.monotone (Nat.le_of_not_lt outside))
    have closest := nearest.closest (magnitudeLimit - 1)
    simp only [distance] at closest
    omega

end Fraction

end Magnitude

namespace Binary64

/-! ## Decimals -/

/-- Rounding of fractions as an equation of functions.  At arguments the equation would be checked
by computing the code. -/
theorem ofFraction_eq :
    ofFraction = fun negative numerator denominator =>
      match Magnitude.nearest? numerator denominator with
      | some magnitude => .finite negative magnitude
      | none => .infinite negative := by
  delta ofFraction
  rfl

theorem ofFraction_of_lt
    {numerator denominator : Nat}
    {negative : Bool}
    (inside : Magnitude.nearestCode numerator denominator < magnitudeLimit) :
    ofFraction negative numerator denominator =
      .finite negative ⟨Magnitude.nearestCode numerator denominator, inside⟩ := by
  have found : Magnitude.nearest? numerator denominator =
      some ⟨Magnitude.nearestCode numerator denominator, inside⟩ := by
    unfold Magnitude.nearest?
    dsimp only
    rw [dif_pos inside]
  rw [ofFraction_eq]
  dsimp only
  rw [found]

theorem ofFraction_of_le
    {numerator denominator : Nat}
    {negative : Bool}
    (beyond : magnitudeLimit ≤ Magnitude.nearestCode numerator denominator) :
    ofFraction negative numerator denominator = .infinite negative := by
  have missing : Magnitude.nearest? numerator denominator = none := by
    unfold Magnitude.nearest?
    dsimp only
    rw [dif_neg (Nat.not_lt.mpr beyond)]
  rw [ofFraction_eq]
  dsimp only
  rw [missing]

/-- A fraction whose nearest code is zero is rounded to zero. -/
theorem ofFraction_of_eq_zero
    {numerator denominator : Nat}
    {negative : Bool}
    (none : Magnitude.nearestCode numerator denominator = 0) :
    ofFraction negative numerator denominator = .finite negative .zero := by
  have inside : Magnitude.nearestCode numerator denominator < magnitudeLimit := by
    rw [none]
    decide
  have zero : (⟨Magnitude.nearestCode numerator denominator, inside⟩ : Magnitude) =
      Magnitude.zero :=
    Fin.ext none
  rw [ofFraction_of_lt inside, zero]

theorem ofFraction_congr
    {numerator denominator otherNumerator otherDenominator : Nat}
    (negative : Bool)
    (positive : 0 < denominator)
    (otherPositive : 0 < otherDenominator)
    (same : numerator * otherDenominator = otherNumerator * denominator) :
    ofFraction negative numerator denominator =
      ofFraction negative otherNumerator otherDenominator := by
  have codes := Magnitude.nearestCode_congr positive otherPositive same
  by_cases inside : Magnitude.nearestCode numerator denominator < magnitudeLimit
  · have otherInside := codes ▸ inside
    have magnitudes : (⟨Magnitude.nearestCode numerator denominator, inside⟩ : Magnitude) =
        ⟨Magnitude.nearestCode otherNumerator otherDenominator, otherInside⟩ :=
      Fin.ext codes
    rw [ofFraction_of_lt inside, ofFraction_of_lt otherInside, magnitudes]
  · have beyond := Nat.le_of_not_lt inside
    rw [ofFraction_of_le beyond, ofFraction_of_le (codes ▸ beyond)]

theorem two_mul_unitsPerOne_le : 2 * unitsPerOne ≤ 10 ^ (decimalReach + 1) := by
  decide +kernel

theorem units_magnitudeLimit_le :
    Magnitude.codeUnits magnitudeLimit ≤ 10 ^ (decimalReach + 1) * unitsPerOne := by
  decide +kernel

/-- The least magnitude of the whole numbers whose nearest number is not finite. -/
def wholeLimit : Nat := 2 ^ 1024 - 2 ^ 970

theorem units_around_magnitudeLimit :
    Magnitude.codeUnits (magnitudeLimit - 1) + Magnitude.codeUnits magnitudeLimit =
      2 * unitsPerOne * wholeLimit := by
  decide +kernel

/-- The number nearest to a whole number is finite exactly below the limit. -/
theorem isFinite_ofInt_iff (i : Int) : (ofInt i).isFinite = true ↔ i.natAbs < wholeLimit := by
  have scaled : 2 * (i.natAbs * unitsPerOne) = 2 * unitsPerOne * i.natAbs := by ring
  have inside := @Magnitude.nearestCode_lt_magnitudeLimit_iff i.natAbs 1 Nat.one_pos
  rw [Nat.mul_one, Nat.mul_one, units_around_magnitudeLimit, scaled] at inside
  have cancelled := Nat.mul_lt_mul_left (b := i.natAbs) (c := wholeLimit)
    (Nat.mul_pos two_pos Magnitude.unitsPerOne_pos)
  rw [← cancelled, ← inside, ofInt]
  by_cases finite : Magnitude.nearestCode i.natAbs 1 < magnitudeLimit
  · rw [ofFraction_of_lt finite]
    exact iff_of_true rfl finite
  · rw [ofFraction_of_le (Nat.le_of_not_lt finite)]
    exact iff_of_false nofun finite

/-- A decimal with an exponent beyond reach is beyond the finite magnitudes. -/
theorem ofFraction_of_reach_lt
    {coefficient : Nat}
    {exponent : Int}
    (negative : Bool)
    (nonzero : 0 < coefficient)
    (large : (decimalReach : Int) < exponent) :
    ofFraction negative (coefficient * 10 ^ exponent.toNat) (10 ^ (-exponent).toNat) =
      .infinite negative := by
  have unit : (-exponent).toNat = 0 := by omega
  have reached : 10 ^ (decimalReach + 1) ≤ 10 ^ exponent.toNat :=
    Nat.pow_le_pow_right (by decide) (by omega)
  refine ofFraction_of_le (Magnitude.magnitudeLimit_le_nearestCode (Nat.pow_pos (by decide)) ?_)
  rw [unit, Nat.pow_zero, Nat.mul_one]
  calc
    Magnitude.codeUnits magnitudeLimit ≤ 10 ^ (decimalReach + 1) * unitsPerOne :=
      units_magnitudeLimit_le
    _ ≤ 10 ^ exponent.toNat * unitsPerOne := Nat.mul_le_mul_right unitsPerOne reached
    _ ≤ coefficient * 10 ^ exponent.toNat * unitsPerOne :=
      Nat.mul_le_mul_right unitsPerOne (Nat.le_mul_of_pos_left _ nonzero)

/-- A decimal whose first digit is out of reach behind the point is nearest to zero. -/
theorem ofFraction_of_lt_reach
    {coefficient : Nat}
    {exponent : Int}
    (negative : Bool)
    (small : exponent + (Nat.toDigits 10 coefficient).length < -(decimalReach : Int)) :
    ofFraction negative (coefficient * 10 ^ exponent.toNat) (10 ^ (-exponent).toNat) =
      .finite negative .zero := by
  have unit : exponent.toNat = 0 := by omega
  have limited : coefficient < 10 ^ (Nat.toDigits 10 coefficient).length :=
    (Nat.length_toDigits_le_iff (by decide) Nat.length_toDigits_pos).mp (Nat.le_refl _)
  refine ofFraction_of_eq_zero (Magnitude.nearestCode_eq_zero ?_)
  rw [unit, Nat.pow_zero, Nat.mul_one]
  calc
    2 * (coefficient * unitsPerOne) = coefficient * (2 * unitsPerOne) := by ring
    _ ≤ coefficient * 10 ^ (decimalReach + 1) := Nat.mul_le_mul_left _ two_mul_unitsPerOne_le
    _ < 10 ^ (Nat.toDigits 10 coefficient).length * 10 ^ (decimalReach + 1) :=
      Nat.mul_lt_mul_of_pos_right limited (Nat.pow_pos (by decide))
    _ = 10 ^ ((Nat.toDigits 10 coefficient).length + (decimalReach + 1)) :=
      (Nat.pow_add 10 _ _).symm
    _ ≤ 10 ^ (-exponent).toNat := Nat.pow_le_pow_right (by decide) (by omega)

/-- The number nearest to a decimal is the one nearest to the fraction it denotes, also where the
exponent is out of reach. -/
theorem ofDecimal_eq_ofFraction
    (negative : Bool)
    (coefficient : Nat)
    (exponent : Int) :
    ofDecimal negative coefficient exponent =
      ofFraction negative (coefficient * 10 ^ exponent.toNat) (10 ^ (-exponent).toNat) := by
  unfold ofDecimal
  split
  next zero =>
      rw [beq_iff_eq] at zero
      refine (ofFraction_of_eq_zero (Magnitude.nearestCode_eq_zero ?_)).symm
      rw [zero]
      simp
  next notZero =>
      have nonzero : 0 < coefficient := by simpa [Nat.pos_iff_ne_zero] using notZero
      split
      next large => rw [ofFraction_of_reach_lt negative nonzero large]
      split
      next small => rw [ofFraction_of_lt_reach negative small]
      split
      next whole =>
          have unit : (-exponent).toNat = 0 := by omega
          rw [unit]
          rfl
      next fractional =>
          have unit : exponent.toNat = 0 := by omega
          rw [unit, Nat.pow_zero, Nat.mul_one, Nat.pow_eq]

/-- A number is nearest to a decimal when its magnitude has the code nearest to the fraction that
the decimal denotes, or when it is infinite and that code is beyond the finite ones. -/
inductive IsNearest (negative : Bool) (coefficient : Nat) (exponent : Int) : Binary64 → Prop
  | finite
      (magnitude : Magnitude)
      (nearest : Magnitude.Nearest (coefficient * 10 ^ exponent.toNat) (10 ^ (-exponent).toNat)
        magnitude.val) :
      IsNearest negative coefficient exponent (.finite negative magnitude)
  | infinite
      (code : Nat)
      (beyond : magnitudeLimit ≤ code)
      (nearest : Magnitude.Nearest (coefficient * 10 ^ exponent.toNat) (10 ^ (-exponent).toNat)
        code) :
      IsNearest negative coefficient exponent (.infinite negative)

/-- Decimals are rounded to the nearest number. -/
theorem isNearest_ofDecimal
    (negative : Bool)
    (coefficient : Nat)
    (exponent : Int) :
    IsNearest negative coefficient exponent (ofDecimal negative coefficient exponent) := by
  have positive : 0 < 10 ^ (-exponent).toNat := Nat.pow_pos (by decide)
  have nearest := Magnitude.nearest_nearestCode (coefficient * 10 ^ exponent.toNat) positive
  rw [ofDecimal_eq_ofFraction]
  by_cases inside : Magnitude.nearestCode (coefficient * 10 ^ exponent.toNat)
      (10 ^ (-exponent).toNat) < magnitudeLimit
  · rw [ofFraction_of_lt inside]
    exact .finite _ nearest
  · have beyond := Nat.le_of_not_lt inside
    rw [ofFraction_of_le beyond]
    exact .infinite _ beyond nearest

/-- A decimal may be written with another exponent. -/
theorem ofDecimal_mul_pow
    (negative : Bool)
    (coefficient places : Nat)
    (exponent : Int) :
    ofDecimal negative (coefficient * 10 ^ places) exponent =
      ofDecimal negative coefficient (exponent + places) := by
  rw [ofDecimal_eq_ofFraction, ofDecimal_eq_ofFraction]
  apply ofFraction_congr negative (Nat.pow_pos (by decide)) (Nat.pow_pos (by decide))
  have powers : places + exponent.toNat + (-(exponent + places)).toNat =
      (exponent + places).toNat + (-exponent).toNat := by
    omega
  calc
    coefficient * 10 ^ places * 10 ^ exponent.toNat * 10 ^ (-(exponent + places)).toNat =
        coefficient * 10 ^ (places + exponent.toNat + (-(exponent + places)).toNat) := by ring
    _ = coefficient * 10 ^ (exponent + places).toNat * 10 ^ (-exponent).toNat := by
      rw [powers]
      ring

end Binary64
end BoundSql
