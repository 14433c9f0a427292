import BoundSql.Proofs.Argument.Encoding

/-!
# Values that are written

A value is at most one of a whole number, a real number and a text.  The texts and the
real numbers are always written.  A whole number is written when it has few enough digits,
and whatever has a literal has a display too.
-/

namespace BoundSql
namespace Value

variable {value : Value}

theorem hasLiteral_of_text? {s : String} (isText : value.text? = some s) :
    value.hasLiteral = true := by
  fun_induction text? value with
  | case1 | case2 => rfl
  | case3 e name payload carriesText written =>
      rw [hasLiteral]
      exact written isText
  | case4 | case5 => cases isText

theorem text?_of_not_hasLiteral (unwritten : value.hasLiteral = false) : value.text? = none := by
  cases isText : value.text? with
  | none => rfl
  | some s =>
      rw [hasLiteral_of_text? isText] at unwritten
      cases unwritten

theorem hasDisplay_of_hasLiteral (written : value.hasLiteral = true) :
    value.hasDisplay = true := by
  fun_induction hasDisplay value with
  | case1 e name payload displayed =>
      rw [hasLiteral] at written
      rw [displayed written, Bool.or_true]
  | case2 => exact written

theorem hasLiteral_of_float? {x : Binary64} (isReal : value.float? = some x) :
    value.hasLiteral = true := by
  fun_induction float? value with
  | case1 => rfl
  | case2 e name payload carriesReal written =>
      rw [hasLiteral]
      exact written isReal
  | case3 | case4 => cases isReal

/-- A whole number is neither a real number nor a text. -/
theorem none_of_int? {i : Int} (isWhole : value.int? = some i) :
    value.float? = none ∧ value.text? = none := by
  cases value with
  | int | bool => exact ⟨rfl, rfl⟩
  | member e name payload =>
      rw [int?] at isWhole
      split at isWhole
      · rename_i carries
        rw [beq_iff_eq] at carries
        rw [float?, text?, carries]
        exact ⟨rfl, rfl⟩
      · cases isWhole
  | _ => cases isWhole

/-- A real number is neither a whole number nor a text. -/
theorem none_of_float? {x : Binary64} (isReal : value.float? = some x) :
    value.int? = none ∧ value.text? = none := by
  cases value with
  | float => exact ⟨rfl, rfl⟩
  | member e name payload =>
      rw [float?] at isReal
      split at isReal
      · rename_i carries
        rw [beq_iff_eq] at carries
        rw [int?, text?, carries]
        exact ⟨rfl, rfl⟩
      · cases isReal
  | _ => cases isReal

/-- A number is no text. -/
theorem text?_of_number (isNumber : value.int?.isSome ∨ value.float?.isSome) :
    value.text? = none := by
  rcases isNumber with isWhole | isReal
  · obtain ⟨i, whole⟩ := Option.isSome_iff_exists.mp isWhole
    exact (none_of_int? whole).2
  · obtain ⟨x, real⟩ := Option.isSome_iff_exists.mp isReal
    exact (none_of_float? real).2

/-- A text counts as true unless it is empty. -/
theorem truthy_of_text? {s : String} (isText : value.text? = some s) (nonempty : s ≠ "") :
    value.truthy = true := by
  fun_induction text? value with
  | case1 s' =>
      cases isText
      exact bne_iff_ne.mpr nonempty
  | case2 => rfl
  | case3 e name payload carriesText counts =>
      rw [truthy, counts isText, Bool.or_true]
  | case4 | case5 => cases isText

end Value
end BoundSql
