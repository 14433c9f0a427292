import BoundSql.Model.Schema
import BoundSql.Proofs.Number.RealText

/-!
# Literals of SQL

The literals of texts and of numbers, as they stand in SQL text.  A text stands between
single quotes, and a quote inside it is written twice.  A number has an optional sign, digits,
an optional fraction and an optional exponent.

A scanner of texts finds the end of a literal from its first character on, whatever follows
it, unless that is one more quote.  The literal of a text is read back as the text.
-/

namespace BoundSql
namespace SqlLiteral

/-! ## Texts -/

/-- Read the content of a literal behind its first quote, and what follows the literal.  Two quotes
in a row are one of the content, and any other quote ends it. -/
def scanContent? : List Char → Option (List Char × List Char)
  | [] => none
  | [c] => if c = Text.apostrophe then some ([], []) else none
  | c :: next :: rest =>
      if c = Text.apostrophe then
        if next = Text.apostrophe then
          (scanContent? rest).map fun (content, after) => (c :: content, after)
        else
          some ([], next :: rest)
      else
        (scanContent? (next :: rest)).map fun (content, after) => (c :: content, after)

/-- Read a literal of a text, which begins with a quote: its content, and what follows it. -/
def scan? : List Char → Option (List Char × List Char)
  | [] => none
  | c :: rest => if c = Text.apostrophe then scanContent? rest else none

/-- Whether a text begins with a quote. -/
def StartsQuoted (s : List Char) : Prop :=
  s.head? = some Text.apostrophe

instance (s : List Char) : Decidable (StartsQuoted s) :=
  inferInstanceAs (Decidable (s.head? = some Text.apostrophe))

/-- How a character stands in a literal. -/
def doubled (c : Char) : List Char :=
  if c == Text.apostrophe then [Text.apostrophe, Text.apostrophe] else [c]

theorem toList_sqlQuoted (s : String) :
    (Column.sqlQuoted s).toList =
      Text.apostrophe :: s.toList.flatMap doubled ++ [Text.apostrophe] :=
  String.toList_ofList

/-- A quote that no other one follows ends a literal. -/
theorem scanContent?_end {rest : List Char} (ends : ¬StartsQuoted rest) :
    scanContent? (Text.apostrophe :: rest) = some ([], rest) := by
  cases rest with
  | nil => rfl
  | cons next rest =>
      have other : next ≠ Text.apostrophe := fun same => ends (same ▸ rfl)
      rw [scanContent?, if_pos rfl, if_neg other]

/-- What stands for a character of a text is read as the character. -/
theorem scanContent?_doubled {rest : List Char} (c : Char) (nonempty : rest ≠ []) :
    scanContent? (doubled c ++ rest) =
      (scanContent? rest).map fun (content, after) => (c :: content, after) := by
  unfold doubled
  by_cases quote : c = Text.apostrophe
  · rw [if_pos (beq_iff_eq.mpr quote), quote, List.cons_append, List.singleton_append, scanContent?,
      if_pos rfl, if_pos rfl]
  · obtain ⟨next, rest, rfl⟩ := List.exists_cons_of_ne_nil nonempty
    rw [if_neg (by simpa using quote), List.singleton_append, scanContent?, if_neg quote]

/-- Quotes that are doubled do not end a literal, and are read back. -/
theorem scanContent?_flatMap
    {rest : List Char}
    (content : List Char)
    (ends : ¬StartsQuoted rest) :
    scanContent? (content.flatMap doubled ++ Text.apostrophe :: rest) = some (content, rest) := by
  -- Each step reads what stands for one character, so quotes next to each other are never split.
  induction content with
  | nil => exact scanContent?_end ends
  | cons c content read =>
      have nonempty : content.flatMap doubled ++ Text.apostrophe :: rest ≠ [] := by simp
      rw [List.flatMap_cons, List.append_assoc, scanContent?_doubled c nonempty, read]
      rfl

/-- The literal of a text is read as the text, whatever follows it but a quote. -/
theorem scan?_sqlQuoted
    {rest : List Char}
    (s : String)
    (ends : ¬StartsQuoted rest) :
    scan? ((Column.sqlQuoted s).toList ++ rest) = some (s.toList, rest) := by
  rw [toList_sqlQuoted, List.cons_append, List.cons_append, scan?, if_pos rfl, List.append_assoc,
    List.singleton_append, scanContent?_flatMap s.toList ends]

/-! ## Numbers -/

/-- Whether a text is a run of digits. -/
def AreDigits (s : List Char) : Prop :=
  s ≠ [] ∧ ∀ c ∈ s, c.isDigit = true

/-- The signs in front of a number, with whether they are a minus. -/
inductive Sign : List Char → Bool → Prop
  | none : Sign [] false
  | plus : Sign ['+'] false
  | minus : Sign ['-'] true

/-- The fractions of a number, with their digits. -/
inductive Fraction : List Char → List Char → Prop
  | none : Fraction [] []
  | pointed {digits : List Char} : AreDigits digits → Fraction ('.' :: digits) digits

/-- The exponents of a number, with the power of ten that they stand for. -/
inductive Exponent : List Char → Int → Prop
  | none : Exponent [] 0
  | marked {mark : Char} {sign digits : List Char} {negative : Bool} :
      mark = 'e' ∨ mark = 'E' → Sign sign negative → AreDigits digits →
      Exponent (mark :: sign ++ digits)
        (if negative then -(Literal.natural digits : Int) else Literal.natural digits)

/-- The literals of numbers: an optional sign, digits, an optional fraction and an optional
exponent.  A literal denotes the number that all its digits make, times a power of ten. -/
inductive Numeric : List Char → Bool → Nat → Int → Prop
  | parts {sign whole fraction digits mark : List Char} {negative : Bool} {exponent : Int} :
      Sign sign negative → AreDigits whole → Fraction fraction digits → Exponent mark exponent →
      Numeric (sign ++ whole ++ fraction ++ mark) negative (Literal.natural (whole ++ digits))
        (exponent - digits.length)

/-- Whether a sign, a coefficient and an exponent denote exactly a whole number. -/
def IsExactly (negative : Bool) (coefficient : Nat) (exponent i : Int) : Prop :=
  (if negative then -(coefficient : Int) else coefficient) * 10 ^ exponent.toNat =
    i * 10 ^ (-exponent).toNat

theorem isExactly_zero
    {negative : Bool}
    {coefficient : Nat}
    {i : Int}
    (value : (if negative then -(coefficient : Int) else coefficient) = i) :
    IsExactly negative coefficient 0 i := by
  rw [IsExactly, value]
  rfl

/-- Behind the sign, if there is one, literals of numbers begin with a digit. -/
theorem Numeric.exists_digit
    {s : List Char}
    {negative : Bool}
    {coefficient : Nat}
    {exponent : Int}
    (literal : Numeric s negative coefficient exponent) :
    ∃ first rest, (Literal.takeSign s).2 = first :: rest ∧ first.isDigit = true := by
  cases literal with
  | @parts _ whole _ _ _ _ _ sign areDigits =>
      obtain ⟨nonempty, allDigits⟩ := areDigits
      obtain ⟨first, rest, rfl⟩ := List.exists_cons_of_ne_nil nonempty
      have digit := allDigits first List.mem_cons_self
      cases sign with
      | none => exact ⟨first, _, congrArg Prod.snd (Literal.takeSign_of_isDigit digit), digit⟩
      | plus | minus => exact ⟨first, _, rfl, digit⟩

theorem areDigits_toDigits (n : Nat) : AreDigits (Nat.toDigits 10 n) :=
  ⟨Nat.toDigits_ne_nil, fun _ => Literal.isDigit_of_mem_toDigits⟩

/-! ## The texts of numbers -/

/-- The text of a whole number is a literal of it. -/
theorem numeric_int (i : Int) :
    Numeric (toString i).toList (decide (i < 0)) i.natAbs 0 ∧
      IsExactly (decide (i < 0)) i.natAbs 0 i := by
  have literal {sign : List Char} {negative : Bool} (signed : Sign sign negative) :
      Numeric (sign ++ Nat.toDigits 10 i.natAbs) negative i.natAbs 0 := by
    have made := Numeric.parts signed (areDigits_toDigits i.natAbs) .none .none
    simpa using made
  rw [Literal.toList_toString_int]
  by_cases negative : i < 0
  · have value : -(i.natAbs : Int) = i := by omega
    rw [if_pos negative, decide_eq_true negative]
    exact ⟨literal .minus, isExactly_zero value⟩
  · have value : (i.natAbs : Int) = i := by omega
    rw [if_neg negative, decide_eq_false negative]
    exact ⟨literal .none, isExactly_zero value⟩

theorem exponent_writtenExponent (exponent : Int) :
    Exponent (Literal.writtenExponent exponent) exponent := by
  let zeros := 2 - (Nat.toDigits 10 exponent.natAbs).length
  let digits := List.replicate zeros '0' ++ Nat.toDigits 10 exponent.natAbs
  have areDigits : AreDigits digits :=
    ⟨by simp [digits, Nat.toDigits_ne_nil], fun _ => Literal.isDigit_of_mem_padded⟩
  have marked {sign : List Char} {negative : Bool} (signed : Sign sign negative) :
      Exponent ('e' :: sign ++ digits)
        (if negative then -(exponent.natAbs : Int) else exponent.natAbs) := by
    have made := Exponent.marked (.inl rfl) signed areDigits
    rwa [Literal.natural_padded] at made
  by_cases negative : exponent < 0
  · have value : -(exponent.natAbs : Int) = exponent := by omega
    have made := marked .minus
    rw [if_pos rfl, value] at made
    rw [Literal.writtenExponent, if_pos negative]
    exact made
  · have value : (exponent.natAbs : Int) = exponent := by omega
    have made := marked .plus
    rw [if_neg Bool.false_ne_true, value] at made
    rw [Literal.writtenExponent, if_neg negative]
    exact made

section Layouts

variable {sign digits : List Char} {negative : Bool}

/-- Digits in a positional layout are a literal. -/
theorem exists_numeric_positional
    (signed : Sign sign negative)
    (areDigits : AreDigits digits)
    (place : Int) :
    ∃ coefficient exponent,
      Numeric (sign ++ RealLayout.positional digits place) negative coefficient exponent ∧
        Binary64.ofDecimal negative coefficient exponent =
          .ofDecimal negative (Literal.natural digits) (place - digits.length) := by
  obtain ⟨before, after, text, some, someAfter, digitsBefore, digitsAfter, same⟩ :=
    Literal.exists_positional areDigits.1 areDigits.2 place
  have literal := Numeric.parts signed ⟨some, digitsBefore⟩
    (.pointed ⟨someAfter, digitsAfter⟩) .none
  rw [List.append_nil, List.append_assoc, ← text, Int.zero_sub] at literal
  exact ⟨_, _, literal, same negative⟩

/-- Digits in a layout with an exponent are a literal. -/
theorem numeric_scientific
    (signed : Sign sign negative)
    (areDigits : AreDigits digits)
    (exponent : Int) :
    Numeric (sign ++ RealLayout.scientific digits exponent) negative (Literal.natural digits)
      (exponent + 1 - digits.length) := by
  have marked := exponent_writtenExponent exponent
  obtain ⟨nonempty, allDigits⟩ := areDigits
  obtain ⟨first, others, rfl⟩ := List.exists_cons_of_ne_nil nonempty
  obtain ⟨digit, othersDigits⟩ := List.forall_mem_cons.mp allDigits
  have whole : AreDigits [first] := ⟨List.cons_ne_nil _ _, by simp [digit]⟩
  cases others with
  | nil =>
      have literal := Numeric.parts signed whole .none marked
      rw [Literal.scientific_singleton]
      simpa using literal
  | cons second rest =>
      have fraction : Fraction ('.' :: second :: rest) (second :: rest) :=
        .pointed ⟨List.cons_ne_nil _ _, othersDigits⟩
      have literal := Numeric.parts signed whole fraction marked
      have exponents : exponent + 1 - ((first :: second :: rest).length : Int) =
          exponent - ((second :: rest).length : Int) := by
        simp only [List.length_cons]
        omega
      rw [Literal.scientific_cons_cons, exponents]
      simpa using literal

/-- The text of a decimal is a literal of the same number, whatever the layout. -/
theorem exists_numeric_magnitude
    (signed : Sign sign negative)
    (layout : RealLayout)
    (decimal : DecimalDigits) :
    ∃ coefficient exponent,
      Numeric (sign ++ layout.magnitude decimal) negative coefficient exponent ∧
        Binary64.ofDecimal negative coefficient exponent =
          .ofDecimal negative decimal.coefficient decimal.exponent := by
  have areDigits := areDigits_toDigits decimal.coefficient
  unfold RealLayout.magnitude
  dsimp only
  split
  next near =>
      have literal := exists_numeric_positional signed areDigits
        (decimal.exponent + (Nat.toDigits 10 decimal.coefficient).length)
      rwa [Literal.natural_toDigits, Int.add_sub_cancel] at literal
  next far =>
      have literal := numeric_scientific signed areDigits
        (decimal.exponent + (Nat.toDigits 10 decimal.coefficient).length - 1)
      rw [Literal.natural_toDigits, Int.sub_add_cancel, Int.add_sub_cancel] at literal
      exact ⟨_, _, literal, rfl⟩

/-- The text of a finite number is a literal of a decimal that is nearest to the number. -/
theorem exists_numeric_real (layout : RealLayout) {x : Binary64} (finite : x.isFinite = true) :
    ∃ negative coefficient exponent,
      Numeric (layout.text x).toList negative coefficient exponent ∧
        Binary64.IsNearest negative coefficient exponent x := by
  cases x with
  | nan | infinite => cases finite
  | finite negative magnitude =>
      obtain ⟨sign, signed, text⟩ : ∃ sign, Sign sign negative ∧
          (layout.text (.finite negative magnitude)).toList =
            sign ++ layout.magnitude magnitude.shortest := by
        cases negative with
        | false => exact ⟨_, .none, String.toList_ofList⟩
        | true => exact ⟨_, .minus, by simp [RealLayout.text, RealLayout.signed]⟩
      obtain ⟨coefficient, exponent, literal, same⟩ :=
        exists_numeric_magnitude signed layout magnitude.shortest
      have reads := (DecimalDigits.readsAs_iff _ _).mp (Magnitude.readsAs_shortest magnitude)
      have nearest := Binary64.isNearest_ofDecimal negative coefficient exponent
      rw [same, Binary64.ofDecimal_of_magnitude negative reads] at nearest
      exact ⟨negative, coefficient, exponent, text ▸ literal, nearest⟩

end Layouts

end SqlLiteral
end BoundSql
