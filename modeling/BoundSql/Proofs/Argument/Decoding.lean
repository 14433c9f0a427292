import BoundSql.Proofs.Argument.Encoding
import BoundSql.Proofs.Number.Rounding
import BoundSql.Proofs.Outcome
import BoundSql.Proofs.Value.Written

/-!
# Failures of decoding

An argument that is not decoded is refused with an error that names the argument and its
tag, or says that a column is not bound.  Two kinds of arguments end otherwise.  A number
out of reach of the numbers that its tag asks for is not blamed on the tag.  And an error,
or a text, is not made when it shows a whole number with too many digits to be written.
-/

namespace BoundSql
namespace Value

variable {value : Value}

/-! ## Numbers out of reach -/

/-- Whether a value is a number out of reach of the numbers that a tag asks for: an infinite one of
the whole numbers, and a whole number beyond the finite real numbers. -/
inductive OutOfReach : TypeTag → Value → Prop
  | infinite {value : Value} {negative : Bool}
      (isReal : value.float? = some (.infinite negative)) :
      OutOfReach .integer value
  | infiniteDecimal (negative : Bool) : OutOfReach .integer (.decimal (.infinite negative))
  | large {value : Value} {i : Int}
      (isWhole : value.int? = some i)
      (beyond : Binary64.wholeLimit ≤ i.natAbs) :
      OutOfReach .float value

theorem toInt_of_int? {i : Int} (isWhole : value.int? = some i) : value.toInt = .ok i := by
  unfold toInt
  rw [isWhole]

theorem toReal_of_int? {i : Int} (isWhole : value.int? = some i) :
    value.toReal = realOfInt i := by
  unfold toReal
  rw [isWhole]

/-- A whole number has a nearest real number, or it is out of reach of them. -/
theorem realOfInt_cases (i : Int) :
    (∃ x, realOfInt i = .ok x) ∧ i.natAbs < Binary64.wholeLimit ∨
      realOfInt i = .error .realOfLargeWhole ∧ Binary64.wholeLimit ≤ i.natAbs := by
  unfold realOfInt
  by_cases finite : (Binary64.ofInt i).isFinite = true
  · exact .inl ⟨⟨_, if_pos finite⟩, (Binary64.isFinite_ofInt_iff i).mp finite⟩
  · exact .inr ⟨if_neg finite,
      Nat.le_of_not_lt (mt (Binary64.isFinite_ofInt_iff i).mpr finite)⟩

theorem kind_of_readWhole {shown : String} {s : List Char} {fault : NumberFault}
    (fails : readWhole shown s = .error fault) : fault.kind = .value := by
  unfold readWhole at fails
  split at fails <;> cases fails <;> rfl

theorem kind_of_readReal {shown : String} {s : List Char} {fault : NumberFault}
    (fails : readReal shown s = .error fault) : fault.kind = .value := by
  unfold readReal at fails
  split at fails
  · cases fails
  · cases fails
    rfl

/-- Only infinite numbers are out of reach of the whole numbers. -/
theorem outOfReach_of_toInt {fault : NumberFault}
    (fails : value.toInt = .error fault)
    (overflow : fault.kind = .overflow) :
    value.OutOfReach .integer := by
  -- A value is tried as a whole number, as a real number and as a text before its type is.
  unfold toInt at fails
  split at fails
  · cases fails
  · rename_i x notWhole isReal
    cases x with
    | nan =>
        cases fails
        cases overflow
    | infinite negative => exact .infinite isReal
    | finite => cases fails
  · rw [kind_of_readWhole fails] at overflow
    cases overflow
  · split at fails
    · rename_i d notWhole notReal noText
      cases d with
      | nan =>
          cases fails
          cases overflow
      | infinite negative => exact .infiniteDecimal negative
      | finite => cases fails
    · rw [kind_of_readWhole fails] at overflow
      cases overflow
    · cases fails
    · cases fails
      cases overflow

/-- Only large whole numbers are out of reach of the real numbers. -/
theorem outOfReach_of_toReal {fault : NumberFault}
    (fails : value.toReal = .error fault)
    (overflow : fault.kind = .overflow) :
    value.OutOfReach .float := by
  unfold toReal at fails
  split at fails
  · rename_i i isWhole
    obtain ⟨⟨x, converted⟩, _⟩ | ⟨_, beyond⟩ := realOfInt_cases i
    · rw [converted] at fails
      cases fails
    · exact .large isWhole beyond
  · cases fails
  · rw [kind_of_readReal fails] at overflow
    cases overflow
  · split at fails
    · rename_i d notWhole notReal noText
      unfold realOfDecimal at fails
      split at fails
      · cases fails
      · cases fails
        cases overflow
    · rw [kind_of_readReal fails] at overflow
      cases overflow
    · cases fails
      cases overflow

theorem toInt_of_outOfReach (out : value.OutOfReach .integer) :
    ∃ fault, value.toInt = .error fault ∧ fault.kind = .overflow := by
  cases out with
  | infinite isReal =>
      have notWhole := (none_of_float? isReal).1
      refine ⟨.wholeOfInfinity, ?_, rfl⟩
      unfold toInt
      rw [notWhole, isReal]
      rfl
  | infiniteDecimal negative => exact ⟨.wholeOfDecimalInfinity, rfl, rfl⟩

theorem toReal_of_outOfReach (out : value.OutOfReach .float) :
    ∃ fault, value.toReal = .error fault ∧ fault.kind = .overflow := by
  cases out with
  | @large _ i isWhole beyond =>
      obtain ⟨_, inside⟩ | ⟨fails, _⟩ := realOfInt_cases i
      · exact absurd beyond (Nat.not_le.mpr inside)
      · exact ⟨.realOfLargeWhole, (toReal_of_int? isWhole).trans fails, rfl⟩

/-! ## Values that are not written -/

theorem hasLiteral_int_iff {i : Int} :
    (Value.int i).hasLiteral = true ↔ i.natAbs < 10 ^ Literal.digitLimit := by
  rw [hasLiteral, decide_eq_true_iff, Nat.length_toDigits_le_iff (by decide) (by decide)]

/-- Whether a value is to be shown under a tag, and has a whole number with too many digits to be
written.  Whole numbers themselves are not shown where a number is asked for. -/
def Unwritten : TypeTag → Value → Prop
  | .column, value => value.hasLiteral = false
  | .integer, value | .float, value => value.int? = none ∧ value.hasLiteral = false
  | .text, value | .date, value | .datetime, value => value.hasDisplay = false
  | .null, _ => False

theorem tag_of_outOfReach {tag : TypeTag} (out : value.OutOfReach tag) :
    tag = .integer ∨ tag = .float := by
  cases out with
  | infinite | infiniteDecimal => exact .inl rfl
  | large => exact .inr rfl

theorem text?_of_outOfReach {tag : TypeTag} (out : value.OutOfReach tag) : value.text? = none := by
  cases out with
  | infinite isReal => exact (none_of_float? isReal).2
  | infiniteDecimal => rfl
  | large isWhole => exact (none_of_int? isWhole).2

/-- A value that is not written, and no whole number itself, is of a type without numbers. -/
theorem conversions_of_not_hasLiteral
    (notWhole : value.int? = none)
    (unwritten : value.hasLiteral = false) :
    value.toInt = .error (.wholeType value.qualifiedTypeName) ∧
      value.toReal = .error (.realType value.qualifiedTypeName) := by
  have notReal : value.float? = none := by
    cases isReal : value.float? with
    | none => rfl
    | some x =>
        rw [hasLiteral_of_float? isReal] at unwritten
        cases unwritten
  have noText := text?_of_not_hasLiteral unwritten
  unfold toInt toReal
  rw [notWhole, notReal, noText]
  -- What remains without a literal is a container, or a member that is no number itself.
  cases value with
  | list | tuple | dict | member | int => exact ⟨rfl, rfl⟩
  | _ => cases unwritten

/-- A value that becomes no whole number under the tag of whole numbers has a literal, or it is not
written. -/
theorem hasLiteral_of_toInt {fault : NumberFault}
    (fails : value.toInt = .error fault)
    (written : ¬value.Unwritten .integer) :
    value.hasLiteral = true := by
  cases isWhole : value.int? with
  | none => exact Bool.eq_true_of_not_eq_false fun noLiteral => written ⟨isWhole, noLiteral⟩
  | some i =>
      rw [toInt_of_int? isWhole] at fails
      cases fails

/-- A value that is not out of reach and becomes no real number under the tag of real numbers has a
literal, or it is not written. -/
theorem hasLiteral_of_toReal {fault : NumberFault}
    (fails : value.toReal = .error fault)
    (reached : fault.kind ≠ .overflow)
    (written : ¬value.Unwritten .float) :
    value.hasLiteral = true := by
  cases isWhole : value.int? with
  | none => exact Bool.eq_true_of_not_eq_false fun noLiteral => written ⟨isWhole, noLiteral⟩
  | some i =>
      rw [toReal_of_int? isWhole] at fails
      obtain ⟨⟨x, converted⟩, _⟩ | ⟨large, _⟩ := realOfInt_cases i
      · rw [converted] at fails
        cases fails
      · rw [large] at fails
        cases fails
        exact absurd rfl reached

/-- Whether decoding a value under a tag ends in a value that is bound, or in an error that says
why not. -/
structure Handled (tag : TypeTag) (value : Value) : Prop where
  reached : ¬value.OutOfReach tag
  written : ¬value.Unwritten tag

end Value

namespace Argument

variable {argument : Argument}

/-! ## Errors that say why -/

/-- Whether an argument stands for nothing although its tag is not that of nothing. -/
def isNothing (argument : Argument) : Bool :=
  argument.tag.reading.nullable && argument.value.isText nullText

/-- The error that says why an argument is not decoded: its tag is that of a column, or its value
does not become the number that the tag asks for, which is named by the fault that it came to. -/
inductive Refuses (argument : Argument) : Error → Prop
  | column (tagged : argument.tag.reading.tag = .column) :
      Refuses argument (.compile (.columnBound argument.value))
  | whole {fault : NumberFault}
      (tagged : argument.tag.reading.tag = .integer)
      (something : argument.isNothing = false)
      (fails : argument.value.toInt = .error fault)
      (reached : fault.kind ≠ .overflow) :
      Refuses argument
        (.coercion argument.value (.text argument.tag.text) (.conversion fault))
  | real {fault : NumberFault}
      (tagged : argument.tag.reading.tag = .float)
      (something : argument.isNothing = false)
      (fails : argument.value.toReal = .error fault)
      (reached : fault.kind ≠ .overflow) :
      Refuses argument
        (.coercion argument.value (.text argument.tag.text) (.conversion fault))

/-! ## What decoding comes to -/

theorem decode_column (tagged : argument.tag.reading.tag = .column) :
    decode argument =
      .error (.showing argument.value (.compile (.columnBound argument.value))) := by
  unfold decode
  dsimp only
  rw [tagged]
  rfl

theorem decode_null (tagged : argument.tag.reading.tag = .null) : decode argument = .ok .null := by
  unfold decode
  dsimp only
  rw [tagged]
  rfl

theorem decode_nothing
    (notColumn : argument.tag.reading.tag ≠ .column)
    (nothing : argument.isNothing = true) :
    decode argument = .ok .null := by
  rw [isNothing] at nothing
  unfold decode
  dsimp only
  rw [nothing, Bool.or_true, if_neg (mt beq_iff_eq.mp notColumn)]
  rfl

theorem decode_integer
    (tagged : argument.tag.reading.tag = .integer)
    (something : argument.isNothing = false) :
    decode argument = (argument.coerced argument.value.toInt).map .int := by
  rw [isNothing] at something
  unfold decode
  dsimp only
  rw [tagged, something]
  rfl

theorem decode_float
    (tagged : argument.tag.reading.tag = .float)
    (something : argument.isNothing = false) :
    decode argument = (argument.coerced argument.value.toReal).map .float := by
  rw [isNothing] at something
  unfold decode
  dsimp only
  rw [tagged, something]
  rfl

theorem decode_textual
    (tagged : argument.tag.reading.tag ∈ [TypeTag.text, .date, .datetime])
    (something : argument.isNothing = false) :
    decode argument = (argument.value.displayText.mapError .number).map .text := by
  rw [isNothing] at something
  unfold decode
  dsimp only
  rw [something, Bool.or_false]
  revert tagged
  cases argument.tag.reading.tag with
  | text | date | datetime => exact fun _ => rfl
  | integer | float | null | column => exact nofun

theorem showing_of_hasLiteral (written : argument.value.hasLiteral = true) (error : Error) :
    Error.showing argument.value error = error := by
  rw [Error.showing, if_pos written]

theorem isNothing_of_text? (noText : argument.value.text? = none) : argument.isNothing = false := by
  rw [isNothing, Value.isText, noText]
  exact Bool.and_false _

theorem map_coerced_of_overflow
    {α : Type}
    {fault : NumberFault}
    (overflow : fault.kind = .overflow)
    (bound : α → Value) :
    (argument.coerced (.error fault)).map bound = .error (.number fault) := by
  rw [coerced, overflow]
  rfl

theorem map_coerced_of_not_overflow
    {α : Type}
    {fault : NumberFault}
    (reached : fault.kind ≠ .overflow)
    (bound : α → Value) :
    (argument.coerced (.error fault)).map bound =
      .error (.showing argument.value
        (.coercion argument.value (.text argument.tag.text) (.conversion fault))) := by
  unfold coerced
  dsimp only
  cases kind : fault.kind with
  | overflow => exact absurd kind reached
  | value | type => rfl

/-- A number out of reach is not blamed on the tag. -/
theorem decode_of_outOfReach (out : argument.value.OutOfReach argument.tag.reading.tag) :
    ∃ fault, decode argument = .error (.number fault) ∧ fault.kind = .overflow := by
  have something := isNothing_of_text? (Value.text?_of_outOfReach out)
  obtain tagged | tagged := Value.tag_of_outOfReach out
  · rw [tagged] at out
    obtain ⟨fault, fails, overflow⟩ := Value.toInt_of_outOfReach out
    refine ⟨fault, ?_, overflow⟩
    rw [decode_integer tagged something, fails, map_coerced_of_overflow overflow]
  · rw [tagged] at out
    obtain ⟨fault, fails, overflow⟩ := Value.toReal_of_outOfReach out
    refine ⟨fault, ?_, overflow⟩
    rw [decode_float tagged something, fails, map_coerced_of_overflow overflow]

/-- What has too many digits to be shown is neither bound nor shown in an error. -/
theorem decode_of_unwritten (unwritten : argument.value.Unwritten argument.tag.reading.tag) :
    decode argument = .error (.number (.tooLong Literal.digitLimit)) := by
  have unshown : ∀ error, argument.value.hasLiteral = false →
      Error.showing argument.value error = .number (.tooLong Literal.digitLimit) := by
    intro error noLiteral
    rw [Error.showing, noLiteral]
    rfl
  have something : argument.value.hasLiteral = false → argument.isNothing = false := by
    intro noLiteral
    apply isNothing_of_text?
    exact Value.text?_of_not_hasLiteral noLiteral
  cases tagged : argument.tag.reading.tag with
  | column =>
      rw [tagged] at unwritten
      rw [decode_column tagged, unshown _ unwritten]
  | null =>
      rw [tagged] at unwritten
      exact unwritten.elim
  | integer =>
      rw [tagged] at unwritten
      obtain ⟨notWhole, noLiteral⟩ := unwritten
      obtain ⟨fails, _⟩ := Value.conversions_of_not_hasLiteral notWhole noLiteral
      rw [decode_integer tagged (something noLiteral), fails,
        map_coerced_of_not_overflow FaultKind.noConfusion, unshown _ noLiteral]
  | float =>
      rw [tagged] at unwritten
      obtain ⟨notWhole, noLiteral⟩ := unwritten
      obtain ⟨_, fails⟩ := Value.conversions_of_not_hasLiteral notWhole noLiteral
      rw [decode_float tagged (something noLiteral), fails,
        map_coerced_of_not_overflow FaultKind.noConfusion, unshown _ noLiteral]
  | text | date | datetime =>
      rw [tagged] at unwritten
      have noDisplay : argument.value.hasDisplay = false := unwritten
      have noLiteral : argument.value.hasLiteral = false := Bool.eq_false_iff.mpr
        (mt Value.hasDisplay_of_hasLiteral (Bool.eq_false_iff.mp noDisplay))
      rw [decode_textual (by rw [tagged]; decide) (something noLiteral), Value.displayText,
        noDisplay]
      rfl

/-- An argument that is refused is refused by decoding, unless it is not written. -/
theorem Refuses.decode_eq
    {error : Error}
    (refuses : argument.Refuses error)
    (written : ¬argument.value.Unwritten argument.tag.reading.tag) :
    decode argument = .error error := by
  cases refuses with
  | column tagged =>
      rw [tagged] at written
      have shown : argument.value.hasLiteral = true := Bool.eq_true_of_not_eq_false written
      rw [decode_column tagged, showing_of_hasLiteral shown]
  | whole tagged something fails reached =>
      rw [tagged] at written
      have shown := Value.hasLiteral_of_toInt fails written
      rw [decode_integer tagged something, fails, map_coerced_of_not_overflow reached,
        showing_of_hasLiteral shown]
  | real tagged something fails reached =>
      rw [tagged] at written
      have shown := Value.hasLiteral_of_toReal fails reached written
      rw [decode_float tagged something, fails, map_coerced_of_not_overflow reached,
        showing_of_hasLiteral shown]

/-- Where there is an error that says why, decoding fails with no other. -/
theorem Refuses.of_decode
    {error other : Error}
    (refuses : argument.Refuses other)
    (written : ¬argument.value.Unwritten argument.tag.reading.tag)
    (fails : decode argument = .error error) :
    argument.Refuses error := by
  rw [refuses.decode_eq written] at fails
  cases fails
  exact refuses

/-- Decoding an argument that is handled fails with the error that says why. -/
theorem refuses_of_decode
    {error : Error}
    (handled : argument.value.Handled argument.tag.reading.tag)
    (fails : decode argument = .error error) :
    argument.Refuses error := by
  obtain ⟨reached, written⟩ := handled
  -- A column is refused before the null text is looked for.
  by_cases isColumn : argument.tag.reading.tag = .column
  · exact (Refuses.column isColumn).of_decode written fails
  cases something : argument.isNothing with
  | true =>
      rw [decode_nothing isColumn something] at fails
      cases fails
  | false =>
      cases tagged : argument.tag.reading.tag with
      | column => exact absurd tagged isColumn
      | null =>
          rw [decode_null tagged] at fails
          cases fails
      | integer =>
          cases converts : argument.value.toInt with
          | ok i =>
              rw [decode_integer tagged something, converts] at fails
              cases fails
          | error fault =>
              have notOverflow : fault.kind ≠ .overflow := fun overflow =>
                reached (tagged ▸ Value.outOfReach_of_toInt converts overflow)
              exact (Refuses.whole tagged something converts notOverflow).of_decode written fails
      | float =>
          cases converts : argument.value.toReal with
          | ok x =>
              rw [decode_float tagged something, converts] at fails
              cases fails
          | error fault =>
              have notOverflow : fault.kind ≠ .overflow := fun overflow =>
                reached (tagged ▸ Value.outOfReach_of_toReal converts overflow)
              exact (Refuses.real tagged something converts notOverflow).of_decode written fails
      | text | date | datetime =>
          rw [tagged] at written
          have shown : argument.value.hasDisplay = true := Bool.eq_true_of_not_eq_false written
          rw [decode_textual (by rw [tagged]; decide) something, Value.displayText, shown] at fails
          cases fails

/-- An argument that is not handled fails without an error that says why. -/
theorem exists_fault_of_not_handled
    (unhandled : ¬argument.value.Handled argument.tag.reading.tag) :
    ∃ fault, decode argument = .error (.number fault) := by
  by_cases out : argument.value.OutOfReach argument.tag.reading.tag
  · obtain ⟨fault, fails, _⟩ := decode_of_outOfReach out
    exact ⟨fault, fails⟩
  · by_cases unwritten : argument.value.Unwritten argument.tag.reading.tag
    · exact ⟨_, decode_of_unwritten unwritten⟩
    · exact absurd ⟨out, unwritten⟩ unhandled

theorem not_refuses_number (fault : NumberFault) : ¬argument.Refuses (.number fault) := nofun

theorem refuses_iff_handled :
    (∀ error, decode argument = .error error → argument.Refuses error) ↔
      argument.value.Handled argument.tag.reading.tag := by
  constructor
  · intro refused
    by_contra unhandled
    obtain ⟨fault, fails⟩ := exists_fault_of_not_handled unhandled
    exact not_refuses_number fault (refused _ fails)
  · exact fun handled error => refuses_of_decode handled

/-- Several arguments are refused with the error of one of them, unless the first one that is not
decoded is not handled. -/
theorem decodeAll_refuses_iff {arguments : List Argument} :
    (∀ error, decodeAll arguments = .error error →
        ∃ argument ∈ arguments, argument.Refuses error) ↔
      ∀ before argument after, arguments = before ++ argument :: after →
        (∃ values, decodeAll before = .ok values) →
        argument.value.Handled argument.tag.reading.tag := by
  constructor
  · intro refused before argument after split decoded
    by_contra unhandled
    obtain ⟨fault, fails⟩ := exists_fault_of_not_handled unhandled
    have failed := mapM_eq_error.mpr ⟨before, argument, after, split, decoded, fails⟩
    obtain ⟨other, _, refuses⟩ := refused _ failed
    exact not_refuses_number fault refuses
  · intro handled error failed
    obtain ⟨before, argument, after, rfl, decoded, fails⟩ := mapM_eq_error.mp failed
    have refuses := refuses_of_decode (handled before argument after rfl decoded) fails
    exact ⟨argument, by simp, refuses⟩

/-- Decoding fails with nothing but the error that says why exactly when the argument is handled,
and then it fails with that error.  An argument with a number out of reach fails as one, and an
argument that is not written with the number of digits.  Several arguments fail with nothing but the
error that says why for one of them exactly when the first one that is not decoded is handled. -/
theorem decode_refuses (argument : Argument) (arguments : List Argument) :
    ((∀ error, decode argument = .error error → argument.Refuses error) ↔
        argument.value.Handled argument.tag.reading.tag) ∧
      (argument.value.Handled argument.tag.reading.tag →
        ∀ error, argument.Refuses error → decode argument = .error error) ∧
      (argument.value.OutOfReach argument.tag.reading.tag →
        ∃ fault, decode argument = .error (.number fault) ∧ fault.kind = .overflow) ∧
      (argument.value.Unwritten argument.tag.reading.tag →
        decode argument = .error (.number (.tooLong Literal.digitLimit))) ∧
      ((∀ error, decodeAll arguments = .error error →
          ∃ argument ∈ arguments, argument.Refuses error) ↔
        ∀ before argument after, arguments = before ++ argument :: after →
          (∃ values, decodeAll before = .ok values) →
          argument.value.Handled argument.tag.reading.tag) := by
  refine ⟨refuses_iff_handled, ?_, decode_of_outOfReach, decode_of_unwritten,
    decodeAll_refuses_iff⟩
  intro handled error refuses
  exact refuses.decode_eq handled.written

theorem decode_refuses_extremes :
    decode ⟨.list [.null], .loose "column"⟩ =
        .error (.compile (.columnBound (.list [.null]))) ∧
      (∃ fault, decode ⟨.decimal (.infinite true), .loose "int64"⟩ = .error (.number fault) ∧
        fault.kind = .overflow) ∧
      decode ⟨.int ((10 ^ Literal.digitLimit : Nat) : Int), .loose "text"⟩ =
        .error (.number (.tooLong Literal.digitLimit)) := by
  have column : (TagSpelling.loose "column").reading = ⟨.column, false⟩ := by decide +kernel
  have integer : (TagSpelling.loose "int64").reading = ⟨.integer, false⟩ := by decide +kernel
  have text : (TagSpelling.loose "text").reading = ⟨.text, false⟩ := by decide +kernel
  have long : (Value.int ((10 ^ Literal.digitLimit : Nat) : Int)).hasLiteral = false := by
    rw [Bool.eq_false_iff, ne_eq, Value.hasLiteral_int_iff, Int.natAbs_natCast]
    exact Nat.lt_irrefl _
  refine ⟨?_, ?_, ?_⟩
  · apply (decode_refuses ⟨.list [.null], .loose "column"⟩ []).2.1
    · rw [column]
      exact ⟨nofun, nofun⟩
    · exact .column (congrArg TagReading.tag column)
  · apply (decode_refuses ⟨.decimal (.infinite true), .loose "int64"⟩ []).2.2.1
    rw [integer]
    exact .infiniteDecimal true
  · apply (decode_refuses ⟨.int ((10 ^ Literal.digitLimit : Nat) : Int), .loose "text"⟩ []).2.2.2.1
    rw [text]
    exact long

/-- An infinite number under the tag of whole numbers fails without an error that says why. -/
theorem decode_infinity :
    decode ⟨.float (.infinite false), .loose "integer"⟩ = .error (.number .wholeOfInfinity) ∧
      NumberFault.wholeOfInfinity.kind = .overflow ∧
      ¬Refuses ⟨.float (.infinite false), .loose "integer"⟩ (.number .wholeOfInfinity) := by
  have integer : (TagSpelling.loose "integer").reading = ⟨.integer, false⟩ := by decide +kernel
  refine ⟨?_, rfl, not_refuses_number _⟩
  rw [decode_integer (congrArg TagReading.tag integer) (isNothing_of_text? rfl)]
  rfl

end Argument
end BoundSql
