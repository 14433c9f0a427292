import BoundSql.Argument.Codec

/-!
# Encoded values

What encoding makes of any value: a text under an exact tag, or an error.  A member of
enumerations is encoded by what it carries, so the type that an error names is that of
the innermost value.
-/

namespace BoundSql
namespace Value

/-! ## Innermost values -/

/-- What a member of enumerations carries in the end, through members of other enumerations. -/
def innermost : Value → Value
  | .keyword k => .text k.symbol
  | .member _ _ payload => innermost payload
  | value => value

/-- The values of the types that have no serialized form. -/
inductive Formless : Value → Prop
  | time (t : TimeOfDay) : Formless (.time t)
  | duration (d : Duration) : Formless (.duration d)
  | bytes (content : List UInt8) : Formless (.bytes content)
  | list (items : List Value) : Formless (.list items)
  | tuple (items : List Value) : Formless (.tuple items)
  | dict (entries : List (Value × Value)) : Formless (.dict entries)
  | object (className : String) : Formless (.object className)

/-- The decimals that are no number and signal it. -/
inductive Signals : Value → Prop
  | nan (negative : Bool) (payload : Nat) : Signals (.decimal (.nan negative true payload))

/-- The error that names the type of the innermost value. -/
def refusal (value : Value) : Error :=
  .coercion value.innermost (.text value.innermost.typeName) .noEncoding

variable {value : Value}

theorem Formless.not_signals (formless : value.Formless) : ¬value.Signals := by
  rintro ⟨⟩
  cases formless

theorem innermost_member (e : Enumeration) (name : String) (payload : Value) :
    (Value.member e name payload).innermost = payload.innermost := by
  rw [innermost]

/-- What is a whole number carries one in the end. -/
theorem innermost_formed_of_int? {i : Int} (isWhole : value.int? = some i) :
    ¬value.innermost.Formless ∧ ¬value.innermost.Signals := by
  fun_induction int? value with
  | case1 | case2 => exact ⟨nofun, nofun⟩
  | case3 e name payload carriesWhole ofPayload =>
      rw [innermost_member]
      exact ofPayload isWhole
  | case4 | case5 => cases isWhole

/-- What is a real number carries one in the end. -/
theorem innermost_formed_of_float? {x : Binary64} (isReal : value.float? = some x) :
    ¬value.innermost.Formless ∧ ¬value.innermost.Signals := by
  fun_induction float? value with
  | case1 => exact ⟨nofun, nofun⟩
  | case2 e name payload carriesReal ofPayload =>
      rw [innermost_member]
      exact ofPayload isReal
  | case3 | case4 => cases isReal

/-- The whole number that a value with a literal is has not too many digits. -/
theorem short_of_int? {i : Int}
    (isWhole : value.int? = some i)
    (written : value.hasLiteral = true) :
    (Nat.toDigits 10 i.natAbs).length ≤ Literal.digitLimit := by
  fun_induction int? value with
  | case1 own =>
      cases isWhole
      exact of_decide_eq_true written
  | case2 b =>
      cases isWhole
      cases b <;> decide
  | case3 e name payload carriesWhole ofPayload =>
      rw [hasLiteral] at written
      exact ofPayload isWhole written
  | case4 | case5 => cases isWhole

/-- A decimal without a nearest real number signals. -/
theorem signals_of_realOfDecimal {d : Decimal} {fault : NumberFault}
    (fails : realOfDecimal d = .error fault) :
    Signals (.decimal d) ∧ fault = .realOfSignallingNan := by
  cases d with
  | finite | infinite => cases fails
  | nan negative signalling payload =>
      cases signalling with
      | false => cases fails
      | true =>
          cases fails
          exact ⟨.nan negative payload, rfl⟩

end Value
namespace Argument

theorem ofWhole_eq_ok
    {i : Int}
    {argument : Argument}
    (encodes : ofWhole i = .ok argument) :
    argument = ofText .integer (toString i) := by
  unfold ofWhole Value.wholeText at encodes
  split at encodes
  · rename_i s written
    split at written <;> cases written
    cases encodes
    rfl
  · cases encodes

/-- Whole numbers are encoded unless they are too long. -/
theorem ofWhole_of_short
    {i : Int}
    (short : (Nat.toDigits 10 i.natAbs).length ≤ Literal.digitLimit) :
    ofWhole i = .ok (ofText .integer (toString i)) := by
  have written : Value.wholeText i = .ok (toString i) := if_neg (Nat.not_lt.mpr short)
  rw [ofWhole, written]

/-- Encoding makes a text under an exact tag, which is never that of a column. -/
theorem encode_eq_ok
    {value : Value}
    {argument : Argument}
    (encodes : encode value = .ok argument) :
    ∃ tag s, argument = ofText tag s ∧ tag ≠ .column := by
  fun_induction encode value with
  | case3 i => exact ⟨_, _, ofWhole_eq_ok encodes, nofun⟩
  | case6 d fault notConverted => cases encodes
  | case13 e name payload i carried isInteger showsNumber =>
      exact ⟨_, _, ofWhole_eq_ok encodes, nofun⟩
  | case15 e name payload notInteger notReal payloadEncoded => exact payloadEncoded encodes
  | case16 value => cases encodes
  | case1 | case2 | case4 | case5 | case7 | case8 | case9 | case10 | case11 | case12 | case14 =>
      cases encodes
      exact ⟨_, _, rfl, nofun⟩

/-- A value with a literal is encoded, unless its innermost value is of a type without a serialized
form, or signals. -/
theorem encode_cases {value : Value} (written : value.hasLiteral = true) :
    (∃ argument, encode value = .ok argument) ∧
        ¬value.innermost.Formless ∧ ¬value.innermost.Signals ∨
      encode value = .error value.refusal ∧ value.innermost.Formless ∨
      encode value = .error (.number .realOfSignallingNan) ∧ value.innermost.Signals := by
  fun_induction encode value with
  | case3 i =>
      exact .inl ⟨⟨_, ofWhole_of_short (of_decide_eq_true written)⟩, nofun, nofun⟩
  | case5 d x converted =>
      refine .inl ⟨⟨_, rfl⟩, nofun, ?_⟩
      rintro ⟨negative, payload⟩
      cases converted
  | case6 d fault notConverted =>
      obtain ⟨signals, rfl⟩ := Value.signals_of_realOfDecimal notConverted
      exact .inr (.inr ⟨rfl, signals⟩)
  | case12 e name payload i carried isInteger showsName =>
      rw [Value.innermost_member]
      exact .inl ⟨⟨_, rfl⟩, Value.innermost_formed_of_int? carried⟩
  | case13 e name payload i carried isInteger showsNumber =>
      rw [Value.hasLiteral] at written
      rw [Value.innermost_member]
      exact .inl ⟨⟨_, ofWhole_of_short (Value.short_of_int? carried written)⟩,
        Value.innermost_formed_of_int? carried⟩
  | case14 e name payload x carried isReal =>
      rw [Value.innermost_member]
      exact .inl ⟨⟨_, rfl⟩, Value.innermost_formed_of_float? carried⟩
  | case15 e name payload notInteger notReal ofPayload =>
      rw [Value.hasLiteral] at written
      rw [Value.innermost_member, Value.refusal, Value.innermost_member]
      exact ofPayload written
  | case16 value =>
      rw [Error.showing, if_pos written]
      cases value with
      | time t => exact .inr (.inl ⟨rfl, .time t⟩)
      | duration d => exact .inr (.inl ⟨rfl, .duration d⟩)
      | bytes content => exact .inr (.inl ⟨rfl, .bytes content⟩)
      | list items => exact .inr (.inl ⟨rfl, .list items⟩)
      | tuple items => exact .inr (.inl ⟨rfl, .tuple items⟩)
      | dict entries => exact .inr (.inl ⟨rfl, .dict entries⟩)
      | object className => exact .inr (.inl ⟨rfl, .object className⟩)
      | _ => simp_all
  | case1 | case2 | case4 | case7 | case8 | case9 | case10 | case11 =>
      exact .inl ⟨⟨_, rfl⟩, nofun, nofun⟩

end Argument
end BoundSql
