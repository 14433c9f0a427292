import BoundSql.Proofs.Argument.Encoding
import BoundSql.Proofs.Number.RealText

/-!
# Values through arguments

A plain value is encoded and decoded without an error, and what is decoded stands for
it in one way only: numbers by their quantity, calendar values and identifiers by
their text, and texts by themselves, also the text that null is encoded as.
-/

namespace BoundSql
namespace Value

/-- The plain values: nothing, truth values, whole numbers that are not too long, real numbers,
decimals that do not signal, texts, dates, points in time and identifiers. -/
def Plain : Value → Prop
  | .null | .bool _ | .float _ | .text _ | .date _ | .datetime _ | .uuid _ => True
  | .int i => (Nat.toDigits 10 i.natAbs).length ≤ Literal.digitLimit
  | .decimal (.nan _ signalling _) => signalling = false
  | .decimal _ => True
  | _ => False

/-- The value that is bound for a plain one. -/
inductive Canonical : Value → Value → Prop
  | null : Canonical .null .null
  | bool (b : Bool) : Canonical (.bool b) (.int (if b then 1 else 0))
  | int (i : Int) : Canonical (.int i) (.int i)
  | float (x : Binary64) : Canonical (.float x) (.float x)
  | decimal
      (negative : Bool)
      (coefficient : Nat)
      (exponent : Int)
      {x : Binary64}
      (nearest : Binary64.IsNearest negative coefficient exponent x) :
      Canonical (.decimal (.finite negative coefficient exponent)) (.float x)
  | decimalInfinite (negative : Bool) :
      Canonical (.decimal (.infinite negative)) (.float (.infinite negative))
  | decimalNan (negative : Bool) (payload : Nat) :
      Canonical (.decimal (.nan negative false payload)) (.float .nan)
  | text (s : String) : Canonical (.text s) (.text s)
  | date (d : Date) : Canonical (.date d) (.text (String.ofList d.isoText))
  | datetime (d : DateTime) : Canonical (.datetime d) (.text (String.ofList (d.isoText ' ')))
  | uuid (u : Uuid) : Canonical (.uuid u) (.text u.text)

end Value

namespace Argument

/-- A whole number that is not too long is decoded as itself. -/
theorem decode_whole
    {i : Int}
    (short : (Nat.toDigits 10 i.natAbs).length ≤ Literal.digitLimit) :
    decode (ofText .integer (toString i)) = .ok (.int i) := by
  have read : (Value.text (toString i)).toInt = .ok i := by
    change Value.readWhole _ (toString i).toList = .ok i
    rw [Value.readWhole, Literal.whole_toString short]
  change ((ofText .integer (toString i)).coerced (Value.text (toString i)).toInt).map Value.int =
    .ok (.int i)
  rw [read]
  rfl

/-- A truth value is decoded as zero or one. -/
theorem decode_bool (b : Bool) :
    decode (ofText .integer (if b then "1" else "0")) = .ok (.int (if b then 1 else 0)) := by
  cases b with
  | false => exact decode_whole (i := 0) (by decide)
  | true => exact decode_whole (i := 1) (by decide)

/-- A real number is decoded as itself, also where it is not finite. -/
theorem decode_ofReal
    (x : Binary64) :
    decode (ofReal x) = .ok (.float x) := by
  have read : (Value.text (RealLayout.bound.text x)).toReal = .ok x := by
    change Value.readReal _ (RealLayout.bound.text x).toList = .ok x
    rw [Value.readReal, Literal.real?_text]
  change ((ofReal x).coerced (Value.text (RealLayout.bound.text x)).toReal).map Value.float =
    .ok (.float x)
  rw [read]
  rfl

/-- A text is decoded as itself under every tag of texts. -/
theorem decode_ofText
    (tag : TypeTag)
    (s : String)
    (textual : tag = .text ∨ tag = .date ∨ tag = .datetime) :
    decode (ofText tag s) = .ok (.text s) := by
  obtain rfl | rfl | rfl := textual <;> rfl

/-- Decoding what a plain value is encoded as gives the value that stands for it. -/
theorem exists_decode_of_plain
    {value : Value}
    (plain : value.Plain) :
    ∃ argument bound, encode value = .ok argument ∧ decode argument = .ok bound ∧
      value.Canonical bound := by
  cases value with
  | null => exact ⟨_, _, rfl, rfl, .null⟩
  | bool b => exact ⟨_, _, rfl, decode_bool b, .bool b⟩
  | int i => exact ⟨_, _, ofWhole_of_short plain, decode_whole plain, .int i⟩
  | float x => exact ⟨_, _, rfl, decode_ofReal x, .float x⟩
  | decimal d =>
      cases d with
      | finite negative coefficient exponent =>
          exact ⟨_, _, rfl, decode_ofReal _,
            .decimal negative coefficient exponent (Binary64.isNearest_ofDecimal _ _ _)⟩
      | infinite negative => exact ⟨_, _, rfl, decode_ofReal _, .decimalInfinite negative⟩
      | nan negative signalling payload =>
          obtain rfl : signalling = false := plain
          exact ⟨_, _, rfl, decode_ofReal _, .decimalNan negative payload⟩
  | text s => exact ⟨_, _, rfl, decode_ofText .text s (by simp), .text s⟩
  | date d => exact ⟨_, _, rfl, decode_ofText .date _ (by simp), .date d⟩
  | datetime d => exact ⟨_, _, rfl, decode_ofText .datetime _ (by simp), .datetime d⟩
  | uuid u => exact ⟨_, _, rfl, decode_ofText .text _ (by simp), .uuid u⟩
  | _ => exact plain.elim

end Argument
end BoundSql
