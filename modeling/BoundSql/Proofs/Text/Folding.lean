import BoundSql.Entries
import BoundSql.Text.Blank
import BoundSql.Text.Case
import Mathlib.Data.List.TakeDrop
import Mathlib.Data.List.TakeWhile

/-!
# Splitting, trimming and letter case

A text is split where a run of characters ends, so at the first place of a separator.
What surrounds a text is trimmed off exactly when neither end of the text itself would
be.  Text in ASCII is lower-cased character by character, without regard to its
neighbours.
-/

namespace BoundSql
namespace Text

/-! ## Splitting and trimming -/

section Trimming

variable {α : Type} {test : α → Bool} {items more before after : List α}

/-- Whether the first member of a list, if there is one, fails a test. -/
def StartsOutside (test : α → Bool) (items : List α) : Prop :=
  ∀ item ∈ items.head?, test item = false

theorem startsOutside_of_forall (outside : ∀ item ∈ items, test item = false) :
    StartsOutside test items :=
  fun item first => outside item (List.mem_of_mem_head? first)

theorem startsOutside_cons {item : α} (outside : test item = false) :
    StartsOutside test (item :: items) := by
  intro first isFirst
  cases isFirst
  exact outside

theorem StartsOutside.append
    (starts : StartsOutside test items)
    (goesOn : StartsOutside test more) :
    StartsOutside test (items ++ more) := by
  cases items with
  | nil => exact goesOn
  | cons item items => exact starts

theorem StartsOutside.dropWhile_eq (starts : StartsOutside test items) :
    items.dropWhile test = items := by
  cases items with
  | nil => rfl
  | cons item items =>
      have fails : test item = false := starts item rfl
      exact List.dropWhile_cons_of_neg (by rw [fails]; exact Bool.false_ne_true)

/-- A run up to something else is split off as it is. -/
theorem span_append
    (inside : ∀ item ∈ items, test item = true)
    (ends : StartsOutside test more) :
    (items ++ more).span test = (items, more) := by
  have none : more.takeWhile test = [] := by
    cases more with
    | nil => rfl
    | cons item more =>
        have fails : test item = false := ends item rfl
        exact List.takeWhile_cons_of_neg (by rw [fails]; exact Bool.false_ne_true)
  rw [List.span_eq_takeWhile_dropWhile, List.takeWhile_append_of_pos inside,
    List.dropWhile_append_of_pos inside, none, ends.dropWhile_eq, List.append_nil]

/-- A run to the end is split off whole. -/
theorem span_of_forall (inside : ∀ item ∈ items, test item = true) :
    items.span test = (items, []) := by
  have ends : StartsOutside test [] := nofun
  have split := span_append inside ends
  rwa [List.append_nil] at split

/-- Whether neither end of a list satisfies a test. -/
structure Trimmed (test : α → Bool) (items : List α) : Prop where
  start : StartsOutside test items
  finish : StartsOutside test items.reverse

theorem trimmed_of_forall (outside : ∀ item ∈ items, test item = false) : Trimmed test items where
  start := startsOutside_of_forall outside
  finish := startsOutside_of_forall fun item member => outside item (List.mem_reverse.mp member)

/-- Two lists in a row are trimmed when the first starts and the second ends outside. -/
theorem Trimmed.append (first : Trimmed test items) (second : Trimmed test more) :
    Trimmed test (items ++ more) where
  start := first.start.append second.start
  finish := by
    rw [List.reverse_append]
    exact second.finish.append first.finish

/-- Trimming takes away what surrounds a trimmed list and no more. -/
theorem Trimmed.trimBy_eq
    (trimmed : Trimmed test items)
    (inBefore : ∀ item ∈ before, test item = true)
    (inAfter : ∀ item ∈ after, test item = true) :
    trimBy test (before ++ items ++ after) = items := by
  have reversed : ∀ item ∈ after.reverse, test item = true :=
    fun item member => inAfter item (List.mem_reverse.mp member)
  cases items with
  | nil =>
      have all : ∀ item ∈ before ++ [] ++ after, test item = true := by
        intro item member
        rw [List.append_nil] at member
        exact (List.mem_append.mp member).elim (inBefore item) (inAfter item)
      rw [trimBy, dropTrailing, List.dropWhile_eq_nil_iff.mpr all]
      rfl
  | cons item items =>
      have starts : StartsOutside test (item :: items ++ after) := trimmed.start
      rw [trimBy, dropTrailing, List.append_assoc, List.dropWhile_append_of_pos inBefore,
        starts.dropWhile_eq, List.reverse_append, List.dropWhile_append_of_pos reversed,
        trimmed.finish.dropWhile_eq, List.reverse_reverse]

end Trimming

section Separator

variable {α : Type} [BEq α] [LawfulBEq α] {separator : α} {items : List α}

/-- A list is split at the first place of a separator. -/
theorem span_ne_append (absent : separator ∉ items) (more : List α) :
    (items ++ separator :: more).span (· != separator) = (items, separator :: more) :=
  span_append (fun _ member => bne_iff_ne.mpr fun same => absent (same ▸ member))
    (startsOutside_cons (bne_self_eq_false separator))

/-- A list without a separator is not split. -/
theorem span_ne_of_not_mem (absent : separator ∉ items) :
    items.span (· != separator) = (items, []) :=
  span_of_forall fun _ member => bne_iff_ne.mpr fun same => absent (same ▸ member)

end Separator

/-! ## Forms of characters -/

/-- The form of a character is one of the expansions, or what a run makes of it, or itself. -/
theorem caseForm_cases (expansions : List (Nat × List Nat)) (runs : List CaseRun) (c : Char) :
    (∃ codes, (c.toNat, codes) ∈ expansions ∧
      caseForm expansions runs c = codes.map Char.ofNat) ∨
    (∃ run ∈ runs, ∃ code, run.form? c.toNat = some code ∧
      caseForm expansions runs c = [Char.ofNat code]) ∨
    caseForm expansions runs c = [c] := by
  unfold caseForm
  split
  · rename_i codes expanded
    exact .inl ⟨codes, Entries.mem_of_lookup expanded, rfl⟩
  · split
    · rename_i code moved
      obtain ⟨run, inTable, formed⟩ := List.exists_of_findSome?_eq_some moved
      exact .inr (.inl ⟨run, inTable, code, formed, rfl⟩)
    · exact .inr (.inr rfl)

/-- A run moves the characters within it, all by the same distance. -/
theorem form?_eq_some {run : CaseRun} {code form : Nat} (formed : run.form? code = some form) :
    run.first ≤ code ∧ code ≤ run.last ∧ form = (code + run.shift).toNat := by
  unfold CaseRun.form? at formed
  split at formed
  · rename_i inRun
    simp only [Bool.and_eq_true, decide_eq_true_eq] at inRun
    exact ⟨inRun.1.1, inRun.1.2, (Option.some.inj formed).symm⟩
  · cases formed

/-- A character that is made of a code has this code, unless the code makes none. -/
theorem toNat_ofNat_of_ne {code : Nat} (notNul : Char.ofNat code ≠ '\x00') :
    (Char.ofNat code).toNat = code := by
  by_cases valid : code.isValidChar
  · rw [Char.ofNat, dif_pos valid]
    rfl
  · rw [Char.ofNat, dif_neg valid] at notNul
    exact absurd rfl notNul

/-! ## Text in ASCII -/

/-- Whether a character is one of ASCII. -/
def IsAscii (c : Char) : Prop :=
  c.toNat < 128

instance (c : Char) : Decidable (IsAscii c) :=
  inferInstanceAs (Decidable (c.toNat < 128))

/-- What holds of the first 128 characters holds of every character of ASCII. -/
theorem IsAscii.of_checked
    {motive : Char → Prop}
    (checked : ∀ code < 128, motive (Char.ofNat code))
    {c : Char}
    (ascii : IsAscii c) :
    motive c := by
  rw [← Char.ofNat_toNat c]
  exact checked c.toNat ascii

/-- A character up to one of ASCII is one of ASCII. -/
theorem IsAscii.of_le
    {c : Char}
    {last : UInt32}
    (le : c.val ≤ last)
    (inside : last.toNat < 128) :
    IsAscii c :=
  Nat.lt_of_le_of_lt (UInt32.le_iff_toNat_le.mp le) inside

/-- Only letters of ASCII have a lower-case letter of ASCII. -/
theorem toLower_of_not_isAscii {c : Char} (beyond : ¬IsAscii c) : c.toLower = c :=
  dif_neg fun capital => beyond (.of_le capital.2 (by decide))

/-- Only letters of ASCII have a capital of ASCII. -/
theorem toUpper_of_not_isAscii {c : Char} (beyond : ¬IsAscii c) : c.toUpper = c :=
  dif_neg fun small => beyond (.of_le small.2 (by decide))

theorem lowerForm_of_isAscii {c : Char} (ascii : IsAscii c) : lowerForm c = [c.toLower] :=
  ascii.of_checked (motive := fun c => lowerForm c = [c.toLower]) (by decide +kernel)

theorem upperForm_of_isAscii {c : Char} (ascii : IsAscii c) : upperForm c = [c.toUpper] :=
  ascii.of_checked (motive := fun c => upperForm c = [c.toUpper]) (by decide +kernel)

theorem lowerAfter_of_isAscii {s : List Char} (ascii : ∀ c ∈ s, IsAscii c) (before : List Char) :
    lowerAfter before s = s.map Char.toLower := by
  induction s generalizing before with
  | nil => rfl
  | cons c s ih =>
      have first := ascii c List.mem_cons_self
      have notSigma : (c == 'Σ') = false := by
        rw [beq_eq_false_iff_ne]
        rintro rfl
        exact absurd first (by decide)
      rw [lowerAfter, ih fun other member => ascii other (List.mem_cons_of_mem c member), notSigma,
        if_neg Bool.false_ne_true, lowerForm_of_isAscii first]
      rfl

/-- Text in ASCII is lower-cased character by character. -/
theorem lower_of_isAscii {s : List Char} (ascii : ∀ c ∈ s, IsAscii c) :
    lower s = s.map Char.toLower :=
  lowerAfter_of_isAscii ascii []

end Text
end BoundSql
