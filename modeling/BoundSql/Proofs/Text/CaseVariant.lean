import BoundSql.Proofs.Text.Folding
import Mathlib.Data.List.Infix

/-!
# Words in any letter case

A text that folds to a word of ASCII is the word in another letter case, unless it holds one
of the few letters of other scripts that fold to letters of ASCII.  Folding replaces each
character by a form of its own, so every form stands within the folded text, and a form that
a word does not hold comes from no character of a text that folds to the word.

Of the letters from outside ASCII only the dotless i has a single capital that a keyword in
capitals may hold.
-/

namespace BoundSql
namespace Text

variable {word others s : List Char} {c : Char}

/-! ## Letter case of ASCII -/

theorem isAscii_toLower_iff : IsAscii c.toLower ↔ IsAscii c := by
  by_cases ascii : IsAscii c
  · refine iff_of_true ?_ ascii
    exact ascii.of_checked (motive := fun c => IsAscii c.toLower) (by decide +kernel)
  · rw [toLower_of_not_isAscii ascii]

@[simp] theorem toUpper_toLower (c : Char) : c.toLower.toUpper = c.toUpper := by
  by_cases ascii : IsAscii c
  · exact ascii.of_checked (motive := fun c => c.toLower.toUpper = c.toUpper) (by decide +kernel)
  · rw [toLower_of_not_isAscii ascii]

@[simp] theorem toLower_toUpper (c : Char) : c.toUpper.toLower = c.toLower := by
  by_cases ascii : IsAscii c
  · exact ascii.of_checked (motive := fun c => c.toUpper.toLower = c.toLower) (by decide +kernel)
  · rw [toUpper_of_not_isAscii ascii]

/-- Whether a text is a word with any of its letters of ASCII in the other case. -/
def IsCaseVariant (word s : List Char) : Prop :=
  s.map Char.toLower = word.map Char.toLower

instance (word s : List Char) : Decidable (IsCaseVariant word s) :=
  inferInstanceAs (Decidable (_ = _))

/-- A word in ASCII is one in ASCII in any letter case. -/
theorem IsCaseVariant.isAscii
    (variant : IsCaseVariant word s)
    (ascii : ∀ c ∈ word, IsAscii c) :
    ∀ c ∈ s, IsAscii c := by
  intro c member
  have lowered : c.toLower ∈ word.map Char.toLower := variant ▸ List.mem_map_of_mem member
  obtain ⟨letter, inWord, same⟩ := List.mem_map.mp lowered
  rw [← isAscii_toLower_iff, ← same, isAscii_toLower_iff]
  exact ascii letter inWord

/-- A word in capitals in any letter case is what has it as its capitals. -/
theorem isCaseVariant_iff_map_toUpper (capitals : word.map Char.toUpper = word) :
    IsCaseVariant word s ↔ s.map Char.toUpper = word := by
  constructor
  · intro variant
    calc
      s.map Char.toUpper = (s.map Char.toLower).map Char.toUpper := by simp [Function.comp_def]
      _ = (word.map Char.toLower).map Char.toUpper := by rw [variant]
      _ = word := by simpa [Function.comp_def] using capitals
  · rintro rfl
    simp [IsCaseVariant, Function.comp_def]

/-! ## Letters that fold into a word -/

/-- Whether a run moves no character from outside ASCII into a word, except for given ones. -/
def Spares (word others : List Char) (run : CaseRun) : Prop :=
  run.last < 128 ∨ 128 ≤ run.first + run.shift ∨
    run.first = run.last ∧ (Char.ofNat run.first ∈ others ∨
      Char.ofNat (run.first + run.shift).toNat ∉ word)

instance (word others : List Char) (run : CaseRun) : Decidable (Spares word others run) :=
  inferInstanceAs (Decidable (_ ∨ _ ∨ _))

/-- Whether only letters of ASCII fold into a word of ASCII, except for given ones. -/
structure FoldsOnly
    (expansions : List (Nat × List Nat))
    (runs : List CaseRun)
    (word others : List Char) : Prop where
  ascii : ∀ c ∈ word, IsAscii c ∧ c ≠ '\x00'
  expands : ∀ entry ∈ expansions, ¬entry.2.map Char.ofNat <:+: word
  moves : ∀ run ∈ runs, Spares word others run

/-- A character whose form stands within such a word is one of ASCII, or a given one. -/
theorem FoldsOnly.isAscii_or_mem
    {expansions : List (Nat × List Nat)}
    {runs : List CaseRun}
    (folds : FoldsOnly expansions runs word others)
    (within : caseForm expansions runs c <:+: word) :
    IsAscii c ∨ c ∈ others := by
  rcases caseForm_cases expansions runs c with
    ⟨codes, inTable, form_eq⟩ | ⟨run, inTable, code, formed, form_eq⟩ | form_eq
  · rw [form_eq] at within
    exact absurd within (folds.expands _ inTable)
  · rw [form_eq] at within
    have inWord := within.subset List.mem_cons_self
    obtain ⟨ascii, notNul⟩ := folds.ascii _ inWord
    obtain ⟨atLeast, atMost, rfl⟩ := form?_eq_some formed
    rcases folds.moves run inTable with inAscii | beyond | ⟨single, spared⟩
    · exact .inl (Nat.lt_of_le_of_lt atMost inAscii)
    · rw [IsAscii, toNat_ofNat_of_ne notNul] at ascii
      omega
    · obtain same : run.first = c.toNat := by omega
      rw [same, Char.ofNat_toNat] at spared
      exact .inr (spared.resolve_right (not_not_intro inWord))
  · rw [form_eq] at within
    exact .inl (folds.ascii c (within.subset List.mem_cons_self)).1

/-! ## Lower case -/

/-- A text that folds to such a word is in ASCII. -/
theorem FoldsOnly.isAscii_of_lowerAfter
    (folds : FoldsOnly lowerExpansions lowerRuns word [])
    {before : List Char}
    (within : lowerAfter before s <:+: word) :
    ∀ c ∈ s, IsAscii c := by
  induction s generalizing before with
  | nil => nofun
  | cons c s isAscii =>
      rw [lowerAfter] at within
      have first := (List.prefix_append _ _).isInfix.trans within
      have rest := (List.suffix_append _ _).isInfix.trans within
      refine List.forall_mem_cons.mpr ⟨?_, isAscii rest⟩
      split at first
      · -- The forms of a sigma are no letters of the word.
        split at first
        · exact absurd (folds.ascii 'ς' (first.subset List.mem_cons_self)).1 (by decide)
        · exact absurd (folds.ascii 'σ' (first.subset List.mem_cons_self)).1 (by decide)
      · exact (folds.isAscii_or_mem first).resolve_right List.not_mem_nil

/-- A text folds to such a word in lower case exactly when it is the word in any letter case. -/
theorem FoldsOnly.lower_eq_iff
    (folds : FoldsOnly lowerExpansions lowerRuns word [])
    (small : word.map Char.toLower = word) :
    lower s = word ↔ IsCaseVariant word s := by
  rw [IsCaseVariant, small]
  constructor
  · intro folded
    have within : lowerAfter [] s <:+: word := by
      rw [← folded]
      exact List.infix_rfl
    rw [← folded, lower_of_isAscii (folds.isAscii_of_lowerAfter within)]
  · intro lowered
    have variant : IsCaseVariant word s := lowered.trans small.symm
    rw [lower_of_isAscii (variant.isAscii fun c member => (folds.ascii c member).1), lowered]

/-! ## Upper case -/

/-- Every form of a character stands within the upper-case form of a text. -/
theorem upperForm_infix_upper (member : c ∈ s) : upperForm c <:+: upper s :=
  List.infix_of_mem_flatten (List.mem_map_of_mem member)

/-- A character with a dot if it is the dotless i. -/
def dotted (c : Char) : Char :=
  if c = 'ı' then 'i' else c

theorem map_dotted_of_not_mem (noDotless : 'ı' ∉ s) : s.map dotted = s := by
  have kept : ∀ c ∈ s, dotted c = c := by
    intro c member
    rw [dotted, if_neg]
    rintro rfl
    exact noDotless member
  rw [List.map_congr_left kept, List.map_id']

/-- The dotless i and the i with its dot have one capital. -/
theorem upper_eq_map_dotted (letters : ∀ c ∈ s, IsAscii c ∨ c = 'ı') :
    upper s = (s.map dotted).map Char.toUpper := by
  induction s with
  | nil => rfl
  | cons c s upperRest =>
      obtain ⟨first, rest⟩ := List.forall_mem_cons.mp letters
      have form_eq : upperForm c = [(dotted c).toUpper] := by
        rcases first with ascii | rfl
        · rw [dotted, if_neg (by rintro rfl; exact absurd ascii (by decide)),
            upperForm_of_isAscii ascii]
        · decide +kernel
      rw [upper, List.flatMap_cons, form_eq, ← upper, upperRest rest]
      rfl

/-- A text has such a word as its capitals exactly when it is the word in any letter case, in which
an i may be dotless. -/
theorem FoldsOnly.upper_eq_iff
    (folds : FoldsOnly upperExpansions upperRuns word ['ı'])
    (capitals : word.map Char.toUpper = word) :
    upper s = word ↔ IsCaseVariant word (s.map dotted) := by
  rw [isCaseVariant_iff_map_toUpper capitals]
  constructor
  · rintro rfl
    refine (upper_eq_map_dotted fun c member => ?_).symm
    exact (folds.isAscii_or_mem (upperForm_infix_upper member)).imp_right List.mem_singleton.mp
  · intro upperCased
    have variant := (isCaseVariant_iff_map_toUpper capitals).mpr upperCased
    rw [upper_eq_map_dotted, upperCased]
    intro c member
    by_cases dotless : c = 'ı'
    · exact .inr dotless
    · have ascii := variant.isAscii (fun c member => (folds.ascii c member).1) (dotted c)
        (List.mem_map_of_mem member)
      rw [dotted, if_neg dotless] at ascii
      exact .inl ascii

end Text
end BoundSql
