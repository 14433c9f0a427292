import BoundSql.Proofs.Argument.Spelling

/-!
# Qualifiers in front of types

The qualifier of a type is dropped with everything up to the last point of a spelling.
So a qualifier in front of a word is never noticed.  In front of an optional type it is:
the brackets are looked for at the beginning of a spelling only, before the qualifier is
dropped.  What is left behind the last point then ends in a bracket, which is the name of
no type, and the spelling is read as one of text that is not optional.
-/

namespace BoundSql
namespace Text

/-! ## Brackets in lower case

The lower-case form of a text may be longer than the text, and that of a sigma depends on
its neighbours.  No form of another character has an opening bracket in it.
-/

theorem eq_toNat_of_ofNat {code : Nat} (made : Char.ofNat code = '[') : code = '['.toNat := by
  have notNul : Char.ofNat code ≠ '\x00' := by
    rw [made]
    decide
  rw [← made, toNat_ofNat_of_ne notNul]

/-- The codes in the expansions to lower case are none of a bracket. -/
theorem bracket_not_mem_expansion :
    ∀ entry ∈ lowerExpansions, '['.toNat ∉ entry.2 := by
  decide

/-- The runs of letters with a lower-case form all end up behind the bracket. -/
theorem bracket_lt_target :
    ∀ run ∈ lowerRuns, ('['.toNat : Int) < run.first + run.shift := by
  decide +kernel

theorem ne_bracket_of_form? {run : CaseRun} (inTable : run ∈ lowerRuns) {code form : Nat}
    (formed : run.form? code = some form) : form ≠ '['.toNat := by
  have behind := bracket_lt_target run inTable
  obtain ⟨atLeast, _, rfl⟩ := form?_eq_some formed
  omega

/-- Only a bracket has a bracket in its lower-case form. -/
theorem bracket_not_mem_lowerForm {c : Char} (other : c ≠ '[') : '[' ∉ lowerForm c := by
  intro member
  rcases caseForm_cases lowerExpansions lowerRuns c with
    ⟨codes, inTable, form_eq⟩ | ⟨run, inTable, code, formed, form_eq⟩ | form_eq
  all_goals rw [lowerForm, form_eq] at member
  · obtain ⟨code, inCodes, made⟩ := List.mem_map.mp member
    rw [eq_toNat_of_ofNat made] at inCodes
    exact bracket_not_mem_expansion _ inTable inCodes
  · apply ne_bracket_of_form? inTable formed
    exact eq_toNat_of_ofNat (List.mem_singleton.mp member).symm
  · exact other (List.mem_singleton.mp member).symm

/-- A text without brackets in front of text in ASCII is lower-cased to some text without brackets
in front of the lower-case form of the other. -/
theorem exists_lowerAfter_append
    {s ascii : List Char}
    (noBracket : '[' ∉ s)
    (isAscii : ∀ c ∈ ascii, IsAscii c)
    (before : List Char) :
    ∃ form, '[' ∉ form ∧ lowerAfter before (s ++ ascii) = form ++ ascii.map Char.toLower := by
  induction s generalizing before with
  | nil => exact ⟨[], List.not_mem_nil, lowerAfter_of_isAscii isAscii before⟩
  | cons c s lowered =>
      rw [List.mem_cons, not_or] at noBracket
      obtain ⟨form, absent, rest⟩ := lowered noBracket.2 (c :: before)
      rw [List.cons_append, lowerAfter, rest, ← List.append_assoc]
      refine ⟨_, ?_, rfl⟩
      rw [List.mem_append, not_or]
      refine ⟨?_, absent⟩
      split
      · split <;> decide
      · exact bracket_not_mem_lowerForm (Ne.symm noBracket.1)

end Text

namespace TagSpelling

open Text

variable {name s : List Char} {optional : Bool}

/-! ## Optional types behind a point -/

/-- A word without a point is only dropped from what precedes the first point. -/
theorem exists_of_dropWord?_point
    {word before after rest : List Char}
    (noPoint : '.' ∉ word)
    (dropped : dropWord? word (before ++ '.' :: after) = some rest) :
    ∃ left, left ⊆ before ∧ rest = left ++ '.' :: after := by
  induction word generalizing before with
  | nil =>
      cases dropped
      exact ⟨before, List.Subset.refl before, rfl⟩
  | cons letter word drops =>
      rw [List.mem_cons, not_or] at noPoint
      cases before with
      | nil =>
          have isNoLetter : isLetter letter '.' = false := by
            simp [isLetter, noPoint.1]
          rw [List.nil_append, dropWord?, isNoLetter] at dropped
          cases dropped
      | cons c before =>
          rw [List.cons_append, dropWord?] at dropped
          split at dropped
          · obtain ⟨left, inBefore, rest_eq⟩ := drops noPoint.2 dropped
            exact ⟨left, List.subset_cons_of_subset c inBefore, rest_eq⟩
          · cases dropped

/-- An optional type is not found when a point precedes its bracket. -/
theorem optionalType?_of_point
    {before after : List Char}
    (noBracket : '[' ∉ before) :
    optionalType? (before ++ '.' :: after) = none := by
  apply optionalType?_eq_none
  intro rest inside dropped found
  obtain ⟨left, inBefore, rfl⟩ := exists_of_dropWord?_point (by decide) dropped
  have point : ('.' :: after).dropWhile isBlank = '.' :: after := by
    apply List.dropWhile_cons_of_neg
    decide
  rw [List.dropWhile_append, point] at found
  split at found
  · cases found
  · rename_i kept
    -- What is left in front of the point is not all blank, so the bracket would be in it.
    cases start : left.dropWhile isBlank with
    | nil =>
        rw [start] at kept
        exact kept rfl
    | cons c more =>
        rw [start, List.cons_append] at found
        have inLeft : c ∈ left :=
          (List.dropWhile_suffix isBlank).subset (start ▸ List.mem_cons_self)
        rw [(List.cons.inj found).1] at inLeft
        exact noBracket (inBefore inLeft)

/-! ## What is read behind a qualifier -/

/-- Whether a character may stand in a qualifier: neither a blank nor a quote nor an opening
bracket.  The characters of identifiers in any script and the points between identifiers may. -/
def isQualifying (c : Char) : Bool :=
  !isBlank c && c != '"' && c != '['

theorem isQualifying_iff {c : Char} :
    isQualifying c = true ↔ isBlank c = false ∧ (c == '"') = false ∧ c ≠ '[' := by
  simp [isQualifying, and_assoc]

/-- Behind a qualifier, what is read is the name behind the last point. -/
theorem readLoose_qualified
    {qualifier : List Char}
    (qualifies : ∀ c ∈ qualifier, isQualifying c = true)
    (wraps : Wraps name optional s) :
    readLoose (qualifier ++ '.' :: s) =
      ⟨tagOfName (String.ofList (lastSegment (s.map Char.toLower))),
        tagOfName (String.ofList (lastSegment (s.map Char.toLower))) == .null⟩ := by
  have unblank : Trimmed isBlank (qualifier ++ '.' :: s) := by
    apply Trimmed.append
    · exact trimmed_of_forall fun c member => (isQualifying_iff.mp (qualifies c member)).1
    · apply Trimmed.append (trimmed_of_forall (List.forall_mem_singleton.mpr rfl))
      exact wraps.trimmed (fun c isName => (outside_of_isName isName).1) (by decide)
  have unquoted : Trimmed (· == '"') (qualifier ++ '.' :: s) := by
    apply Trimmed.append
    · exact trimmed_of_forall fun c member => (isQualifying_iff.mp (qualifies c member)).2.1
    · apply Trimmed.append (trimmed_of_forall (List.forall_mem_singleton.mpr rfl))
      exact wraps.trimmed (fun c isName => (outside_of_isName isName).2.1) (by decide)
  have stripped : trimBy isBlank ([] ++ (qualifier ++ '.' :: s) ++ []) = qualifier ++ '.' :: s :=
    unblank.trimBy_eq nofun nofun
  have bare : trimBy (· == '"') ([] ++ (qualifier ++ '.' :: s) ++ []) = qualifier ++ '.' :: s :=
    unquoted.trimBy_eq nofun nofun
  rw [List.nil_append, List.append_nil] at stripped bare
  have noBracket : '[' ∉ qualifier := fun member =>
    (isQualifying_iff.mp (qualifies _ member)).2.2 rfl
  have isAscii : ∀ c ∈ '.' :: s, IsAscii c :=
    List.forall_mem_cons.mpr ⟨by decide, wraps.isAscii⟩
  obtain ⟨form, absent, lowered⟩ := exists_lowerAfter_append noBracket isAscii []
  have point : '.'.toLower = '.' := by decide
  rw [List.map_cons, point] at lowered
  rw [readLoose, strip, stripped, bare, lower, lowered, optionalType?_of_point absent]
  dsimp only
  rw [lastSegment_qualified, Bool.false_or]

/-- The last segment ends as the text does. -/
theorem lastSegment_concat {c : Char} (noPoint : c ≠ '.') (s : List Char) :
    lastSegment (s ++ [c]) = lastSegment s ++ [c] := by
  have passes : (c != '.') = true := bne_iff_ne.mpr noPoint
  rw [lastSegment, List.reverse_append, List.reverse_singleton, List.singleton_append,
    List.takeWhile_cons, if_pos passes, List.reverse_cons]
  rfl

/-- No name of a type has a bracket. -/
theorem tagOfName_of_bracket {name : String} (bracket : ']' ∈ name.toList) :
    tagOfName name = .text := by
  have unbracketed : ∀ known ∈ integerNames ++ floatNames ++ ["null", "column", "date", "datetime"],
      ']' ∉ known.toList := by
    decide
  have unknown : name ∉ integerNames ++ floatNames ++ ["null", "column", "date", "datetime"] :=
    fun member => unbracketed name member bracket
  simp only [List.mem_append, List.mem_cons, List.not_mem_nil, or_false, not_or] at unknown
  simp [tagOfName, unknown]

/-- A bracket that closes an optional type is left behind the last point. -/
theorem tagOfName_of_optional (wraps : Wraps name true s) :
    tagOfName (String.ofList (lastSegment (s.map Char.toLower))) = .text := by
  cases wraps with
  | @optional wrapper gap left inside right _ _ _ =>
      have closes : (wrapper ++ gap ++ '[' :: (left ++ inside ++ right ++ [']'])).map Char.toLower =
          (wrapper ++ gap ++ '[' :: (left ++ inside ++ right)).map Char.toLower ++ [']'] := by
        simp
      apply tagOfName_of_bracket
      rw [closes, lastSegment_concat (by decide), String.toList_ofList]
      exact List.mem_append_right _ (List.mem_singleton_self _)

theorem readLoose_of_wraps (wraps : Wraps name optional s) :
    readLoose s = ⟨tagOfName (String.ofList name),
      optional || tagOfName (String.ofList name) == .null⟩ := by
  have spells : Spells name optional ([] ++ ([] ++ s ++ []) ++ []) :=
    .quoted 0 0 wraps nofun
  rw [List.append_nil, List.append_nil] at spells
  exact readLoose_of_spells spells

/-- A qualifier in front of a word for a type does not change what is read.  In front of an optional
type it always does: the type is read as text that is not optional. -/
theorem reading_qualified
    {qualifier spelling : String}
    (qualifies : ∀ c ∈ qualifier.toList, isQualifying c = true)
    (wraps : Wraps name optional spelling.toList) :
    (loose (qualifier ++ "." ++ spelling)).reading =
        (if optional then ⟨.text, false⟩ else (loose spelling).reading) ∧
      ((loose (qualifier ++ "." ++ spelling)).reading = (loose spelling).reading ↔
        optional = false) := by
  have joined : (qualifier ++ "." ++ spelling).toList =
      qualifier.toList ++ '.' :: spelling.toList := by
    simp
  rw [reading, reading, joined, readLoose_qualified qualifies wraps, readLoose_of_wraps wraps]
  cases optional with
  | false =>
      cases wraps with
      | bare names =>
          rw [names.lastSegment_lower, Bool.false_or]
          exact ⟨rfl, iff_of_true rfl rfl⟩
  | true =>
      rw [tagOfName_of_optional wraps]
      refine ⟨rfl, iff_of_false ?_ (by decide)⟩
      intro same
      have nullable := congrArg TagReading.nullable same
      cases nullable

/-- A qualified word is read as the word, a qualified optional type as text. -/
theorem reading_qualified_typing :
    (∀ c ∈ "Éléments.Σ".toList, isQualifying c = true) ∧
      Wraps "int64".toList false "Int64".toList ∧
      (loose ("Éléments.Σ" ++ "." ++ "Int64")).reading = (loose "Int64").reading ∧
      (∀ c ∈ "typing".toList, isQualifying c = true) ∧
      Wraps "int".toList true "Optional[int]".toList ∧
      (loose ("typing" ++ "." ++ "Optional[int]")).reading = ⟨.text, false⟩ := by
  have letters : ∀ c ∈ "Éléments.Σ".toList, isQualifying c = true := List.all_eq_true.mp rfl
  have typing : ∀ c ∈ "typing".toList, isQualifying c = true := List.all_eq_true.mp rfl
  have word : Wraps "int64".toList false "Int64".toList :=
    .bare (.word (List.all_eq_true.mp rfl) rfl)
  have bracketed : Wraps "int".toList true ("Optional".toList ++ [] ++
      '[' :: ([] ++ "int".toList ++ [] ++ [']'])) :=
    .optional rfl nofun (.word (List.all_eq_true.mp rfl) rfl)
  have wrapped : Wraps "int".toList true "Optional[int]".toList := bracketed
  exact ⟨letters, word, (reading_qualified letters word).1, typing, wrapped,
    (reading_qualified typing wrapped).1⟩

/-- Qualified by its module, an optional whole number is read as text that is not optional. -/
theorem reading_typing_ne :
    (loose "Optional[int]").reading = ⟨.integer, true⟩ ∧
      (loose "typing.Optional[int]").reading = ⟨.text, false⟩ ∧
      (loose "typing.Optional[int]").reading ≠ (loose "Optional[int]").reading := by
  have unqualified : (loose "Optional[int]").reading = ⟨.integer, true⟩ := by
    decide +kernel
  have qualified : (loose "typing.Optional[int]").reading = ⟨.text, false⟩ := by
    decide +kernel
  refine ⟨unqualified, qualified, ?_⟩
  rw [unqualified, qualified]
  decide

end TagSpelling
end BoundSql
