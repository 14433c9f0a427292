import BoundSql.Argument.Codec
import BoundSql.Proofs.Text.CaseVariant

/-!
# Spellings that name the same type

A type is spelled by a word in any letter case, which may be qualified and wrapped as
optional, with quotes and blanks around the whole.  Reading takes all of this off again
and is left with the word in lower case, so that decoding does not depend on the
spelling.  The wrapper alone is noticed, by what the null text stands for.
-/

namespace BoundSql
namespace Text

/-! ## Lower case of ASCII -/

/-- Lower-casing text in ASCII again changes nothing. -/
theorem lower_map_toLower {s : List Char} (ascii : ∀ c ∈ s, IsAscii c) :
    lower (s.map Char.toLower) = s.map Char.toLower := by
  have lowered : ∀ c ∈ s.map Char.toLower, IsAscii c := by
    intro c member
    obtain ⟨given, inText, rfl⟩ := List.mem_map.mp member
    exact isAscii_toLower_iff.mpr (ascii given inText)
  rw [lower_of_isAscii lowered, List.map_map]
  apply List.map_congr_left
  intro c inText
  exact (ascii c inText).of_checked (motive := fun c => c.toLower.toLower = c.toLower)
    (by decide +kernel)

end Text

namespace TagSpelling

open Text

/-! ## Characters of names -/

/-- Whether a character stands in identifiers: a letter or digit of ASCII, or an underscore. -/
def isIdentifier (c : Char) : Bool :=
  c.isAlphanum || c == '_'

/-- Whether a character stands in the name of a type: in an identifier or between two. -/
def isName (c : Char) : Bool :=
  isIdentifier c || c == '.'

/-- Whether a character is a space or a tab. -/
def isGap (c : Char) : Bool :=
  c == ' ' || c == '\t'

/-- Letters and digits, as they are told here, are characters of ASCII. -/
theorem isAscii_of_isAlphanum {c : Char} (alphanumeric : c.isAlphanum = true) : IsAscii c := by
  rcases Bool.or_eq_true_iff.mp alphanumeric with letter | digit
  · rcases Bool.or_eq_true_iff.mp letter with capital | small
    · exact .of_le (of_decide_eq_true capital).2 (by decide)
    · exact .of_le (of_decide_eq_true (Bool.and_eq_true_iff.mp small).2) (by decide)
  · exact .of_le (of_decide_eq_true (Bool.and_eq_true_iff.mp digit).2) (by decide)

theorem isAscii_of_isName {c : Char} (name : isName c = true) : IsAscii c := by
  simp only [isName, isIdentifier, Bool.or_eq_true, beq_iff_eq] at name
  rcases name with (alphanumeric | rfl) | rfl
  · exact isAscii_of_isAlphanum alphanumeric
  · decide
  · decide

theorem isName_toLower (c : Char) : isName c.toLower = isName c := by
  by_cases ascii : IsAscii c
  · exact ascii.of_checked (motive := fun c => isName c.toLower = isName c) (by decide +kernel)
  · have noName := Bool.eq_false_iff.mpr (mt isAscii_of_isName ascii)
    have noLowerName :=
      Bool.eq_false_iff.mpr (mt isAscii_of_isName (mt isAscii_toLower_iff.mp ascii))
    rw [noName, noLowerName]

/-- Characters of names are neither trimmed nor taken for a bracket. -/
theorem outside_of_isName {c : Char} (name : isName c = true) :
    isBlank c = false ∧ (c == '"') = false ∧ c ≠ '[' ∧ c ≠ '\n' :=
  (isAscii_of_isName name).of_checked
    (motive := fun c => isName c = true →
      isBlank c = false ∧ (c == '"') = false ∧ c ≠ '[' ∧ c ≠ '\n')
    (by decide +kernel) name

theorem toLower_ne_point {c : Char} (letter : c.isAlphanum = true) : c.toLower ≠ '.' := by
  have name : isName c = true := by simp [isName, isIdentifier, letter]
  exact (isAscii_of_isName name).of_checked
    (motive := fun c => c.isAlphanum = true → c.toLower ≠ '.') (by decide +kernel) letter

theorem isGap_iff {c : Char} : isGap c = true ↔ c = ' ' ∨ c = '\t' := by
  rw [isGap, Bool.or_eq_true, beq_iff_eq, beq_iff_eq]

/-- Spaces and tabs are trimmed, and they have no letter case. -/
theorem blank_of_isGap {c : Char} (gap : isGap c = true) :
    isBlank c = true ∧ c.toLower = c ∧ IsAscii c ∧ c ≠ '\n' := by
  obtain rfl | rfl := isGap_iff.mp gap
  · decide
  · decide

/-! ## Spellings -/

/-- Whether a text names a type: by the word for it in any letter case, which may be qualified by
identifiers. -/
inductive Names (name : List Char) : List Char → Prop
  | word {word : List Char}
      (letters : ∀ c ∈ word, c.isAlphanum = true)
      (lowered : word.map Char.toLower = name) :
      Names name word
  | qualified {segment rest : List Char}
      (identifier : ∀ c ∈ segment, isIdentifier c = true)
      (names : Names name rest) :
      Names name (segment ++ '.' :: rest)

/-- Whether a text names a type, and whether it names it between the brackets of an optional one. -/
inductive Wraps (name : List Char) : Bool → List Char → Prop
  | bare {s : List Char} (names : Names name s) : Wraps name false s
  | optional {wrapper gap left s right : List Char}
      (wraps : wrapper.map Char.toLower = "optional".toList)
      (gaps : ∀ c ∈ gap ++ left ++ right, isGap c = true)
      (names : Names name s) :
      Wraps name true (wrapper ++ gap ++ '[' :: (left ++ s ++ right ++ [']']))

/-- Whether a text spells a type: with quotes around what names it, and spaces and tabs around
these. -/
inductive Spells (name : List Char) (optional : Bool) : List Char → Prop
  | quoted {before s after : List Char} (opening closing : Nat)
      (wraps : Wraps name optional s)
      (gaps : ∀ c ∈ before ++ after, isGap c = true) :
      Spells name optional
        (before ++ (List.replicate opening '"' ++ s ++ List.replicate closing '"') ++ after)

variable {name s : List Char} {optional : Bool}

theorem Names.isName (names : Names name s) : ∀ c ∈ s, isName c = true := by
  induction names with
  | word letters _ =>
      intro c member
      simp [TagSpelling.isName, isIdentifier, letters c member]
  | @qualified segment rest identifier _ isNameRest =>
      intro c member
      obtain inSegment | isPoint | inRest := by
        simpa only [List.mem_append, List.mem_cons] using member
      · simp [TagSpelling.isName, identifier c inSegment]
      · rw [isPoint]
        rfl
      · exact isNameRest c inRest

theorem Names.isAscii (names : Names name s) : ∀ c ∈ s, IsAscii c :=
  fun c member => isAscii_of_isName (names.isName c member)

theorem Names.isName_lower (names : Names name s) :
    ∀ c ∈ s.map Char.toLower, TagSpelling.isName c = true := by
  intro lowered member
  obtain ⟨c, inName, rfl⟩ := List.mem_map.mp member
  rw [isName_toLower]
  exact names.isName c inName

/-! ## What is left of a name -/

/-- A qualifier is dropped. -/
theorem lastSegment_qualified (segment rest : List Char) :
    lastSegment (segment ++ '.' :: rest) = lastSegment rest := by
  have stops : ('.' :: segment.reverse).takeWhile (· != '.') = [] := rfl
  rw [lastSegment, List.reverse_append, List.reverse_cons, List.append_assoc,
    List.singleton_append, List.takeWhile_append, stops, List.append_nil]
  split
  · rename_i whole
    rw [lastSegment, (List.takeWhile_prefix _).eq_of_length whole]
  · rfl

theorem lastSegment_of_no_point (noPoint : '.' ∉ s) : lastSegment s = s := by
  have passes : ∀ c ∈ s.reverse, (c != '.') = true := by
    intro c member
    rw [bne_iff_ne]
    rintro rfl
    exact noPoint (List.mem_reverse.mp member)
  rw [lastSegment, List.takeWhile_eq_self_iff.mpr passes, List.reverse_reverse]

/-- In lower case, what is behind the qualifiers of a name is the word. -/
theorem Names.lastSegment_lower (names : Names name s) :
    lastSegment (s.map Char.toLower) = name := by
  induction names with
  | @word word letters lowered =>
      have noPoint : '.' ∉ word.map Char.toLower := by
        rw [List.mem_map]
        rintro ⟨c, member, point⟩
        exact toLower_ne_point (letters c member) point
      rw [lastSegment_of_no_point noPoint, lowered]
  | qualified _ _ dropped =>
      rw [List.map_append, List.map_cons]
      exact (lastSegment_qualified _ _).trans dropped

/-! ## What is read from the brackets -/

theorem isSuffix_of_dropWord? {word s rest : List Char} (dropped : dropWord? word s = some rest) :
    rest <:+ s := by
  fun_induction dropWord? word s with
  | case1 s =>
      cases dropped
      exact List.suffix_refl _
  | case2 letter word c s _ behind => exact (behind dropped).trans (List.suffix_cons c s)
  | case3 | case4 => cases dropped

/-- Without a bracket behind the word there is no optional type. -/
theorem optionalType?_eq_none
    (unbracketed : ∀ rest inside, dropWord? "optional".toList s = some rest →
      rest.dropWhile isBlank ≠ '[' :: inside) :
    optionalType? s = none := by
  cases dropped : dropWord? "optional".toList s with
  | none => rw [optionalType?, dropped]; rfl
  | some rest =>
      rw [optionalType?, dropped]
      dsimp only [Option.bind_eq_bind, Option.bind_some]
      split
      · rename_i inside found
        exact absurd found (unbracketed rest inside dropped)
      · rfl

/-- Without any bracket there is no optional type. -/
theorem optionalType?_of_no_bracket (noBracket : '[' ∉ s) : optionalType? s = none := by
  apply optionalType?_eq_none
  intro rest inside dropped found
  have inRest : '[' ∈ rest.dropWhile isBlank := found ▸ List.mem_cons_self
  have inText := (List.dropWhile_suffix isBlank).trans (isSuffix_of_dropWord? dropped)
  exact noBracket (inText.subset inRest)

/-- The brackets of an optional type are taken off. -/
theorem optionalType?_optional
    {gap inside : List Char}
    (blank : ∀ c ∈ gap, isBlank c = true)
    (oneLine : '\n' ∉ inside) :
    optionalType? ("optional".toList ++ gap ++ '[' :: (inside ++ [']'])) = some inside := by
  have dropped : dropWord? "optional".toList
      ("optional".toList ++ gap ++ '[' :: (inside ++ [']'])) =
        some (gap ++ '[' :: (inside ++ [']'])) := by
    rw [List.append_assoc]
    rfl
  have bracket : (gap ++ '[' :: (inside ++ [']'])).dropWhile isBlank =
      '[' :: (inside ++ [']']) := by
    rw [List.dropWhile_append_of_pos blank]
    rfl
  have closed : beforeClosing? (inside ++ [']']) = some inside := by
    rw [beforeClosing?, List.reverse_append, List.reverse_singleton, List.singleton_append]
    exact congrArg some (List.reverse_reverse inside)
  rw [optionalType?, dropped]
  dsimp only [Option.bind_eq_bind, Option.bind_some]
  rw [bracket]
  change (beforeClosing? (inside ++ [']'])).bind _ = _
  rw [closed]
  exact if_neg (mt List.contains_iff_mem.mp oneLine)

/-! ## What is read from a spelling -/

theorem isName_of_wraps
    {wrapper : List Char}
    (wraps : wrapper.map Char.toLower = "optional".toList) :
    ∀ c ∈ wrapper, isName c = true := by
  intro c member
  have lowered : c.toLower ∈ "optional".toList := wraps ▸ List.mem_map_of_mem member
  have letters : "optional".toList.all isName = true := rfl
  rw [← isName_toLower]
  exact List.all_eq_true.mp letters c.toLower lowered

/-- No end of what names a type is trimmed. -/
theorem Wraps.trimmed
    (wraps : Wraps name optional s)
    {test : Char → Bool}
    (outside : ∀ c, isName c = true → test c = false)
    (bracket : test ']' = false) :
    Trimmed test s := by
  cases wraps with
  | bare names => exact trimmed_of_forall fun c member => outside c (names.isName c member)
  | @optional wrapper gap left inside right wraps _ _ =>
      constructor
      · cases wrapper with
        | nil => cases wraps
        | cons c wrapper =>
            exact startsOutside_cons (outside c (isName_of_wraps wraps c List.mem_cons_self))
      · rw [List.reverse_append, List.reverse_cons, List.reverse_append, List.reverse_singleton]
        exact startsOutside_cons bracket

theorem Wraps.isAscii (wraps : Wraps name optional s) : ∀ c ∈ s, IsAscii c := by
  cases wraps with
  | bare names => exact names.isAscii
  | @optional wrapper gap left inside right wraps gaps names =>
      have gapAscii := fun c member => (blank_of_isGap (gaps c member)).2.2.1
      simp only [List.forall_mem_append, List.forall_mem_cons] at gapAscii ⊢
      refine ⟨⟨fun c member => isAscii_of_isName (isName_of_wraps wraps c member), gapAscii.1.1⟩,
        by decide, ⟨⟨gapAscii.1.2, names.isAscii⟩, gapAscii.2⟩, by decide, nofun⟩

theorem map_toLower_of_isGap {gap : List Char} (gaps : ∀ c ∈ gap, isGap c = true) :
    gap.map Char.toLower = gap := by
  have unchanged : ∀ c ∈ gap, c.toLower = id c :=
    fun c member => (blank_of_isGap (gaps c member)).2.1
  rw [List.map_congr_left unchanged, List.map_id]

/-- In lower case, a bare name is no optional type. -/
theorem Names.optionalType?_lower (names : Names name s) :
    optionalType? (s.map Char.toLower) = none := by
  apply optionalType?_of_no_bracket
  intro bracket
  exact (outside_of_isName (names.isName_lower _ bracket)).2.2.1 rfl

/-- In lower case, a name in the brackets of an optional type is found with the gaps around it. -/
theorem Names.optionalType?_lower_wrapped
    (names : Names name s)
    {wrapper gap left right : List Char}
    (wraps : wrapper.map Char.toLower = "optional".toList)
    (gaps : ∀ c ∈ gap ++ left ++ right, isGap c = true) :
    optionalType? ((wrapper ++ gap ++ '[' :: (left ++ s ++ right ++ [']'])).map Char.toLower) =
      some (left ++ s.map Char.toLower ++ right) := by
  simp only [List.forall_mem_append] at gaps
  obtain ⟨⟨inGap, inLeft⟩, inRight⟩ := gaps
  have oneLine : '\n' ∉ left ++ s.map Char.toLower ++ right := by
    simp only [List.mem_append, not_or]
    refine ⟨⟨fun member => ?_, fun member => ?_⟩, fun member => ?_⟩
    · exact (blank_of_isGap (inLeft _ member)).2.2.2 rfl
    · exact (outside_of_isName (names.isName_lower _ member)).2.2.2 rfl
    · exact (blank_of_isGap (inRight _ member)).2.2.2 rfl
  have lowered : (wrapper ++ gap ++ '[' :: (left ++ s ++ right ++ [']'])).map Char.toLower =
      "optional".toList ++ gap ++ '[' :: (left ++ s.map Char.toLower ++ right ++ [']']) := by
    simp only [List.map_append, List.map_cons, List.map_nil, wraps, map_toLower_of_isGap inGap,
      map_toLower_of_isGap inLeft, map_toLower_of_isGap inRight]
    rfl
  rw [lowered]
  exact optionalType?_optional (fun c member => (blank_of_isGap (inGap c member)).1) oneLine

theorem Names.strip_lower
    (names : Names name s)
    {left right : List Char}
    (gaps : ∀ c ∈ left ++ right, isGap c = true) :
    strip (left ++ s.map Char.toLower ++ right) = s.map Char.toLower := by
  have trimmed : Trimmed isBlank (s.map Char.toLower) :=
    trimmed_of_forall fun c member => (outside_of_isName (names.isName_lower c member)).1
  refine trimmed.trimBy_eq ?_ ?_
  · exact fun c member => (blank_of_isGap (gaps c (List.mem_append_left _ member))).1
  · exact fun c member => (blank_of_isGap (gaps c (List.mem_append_right _ member))).1

theorem trimmed_quotes (count : Nat) : Trimmed isBlank (List.replicate count '"') := by
  apply trimmed_of_forall
  intro c member
  rw [List.eq_of_mem_replicate member]
  decide

/-- Gaps and quotes are taken off a spelling. -/
theorem Spells.exists_wraps (spells : Spells name optional s) :
    ∃ inner, Wraps name optional inner ∧ trimBy (· == '"') (strip s) = inner := by
  cases spells with
  | @quoted before inner after opening closing wraps gaps =>
      have unblank := wraps.trimmed (fun c isName => (outside_of_isName isName).1) (by decide)
      have unquoted := wraps.trimmed (fun c isName => (outside_of_isName isName).2.1) (by decide)
      have trimmed := ((trimmed_quotes opening).append unblank).append (trimmed_quotes closing)
      have stripped : strip (before ++ (List.replicate opening '"' ++ inner ++
          List.replicate closing '"') ++ after) =
            List.replicate opening '"' ++ inner ++ List.replicate closing '"' := by
        refine trimmed.trimBy_eq ?_ ?_
        · exact fun c member => (blank_of_isGap (gaps c (List.mem_append_left _ member))).1
        · exact fun c member => (blank_of_isGap (gaps c (List.mem_append_right _ member))).1
      refine ⟨inner, wraps, ?_⟩
      rw [stripped]
      refine unquoted.trimBy_eq ?_ ?_
      · exact fun c member => beq_iff_eq.mpr (List.eq_of_mem_replicate member)
      · exact fun c member => beq_iff_eq.mpr (List.eq_of_mem_replicate member)

/-- A spelling is read as the tag that the word in lower case stands for. -/
theorem readLoose_of_spells (spells : Spells name optional s) :
    readLoose s = ⟨tagOfName (String.ofList name),
      optional || tagOfName (String.ofList name) == .null⟩ := by
  obtain ⟨inner, wraps, taken⟩ := spells.exists_wraps
  rw [readLoose, taken, lower_of_isAscii wraps.isAscii]
  cases wraps with
  | bare names =>
      dsimp only
      rw [names.optionalType?_lower]
      dsimp only
      rw [names.lastSegment_lower]
  | @optional wrapper gap left inside right wraps gaps names =>
      have inBrackets : ∀ c ∈ left ++ right, isGap c = true := by
        intro c member
        apply gaps
        rw [List.append_assoc]
        exact List.mem_append_right gap member
      dsimp only
      rw [names.optionalType?_lower_wrapped wraps gaps]
      dsimp only
      rw [names.strip_lower inBrackets, lower_map_toLower names.isAscii, names.lastSegment_lower]

end TagSpelling

/-! ## What decoding comes to -/

/-- The error with another tag in the place of the one that it shows. -/
def Error.underTag (spelling : String) : Error → Error
  | .coercion value _ reason => .coercion value (.text spelling) reason
  | error => error

/-- What replaces an error that shows a value shows no tag. -/
theorem Error.underTag_showing (spelling : String) (value : Value) (error : Error) :
    (error.showing value).underTag spelling = (error.underTag spelling).showing value := by
  unfold Error.showing
  split <;> rfl

namespace Argument

open TagSpelling

/-- What is bound for a number depends on the spelling of its tag only by the error that shows
it. -/
theorem map_coerced_loose
    {α : Type}
    (value : Value)
    (spelling : String)
    (tag : TypeTag)
    (conversion : Except NumberFault α)
    (bound : α → Value) :
    ((⟨value, .loose spelling⟩ : Argument).coerced conversion).map bound =
      (((⟨value, .exact tag⟩ : Argument).coerced conversion).map bound).mapError
        (Error.underTag spelling) := by
  cases conversion with
  | ok number => rfl
  | error fault =>
      simp only [coerced]
      cases fault.kind with
      | overflow => rfl
      | value | type =>
          have shown := Error.underTag_showing spelling value
            (.coercion value (.text (TagSpelling.exact tag).text) (.conversion fault))
          exact congrArg Except.error shown.symm

/-- The tag of a column is refused without regard to its spelling. -/
theorem columnBound_underTag (value : Value) (spelling : String) :
    ((Error.compile (.columnBound value)).showing value).underTag spelling =
      (Error.compile (.columnBound value)).showing value :=
  Error.underTag_showing spelling value (.compile (.columnBound value))

/-- The display of a value is bound without regard to the spelling of its tag. -/
theorem map_displayText_loose (value : Value) (spelling : String) :
    (value.displayText.mapError Error.number).map Value.text =
      ((value.displayText.mapError Error.number).map Value.text).mapError
        (Error.underTag spelling) := by
  unfold Value.displayText
  split <;> rfl

/-- What decoding does with what is read from the tag. -/
theorem decode_of_reading
    (argument : Argument)
    {tag : TypeTag}
    {optional : Bool}
    (read : argument.tag.reading = ⟨tag, optional || tag == .null⟩) :
    decode argument =
      if tag == .column then
        .error (.showing argument.value (.compile (.columnBound argument.value)))
      else if tag == .null || (optional && argument.value.isText nullText) then
        .ok .null
      else
        match (motive := TypeTag → Except Error Value) tag with
        | .integer => (argument.coerced argument.value.toInt).map .int
        | .float => (argument.coerced argument.value.toReal).map .float
        | _ => (argument.value.displayText.mapError .number).map .text := by
  rw [decode, read]
  cases tag <;> simp

/-- Decoding under a spelling of a type is decoding under the tag of the type, and an error shows
the spelling instead of the tag.  Only where the type is spelled as optional and is not that of
columns, the null text stands for nothing. -/
theorem decode_of_spells
    {name spelling : String}
    {optional : Bool}
    (spells : Spells name.toList optional spelling.toList)
    (value : Value) :
    decode ⟨value, .loose spelling⟩ =
      if optional && value.isText nullText && tagOfName name != .column then
        .ok .null
      else
        (decode ⟨value, .exact (tagOfName name)⟩).mapError (Error.underTag spelling) := by
  have loose : (TagSpelling.loose spelling).reading =
      ⟨tagOfName name, optional || tagOfName name == .null⟩ := by
    rw [TagSpelling.reading, readLoose_of_spells spells, String.ofList_toList]
  have exact : (TagSpelling.exact (tagOfName name)).reading =
      ⟨tagOfName name, false || tagOfName name == .null⟩ := rfl
  rw [decode_of_reading ⟨value, .loose spelling⟩ loose,
    decode_of_reading ⟨value, .exact (tagOfName name)⟩ exact]
  generalize tagOfName name = tag
  generalize (optional && value.isText nullText) = nothing
  cases nothing with
  | true =>
      cases tag with
      | column => exact congrArg Except.error (columnBound_underTag value spelling).symm
      | integer | float | text | date | datetime | null => rfl
  | false =>
      cases tag with
      | integer => exact map_coerced_loose value spelling .integer value.toInt .int
      | float => exact map_coerced_loose value spelling .float value.toReal .float
      | text | date | datetime => exact map_displayText_loose value spelling
      | null => rfl
      | column => exact congrArg Except.error (columnBound_underTag value spelling).symm

/-- A spelling of the type of whole numbers with all that may surround its word. -/
def surroundedInteger : String := "\t\"Optional [ builtins.Int64\t]\" "

theorem decode_of_spells_surrounded :
    Spells "int64".toList true surroundedInteger.toList ∧
      decode ⟨.text "null", .loose surroundedInteger⟩ = .ok .null ∧
      decode ⟨.text "12", .loose surroundedInteger⟩ = .ok (.int 12) ∧
      ∃ fault, decode ⟨.text "twelve", .loose surroundedInteger⟩ =
        .error (.coercion (.text "twelve") (.text surroundedInteger) (.conversion fault)) := by
  have word : Names "int64".toList "Int64".toList := .word (List.all_eq_true.mp rfl) rfl
  have qualified : Names "int64".toList ("builtins".toList ++ '.' :: "Int64".toList) :=
    .qualified (List.all_eq_true.mp rfl) word
  have wraps : Wraps "int64".toList true ("Optional".toList ++ [' '] ++
      '[' :: ([' '] ++ ("builtins".toList ++ '.' :: "Int64".toList) ++ ['\t'] ++ [']'])) :=
    .optional rfl (List.all_eq_true.mp rfl) qualified
  have gaps : ∀ c ∈ ['\t'] ++ [' '], isGap c = true := List.all_eq_true.mp rfl
  have spells : Spells "int64".toList true surroundedInteger.toList :=
    Spells.quoted 1 1 wraps gaps
  refine ⟨spells, ?_, ?_, ?_⟩
  · exact decode_of_spells spells (.text "null")
  · exact decode_of_spells spells (.text "12")
  · exact ⟨_, decode_of_spells spells (.text "twelve")⟩

end Argument
end BoundSql
