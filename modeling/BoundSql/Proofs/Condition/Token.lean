import BoundSql.Proofs.Outcome
import BoundSql.Proofs.Text.CaseVariant
import BoundSql.Selection.Basic
import Mathlib.Data.Bool.AllAny

/-!
# Keywords that tokens give

A token gives a keyword when it is a name of the keyword with blanks around it.  An operator
has its symbol and its other spellings as names.  A connective has its symbol in any letter
case, and so does a kind of joins.  But kinds are found by the capitals of a token, and the
capital of the dotless i is that of the i: a kind has also the names in which an i is
dotless.

A text that gives no keyword is refused, and the error shows it as it was given.
-/

namespace BoundSql

/-! ## Blanks around names -/

namespace Text

variable {word s : List Char} {c : Char}

/-- Whether a text is a word with blanks around it. -/
def Surrounds (word s : List Char) : Prop :=
  ∃ before after, s = before ++ word ++ after ∧
    (∀ c ∈ before, isBlank c = true) ∧ ∀ c ∈ after, isBlank c = true

theorem Surrounds.subset (around : Surrounds word s) : word ⊆ s := by
  obtain ⟨before, after, rfl, _⟩ := around
  exact List.subset_append_of_subset_left _ (List.subset_append_right before word)

/-- What is stripped off a text is the blanks around it. -/
theorem surrounds_strip (s : List Char) : Surrounds (strip s) s := by
  have front := List.takeWhile_append_dropWhile (p := isBlank) (l := s)
  have back := List.takeWhile_append_dropWhile (p := isBlank) (l := (s.dropWhile isBlank).reverse)
  have rest : strip s ++ ((s.dropWhile isBlank).reverse.takeWhile isBlank).reverse =
      s.dropWhile isBlank := by
    rw [strip, trimBy, dropTrailing, ← List.reverse_append, back, List.reverse_reverse]
  refine ⟨s.takeWhile isBlank, ((s.dropWhile isBlank).reverse.takeWhile isBlank).reverse, ?_,
    fun c member => List.mem_takeWhile_imp member,
    fun c member => List.mem_takeWhile_imp (List.mem_reverse.mp member)⟩
  rw [List.append_assoc, rest, front]

/-- A word that begins and ends with no blank is what is left when the blanks around it are stripped
off. -/
theorem Surrounds.strip_eq (around : Surrounds word s) (trimmed : Trimmed isBlank word) :
    strip s = word := by
  obtain ⟨before, after, rfl, blankBefore, blankAfter⟩ := around
  exact trimmed.trimBy_eq blankBefore blankAfter

theorem isBlank_toLower (c : Char) : isBlank c.toLower = isBlank c := by
  by_cases ascii : IsAscii c
  · exact ascii.of_checked (motive := fun c => isBlank c.toLower = isBlank c) (by decide +kernel)
  · rw [toLower_of_not_isAscii ascii]

theorem isBlank_dotted (c : Char) : isBlank (dotted c) = isBlank c := by
  unfold dotted
  split
  · rename_i dotless
    rw [dotless]
    decide
  · rfl

/-- A word without blanks has none in any letter case. -/
theorem IsCaseVariant.not_isBlank
    (variant : IsCaseVariant word s)
    (noBlank : ∀ c ∈ word, isBlank c = false) :
    ∀ c ∈ s, isBlank c = false := by
  intro c member
  have lowered : c.toLower ∈ word.map Char.toLower := variant ▸ List.mem_map_of_mem member
  obtain ⟨letter, inWord, same⟩ := List.mem_map.mp lowered
  rw [← isBlank_toLower, ← same, isBlank_toLower]
  exact noBlank letter inWord

end Text

/-! ## Texts that are read as keywords -/

section Reading

variable {α : Type} {isName : α → List Char → Prop} {read : Value → Except Error α}
  {valid : List String} {found : List Char → Option α} {token : Value} {keyword : α}

/-- Whether a text gives a keyword: it is a name of the keyword with blanks around it. -/
def Gives (isName : α → List Char → Prop) (s : String) (keyword : α) : Prop :=
  ∃ word, Text.Surrounds word s.toList ∧ isName keyword word

/-- Whether a text is read as the keyword that it gives, and refused as it is if it gives none. -/
structure ReadsNames
    (read : Value → Except Error α)
    (valid : List String)
    (isName : α → List Char → Prop)
    (s : String) : Prop where
  accepts : ∀ keyword, read (.text s) = .ok keyword ↔ Gives isName s keyword
  refuses : (∀ keyword, ¬Gives isName s keyword) →
    read (.text s) = .error (.unknownOperator (.text s) valid)

theorem ReadsNames.congr
    {other : α → List Char → Prop}
    {s : String}
    (reads : ReadsNames read valid isName s)
    (same : ∀ keyword, Gives isName s keyword ↔ Gives other s keyword) :
    ReadsNames read valid other s where
  accepts keyword := (reads.accepts keyword).trans (same keyword)
  refuses givesNone :=
    reads.refuses fun keyword gives => givesNone keyword ((same keyword).mp gives)

/-- Names by which keywords are found, none of which begins or ends with a blank. -/
structure FindsNames (found : List Char → Option α) (isName : α → List Char → Prop) : Prop where
  found_iff : ∀ word keyword, found word = some keyword ↔ isName keyword word
  trimmed : ∀ keyword word, isName keyword word → Text.Trimmed Text.isBlank word

/-- The keyword found without the blanks around a token is the one that its display gives. -/
theorem FindsNames.found_tokenChars_iff (finds : FindsNames found isName) :
    found (tokenChars token) = some keyword ↔ Gives isName token.display keyword := by
  rw [finds.found_iff]
  constructor
  · exact fun named => ⟨_, Text.surrounds_strip _, named⟩
  · rintro ⟨word, around, named⟩
    rw [tokenChars, around.strip_eq (finds.trimmed keyword word named)]
    exact named

theorem foundFor_eq_ok_iff {found : Option α} :
    foundFor token valid found = .ok keyword ↔ found = some keyword := by
  cases found with
  | none => exact iff_of_false nofun nofun
  | some other => simp [foundFor]

/-- What looks the token up among names reads names. -/
theorem FindsNames.readsNames
    (finds : FindsNames found isName)
    {s : String}
    (read_eq : read (.text s) = foundFor (.text s) valid (found (tokenChars (.text s)))) :
    ReadsNames read valid isName s where
  accepts keyword := by
    rw [read_eq, foundFor_eq_ok_iff, finds.found_tokenChars_iff]
    rfl
  refuses givesNone := by
    have none : found (tokenChars (.text s)) = none :=
      Option.eq_none_iff_forall_ne_some.mpr fun keyword isFound =>
        givesNone keyword (finds.found_tokenChars_iff.mp isFound)
    rw [read_eq, none]
    rfl

/-- What is read as a keyword, where keywords are read as themselves and all else is looked up among
names, is that keyword, or its display gives it. -/
theorem FindsNames.gives_of_read
    (finds : FindsNames found isName)
    {self : α → Value}
    (isRead : (∃ own, token = self own ∧ read token = .ok own) ∨
      read token = foundFor token valid (found (tokenChars token)))
    (accepted : read token = .ok keyword) :
    token = self keyword ∨ Gives isName token.display keyword := by
  rcases isRead with ⟨own, isSelf, read_eq⟩ | read_eq
  · cases read_eq.symm.trans accepted
    exact .inl isSelf
  · rw [read_eq, foundFor_eq_ok_iff, finds.found_tokenChars_iff] at accepted
    exact .inr accepted

/-- A keyword is found by its symbol. -/
theorem withSymbol?_eq_some_iff
    {all : List α}
    {symbol : α → String}
    (complete : ∀ keyword, keyword ∈ all)
    (distinct : Function.Injective symbol)
    {s : String} :
    withSymbol? all symbol s = some keyword ↔ s = symbol keyword := by
  constructor
  · intro isFound
    rw [withSymbol?] at isFound
    exact (beq_iff_eq.mp (List.find?_some isFound :)).symm
  · rintro rfl
    obtain ⟨other, isFound⟩ : ∃ other, withSymbol? all symbol (symbol keyword) = some other :=
      Option.isSome_iff_exists.mp
        (List.find?_isSome.mpr ⟨keyword, complete keyword, beq_self_eq_true _⟩)
    rw [isFound]
    rw [withSymbol?] at isFound
    rw [distinct (beq_iff_eq.mp (List.find?_some isFound :))]

end Reading

namespace Comparison

/-- Whether a word is a name of an operator: its symbol or another spelling of it. -/
def IsName (operator : Comparison) (word : List Char) : Prop :=
  String.ofList word = operator.symbol ∨ (String.ofList word, operator) ∈ aliases

theorem mem_all (operator : Comparison) : operator ∈ all := by
  cases operator <;> decide

theorem symbol_injective : Function.Injective symbol := by
  intro operator other same
  cases operator <;> cases other <;> first | rfl | exact absurd same (by decide)

/-- The other spellings are no symbols, and each is of one operator. -/
theorem alias_unambiguous :
    ∀ spelling ∈ aliases, (∀ operator ∈ all, spelling.1 ≠ operator.symbol) ∧
      ∀ other ∈ aliases, other.1 = spelling.1 → other = spelling := by
  decide

theorem ofSpelling?_eq_some_iff {s : String} {operator : Comparison} :
    ofSpelling? s = some operator ↔ s = operator.symbol ∨ (s, operator) ∈ aliases := by
  unfold ofSpelling?
  split
  · rename_i other known
    have inTable : (s, other) ∈ aliases := Entries.mem_of_lookup known
    obtain ⟨noSymbol, single⟩ := alias_unambiguous _ inTable
    constructor
    · rintro ⟨⟩
      exact .inr inTable
    · rintro (isSymbol | inTable)
      · exact absurd isSymbol (noSymbol operator operator.mem_all)
      · cases single _ inTable rfl
        rfl
  · rename_i unknown
    rw [withSymbol?_eq_some_iff mem_all symbol_injective]
    refine (or_iff_left fun inTable => ?_).symm
    exact absurd rfl (bne_iff_ne.mp (List.lookup_eq_none_iff.mp unknown _ inTable))

theorem findsNames : FindsNames (fun word => ofSpelling? (String.ofList word)) IsName where
  found_iff _ _ := ofSpelling?_eq_some_iff
  trimmed operator word named := by
    have noBlank : ∀ name ∈ validTokens, name.toList.all (fun c => !Text.isBlank c) = true := by
      decide
    have isValid : String.ofList word ∈ validTokens := by
      rcases named with isSymbol | inTable
      · rw [isSymbol]
        exact List.mem_append_left _ (List.mem_map_of_mem operator.mem_all)
      · exact List.mem_append_right _ (List.mem_map_of_mem inTable)
    apply Text.trimmed_of_forall
    simpa using noBlank _ isValid

end Comparison

namespace Connective

/-- Whether a word is a name of a connective: its symbol in any letter case. -/
def IsName (connective : Connective) (word : List Char) : Prop :=
  Text.IsCaseVariant connective.symbol.toList word

theorem mem_all (connective : Connective) : connective ∈ all := by
  cases connective <;> decide

theorem symbol_injective : Function.Injective symbol := by
  intro connective other same
  cases connective <;> cases other <;> first | rfl | exact absurd same (by decide)

/-- No letter from outside ASCII has a lower-case form in a connective. -/
theorem foldsOnly (connective : Connective) :
    Text.FoldsOnly Text.lowerExpansions Text.lowerRuns connective.symbol.toList [] := by
  cases connective <;>
    exact ⟨List.all_iff_forall_prop.mp (by decide), by decide +kernel, by decide +kernel⟩

theorem findsNames :
    FindsNames (fun word => withSymbol? all symbol (String.ofList (Text.lower word))) IsName where
  found_iff word connective := by
    have small : connective.symbol.toList.map Char.toLower = connective.symbol.toList := by
      cases connective <;> decide
    rw [withSymbol?_eq_some_iff mem_all symbol_injective, ← String.toList_inj,
      String.toList_ofList]
    exact connective.foldsOnly.lower_eq_iff small
  trimmed connective word named := by
    refine Text.trimmed_of_forall (Text.IsCaseVariant.not_isBlank named ?_)
    cases connective <;> exact List.all_iff_forall_prop.mp (by decide)

end Connective

namespace JoinKind

/-- Whether a word is a name of a kind of joins: its symbol in any letter case, in which an i may be
dotless. -/
def IsName (kind : JoinKind) (word : List Char) : Prop :=
  Text.IsCaseVariant kind.symbol.toList (word.map Text.dotted)

theorem mem_all (kind : JoinKind) : kind ∈ all := by
  cases kind <;> decide

theorem symbol_injective : Function.Injective symbol := by
  intro kind other same
  cases kind <;> cases other <;> first | rfl | exact absurd same (by decide)

theorem symbol_not_isBlank (kind : JoinKind) :
    ∀ c ∈ kind.symbol.toList, Text.isBlank c = false := by
  cases kind <;> exact List.all_iff_forall_prop.mp (by decide)

/-- Only the dotless i, of all letters from outside ASCII, has a capital in a kind of joins. -/
theorem foldsOnly (kind : JoinKind) :
    Text.FoldsOnly Text.upperExpansions Text.upperRuns kind.symbol.toList ['ı'] := by
  cases kind <;>
    exact ⟨List.all_iff_forall_prop.mp (by decide), by decide +kernel, by decide +kernel⟩

theorem findsNames :
    FindsNames (fun word => withSymbol? all symbol (String.ofList (Text.upper word))) IsName where
  found_iff word kind := by
    have capitals : kind.symbol.toList.map Char.toUpper = kind.symbol.toList := by
      cases kind <;> decide
    rw [withSymbol?_eq_some_iff mem_all symbol_injective, ← String.toList_inj,
      String.toList_ofList]
    exact kind.foldsOnly.upper_eq_iff capitals
  trimmed kind word named := by
    apply Text.trimmed_of_forall
    intro c member
    rw [← Text.isBlank_dotted]
    exact Text.IsCaseVariant.not_isBlank named kind.symbol_not_isBlank _
      (List.mem_map_of_mem member)

/-- Without a dotless i the names of a kind are its symbol in any letter case. -/
theorem gives_iff_of_not_mem {s : String} (noDotless : 'ı' ∉ s.toList) (kind : JoinKind) :
    Gives IsName s kind ↔ Gives (fun kind => Text.IsCaseVariant kind.symbol.toList) s kind := by
  refine exists_congr fun word => and_congr_right fun around => ?_
  rw [IsName, Text.map_dotted_of_not_mem fun inWord => noDotless (around.subset inWord)]

end JoinKind

/-! ## What takes tokens -/

theorem JoinKind.ofToken_cases (token : Value) :
    (∃ kind, token = .keyword (.join kind) ∧ ofToken token = .ok kind) ∨
      ofToken token = foundFor token (all.map symbol)
        (withSymbol? all symbol (String.ofList (Text.upper (tokenChars token)))) := by
  unfold ofToken
  split
  · exact .inl ⟨_, rfl, rfl⟩
  · exact .inr rfl

theorem Connective.ofToken_cases (token : Value) :
    (∃ connective, token = .keyword (.connective connective) ∧
        ofToken token = .ok connective) ∨
      ofToken token = foundFor token (all.map symbol)
        (withSymbol? all symbol (String.ofList (Text.lower (tokenChars token)))) := by
  unfold ofToken
  split
  · exact .inl ⟨_, rfl, rfl⟩
  · exact .inr rfl

/-- A join is made of the kind that its token is read as. -/
theorem Selection.ofToken_of_join
    {selection left : Selection}
    {token : Value}
    {table : Target}
    {on : Conditions}
    {base : Option Target}
    (joined : selection.join token table on base = (.ok (), left)) :
    ∃ kind, JoinKind.ofToken token = .ok kind ∧
      left.joins = selection.joins ++ [⟨kind, table.tableName, on⟩] := by
  unfold Selection.join at joined
  cases accepted : JoinKind.ofToken token with
  | error error =>
      rw [accepted] at joined
      cases joined
  | ok kind =>
      rw [accepted] at joined
      cases joined
      exact ⟨kind, rfl, rfl⟩

/-- A sequence is added by the connective that its token is read as. -/
theorem BuilderStep.ofToken_of_add
    {part : Expression}
    {token : Value}
    {conditions changed : Conditions}
    (done : (BuilderStep.add part token).apply conditions = .ok changed) :
    ∃ connective others, Connective.ofToken token = .ok connective ∧ part.eval = .ok others ∧
      changed = Conditions.connect connective conditions others := by
  rw [BuilderStep.apply] at done
  obtain ⟨others, evaluated, done⟩ := bind_eq_ok.mp done
  obtain ⟨connective, accepted, done⟩ := bind_eq_ok.mp done
  exact ⟨connective, others, accepted, evaluated, (Except.ok.inj done).symm⟩

/-- A text is read as an operator, a connective or a kind of joins exactly when it gives one, and
is refused as it is otherwise.  A text without a dotless i gives a kind of joins when it is the
symbol of the kind in any letter case.  A token that a join or a builder takes is a keyword or
gives one. -/
theorem readsNames_tokens (s : String) (token : Value) :
    ReadsNames Comparison.ofToken Comparison.validTokens Comparison.IsName s ∧
    ReadsNames Connective.ofToken (Connective.all.map Connective.symbol) Connective.IsName s ∧
    ReadsNames JoinKind.ofToken (JoinKind.all.map JoinKind.symbol) JoinKind.IsName s ∧
    ('ı' ∉ s.toList → ReadsNames JoinKind.ofToken (JoinKind.all.map JoinKind.symbol)
      (fun kind => Text.IsCaseVariant kind.symbol.toList) s) ∧
    (∀ (selection left : Selection) (table : Target) (on : Conditions) (base : Option Target),
      selection.join token table on base = (.ok (), left) →
        ∃ kind, (token = .keyword (.join kind) ∨ Gives JoinKind.IsName token.display kind) ∧
          left.joins = selection.joins ++ [⟨kind, table.tableName, on⟩]) ∧
    (∀ (part : Expression) (conditions changed : Conditions),
      (BuilderStep.add part token).apply conditions = .ok changed →
        ∃ connective others,
          (token = .keyword (.connective connective) ∨
            Gives Connective.IsName token.display connective) ∧
          part.eval = .ok others ∧
          changed = Conditions.connect connective conditions others) := by
  have kinds : ReadsNames JoinKind.ofToken (JoinKind.all.map JoinKind.symbol) JoinKind.IsName s :=
    JoinKind.findsNames.readsNames rfl
  refine ⟨Comparison.findsNames.readsNames rfl, Connective.findsNames.readsNames rfl, kinds,
    fun noDotless => kinds.congr (JoinKind.gives_iff_of_not_mem noDotless), ?_, ?_⟩
  · intro selection left table on base joined
    obtain ⟨kind, accepted, added⟩ := Selection.ofToken_of_join joined
    exact ⟨kind, JoinKind.findsNames.gives_of_read (JoinKind.ofToken_cases token) accepted, added⟩
  · intro part conditions changed done
    obtain ⟨connective, others, accepted, evaluated, added⟩ := BuilderStep.ofToken_of_add done
    exact ⟨connective, others,
      Connective.findsNames.gives_of_read (Connective.ofToken_cases token) accepted, evaluated,
      added⟩

/-- A kind of joins in small letters with blanks around it is read as it, and what is no connective
is refused. -/
theorem readsNames_tokens_left :
    'ı' ∉ "\tleft ".toList ∧ JoinKind.ofToken (.text "\tleft ") = .ok .left ∧
    Connective.ofToken (.text "xor") =
      .error (.unknownOperator (.text "xor") (Connective.all.map Connective.symbol)) := by
  have noDotless : 'ı' ∉ "\tleft ".toList := by
    decide
  obtain ⟨-, -, -, kinds, -⟩ := readsNames_tokens "\tleft " .null
  obtain ⟨-, connectives, -⟩ := readsNames_tokens "xor" .null
  have gives : Gives (fun kind => Text.IsCaseVariant kind.symbol.toList) "\tleft " JoinKind.left :=
    ⟨"left".toList, ⟨['\t'], [' '], rfl, List.all_iff_forall_prop.mp (by decide),
      List.all_iff_forall_prop.mp (by decide)⟩, rfl⟩
  refine ⟨noDotless, ((kinds noDotless).accepts .left).mpr gives,
    connectives.refuses fun connective gives => ?_⟩
  cases (connectives.accepts connective).mpr gives

/-- The keyword of inner joins with a dotless i in place of its i is read as it, although it is the
keyword of no kind in any letter case. -/
theorem JoinKind.ofToken_dotless :
    JoinKind.ofToken (.text "ınner") = .ok .inner ∧
      ∀ kind : JoinKind,
        ¬Gives (fun kind => Text.IsCaseVariant kind.symbol.toList) "ınner" kind := by
  refine ⟨rfl, fun kind gives => ?_⟩
  obtain ⟨word, around, variant⟩ := gives
  have trimmed := Text.trimmed_of_forall (variant.not_isBlank kind.symbol_not_isBlank)
  obtain rfl := around.strip_eq trimmed
  cases kind <;> exact absurd variant (by decide +kernel)

end BoundSql
