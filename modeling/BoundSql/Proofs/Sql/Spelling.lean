import BoundSql.Log
import BoundSql.Proofs.Sql.Recipe

/-!
# Spellings of slots

What is compiled does not depend on a dialect, but for how its slots are spelled.  In two
dialects there is the same error, or there are the same arguments, columns and numbers
with texts of the same literal pieces, and between these pieces each dialect spells the
slots of the same numbers.

Some dialects name the argument of a slot by its number, and the others count the slots
from the left.  Slots are numbered in a row in the order of the arguments, so both take
the same arguments.
-/

namespace BoundSql

/-- A dialect refuses a number for a slot as the compiler does, with the same error, and spells the
slots of all others. -/
theorem Fragment.map_render_slotAt (dialect : Dialect) (index : Int) :
    (slotAt index).map (Piece.render dialect) = dialect.slotFor (.int index) := by
  by_cases below : index < 1
  · have quantity : (Value.int index).quantity? = some (.scaled index 0) := rfl
    have isBelow : Quantity.isBelowOne (.scaled index 0) = true := by
      have notPositive : index ≤ 0 := by omega
      simp [Quantity.isBelowOne, notPositive]
    have ordered : Dialect.hasOrder (.int index) = true := rfl
    rw [slotAt, if_pos below, Dialect.slotFor, ordered, quantity, Option.map_some,
      Option.getD_some, isBelow]
    rfl
  · rw [slotAt, if_neg below, dialect.slotFor_int (by omega)]
    rfl

/-- The argument that a number names, when arguments are numbered from a start on. -/
def Argument.named? (start : Int) (arguments : List Argument) (index : Int) : Option Argument :=
  if start ≤ index then arguments[(index - start).toNat]? else none

theorem Argument.named?_add (start : Int) (arguments : List Argument) (place : Nat) :
    named? start arguments (start + place) = arguments[place]? := by
  have within : start ≤ start + place := by omega
  have offset : (start + place - start).toNat = place := by omega
  rw [named?, if_pos within, offset]

namespace Dialect

/-- The arguments that slots take, from left to right, when arguments are numbered from a start on.
A dialect that numbers its slots names the arguments, and the others count the slots. -/
def taken
    (dialect : Dialect)
    (start : Int)
    (arguments : List Argument)
    (slots : List Int) : List (Option Argument) :=
  slots.mapIdx fun place index =>
    if dialect.isNumbered then Argument.named? start arguments index else arguments[place]?

/-- Slots that are numbered in a row take the arguments as they come, whether they are named or
counted. -/
theorem taken_numbered (dialect : Dialect) (start : Int) (arguments : List Argument) :
    dialect.taken start arguments (numbered start arguments.length) = arguments.map some := by
  apply List.ext_getElem
  · rw [taken, List.length_mapIdx, length_numbered, List.length_map]
  · intro place placed found
    rw [List.length_map] at found
    have within : place < (numbered start arguments.length).length := by rwa [length_numbered]
    have number : (numbered start arguments.length)[place] = start + place := by
      simp only [numbered, List.getElem_map, List.getElem_range]
    simp only [taken, List.getElem_mapIdx, number, Argument.named?_add, ite_self,
      List.getElem?_eq_getElem found, List.getElem_map]

end Dialect

/-- What is compiled, as it is shown in a dialect: a text with the arguments of its slots, the
columns of an insertion, and the number of the first slot. -/
structure Shown where
  text : String
  arguments : List Argument
  columns : String
  start : Int

namespace Shown

/-- Whether a text spells the slots of its arguments in a dialect between given literal pieces, and
its slots take the arguments in their order. -/
structure Spells
    (shown : Shown)
    (dialect : Dialect)
    (leading : String)
    (trailing : List String) : Prop where
  length_trailing : trailing.length = shown.arguments.length
  text_eq : ∃ placeholders : List String,
    (numbered shown.start shown.arguments.length).mapM (fun index => dialect.slotFor (.int index)) =
        .ok placeholders ∧
      shown.text = leading ++ String.join (List.zipWith (· ++ ·) placeholders trailing)
  taken_eq : dialect.taken shown.start shown.arguments
    (numbered shown.start shown.arguments.length) = shown.arguments.map some

/-- Text whose slots are numbered from a positive start on spells them in every dialect. -/
theorem spells_of_slots
    {sql : Sql}
    {arguments : List Argument}
    {start : Int}
    (slots : sql.slots = numbered start arguments.length)
    (positive : arguments.length ≠ 0 → 1 ≤ start)
    (columns : String)
    (dialect : Dialect) :
    Spells ⟨sql.render dialect, arguments, columns, start⟩ dialect sql.leading sql.trailing where
  length_trailing := by rw [Sql.length_trailing, slots, length_numbered]
  text_eq := ⟨_, dialect.mapM_slotFor_numbered positive, by rw [Sql.render_eq_weave, slots]⟩
  taken_eq := dialect.taken_numbered start arguments

end Shown

/-- A fragment in a dialect. -/
def Fragment.shown (dialect : Dialect) (fragment : Fragment) : Shown :=
  ⟨fragment.text dialect, fragment.arguments, fragment.columnText, fragment.start⟩

/-- A statement in a dialect. -/
def Statement.shown (dialect : Dialect) (statement : Statement) : Shown :=
  ⟨statement.text dialect, statement.arguments, "", 1⟩

/-- What can be compiled: conditions as one of the three kinds of fragments, a statement from a
recipe, or a statement that is one literal text. -/
inductive Compilation
  | insertion (values : Conditions)
  | update (values : Conditions) (start : Int)
  | filter (conditions : Conditions) (start : Int)
  | statement (recipe : Statement.Recipe)
  | literal (text : String)

/-- What is compiled in a dialect. -/
def Compilation.shown (dialect : Dialect) : Compilation → Except Error Shown
  | .insertion values => (Fragment.forInsert values).map (Fragment.shown dialect)
  | .update values start => (Fragment.forUpdate values start).map (Fragment.shown dialect)
  | .filter conditions start => (Fragment.forFilter conditions start).map (Fragment.shown dialect)
  | .statement recipe => recipe.build.map (Statement.shown dialect)
  | .literal text => .ok ((Statement.ofText text).shown dialect)

namespace Fragment

/-- A slot is written only for a positive number. -/
theorem one_le_of_bindPredicate
    {operator : String}
    {next : Int}
    {p : Predicate}
    {sql : Sql}
    {bound : List Argument}
    (made : bindPredicate operator next p = .ok (sql, bound))
    (binds : bound.length ≠ 0) :
    1 ≤ next := by
  unfold bindPredicate at made
  split at made
  · cases made
    exact absurd rfl binds
  · obtain ⟨slot, placed, _⟩ := bind_eq_ok.mp made
    unfold slotAt at placed
    split at placed
    · cases placed
    · omega

/-- A predicate and what follows it have arguments only from a positive number on, if what follows
it does. -/
theorem one_le_of_predicate
    {operator : String}
    {next : Int}
    {p : Predicate}
    {sql : Sql}
    {first later : List Argument}
    (made : bindPredicate operator next p = .ok (sql, first))
    (laterPositive : later.length ≠ 0 → 1 ≤ next + first.length)
    (binds : (first ++ later).length ≠ 0) :
    1 ≤ next := by
  by_cases unbound : first.length = 0
  · rw [List.length_append, unbound, Nat.zero_add] at binds
    have positive := laterPositive binds
    omega
  · exact one_le_of_bindPredicate made unbound

/-- The assignments of an update have arguments only from a positive number on. -/
theorem one_le_of_assignments
    {next : Int}
    {position : Nat}
    {conditions : Conditions}
    {parts : List Sql}
    {bound : List Argument}
    (made : assignments next position conditions = .ok (parts, bound))
    (binds : bound.length ≠ 0) :
    1 ≤ next := by
  induction conditions generalizing next position parts bound with
  | nil =>
      cases made
      exact absurd rfl binds
  | cons item rest positive =>
      cases item with
      | foreign value => cases made
      | connective c => exact positive made binds
      | predicate p =>
          obtain ⟨⟨sql, first⟩, bindsFirst, made⟩ := bind_eq_ok.mp made
          obtain ⟨⟨others, later⟩, bindsLater, finished⟩ := bind_eq_ok.mp made
          cases finished
          exact one_le_of_predicate bindsFirst (positive bindsLater) binds

/-- The parts of a filter have arguments only from a positive number on. -/
theorem one_le_of_filterParts
    {joined : Bool}
    {next : Int}
    {position : Nat}
    {conditions : Conditions}
    {parts : List Sql}
    {bound : List Argument}
    (made : filterParts joined next position conditions = .ok (parts, bound))
    (binds : bound.length ≠ 0) :
    1 ≤ next := by
  induction conditions generalizing joined next position parts bound with
  | nil =>
      cases made
      exact absurd rfl binds
  | cons item rest positive =>
      cases item with
      | foreign value => cases made
      | connective c =>
          obtain ⟨⟨others, later⟩, bindsLater, finished⟩ := bind_eq_ok.mp made
          cases finished
          exact positive bindsLater binds
      | predicate p =>
          obtain ⟨⟨sql, first⟩, bindsFirst, made⟩ := bind_eq_ok.mp made
          obtain ⟨⟨others, later⟩, bindsLater, finished⟩ := bind_eq_ok.mp made
          cases finished
          exact one_le_of_predicate bindsFirst (positive bindsLater) binds

/-- The slots of a fragment are numbered from its start on, which is positive when there are any. -/
structure Numbered (fragment : Fragment) : Prop where
  slots_eq : fragment.sql.slots = numbered fragment.start fragment.arguments.length
  positive : fragment.arguments.length ≠ 0 → 1 ≤ fragment.start

theorem numbered_of_forInsert
    {values : Conditions}
    {fragment : Fragment}
    (made : forInsert values = .ok fragment) :
    fragment.Numbered := by
  obtain ⟨_, slots⟩ := forInsert_eq_ok made
  have fromOne : fragment.start = 1 := by
    obtain ⟨predicates, _, finished⟩ := bind_eq_ok.mp made
    split at finished <;> cases finished
    rfl
  exact ⟨fromOne ▸ slots, fun _ => fromOne ▸ Int.le_refl 1⟩

theorem numbered_of_forUpdate
    {values : Conditions}
    {start : Int}
    {fragment : Fragment}
    (made : forUpdate values start = .ok fragment) :
    fragment.Numbered := by
  obtain ⟨starts, _, slots⟩ := forUpdate_eq_ok made
  refine ⟨starts ▸ slots, fun binds => ?_⟩
  obtain ⟨⟨parts, bound⟩, assigned, finished⟩ := bind_eq_ok.mp made
  dsimp only at finished
  split at finished <;> cases finished
  exact one_le_of_assignments assigned binds

theorem numbered_of_forFilter
    {conditions : Conditions}
    {start : Int}
    {fragment : Fragment}
    (made : forFilter conditions start = .ok fragment) :
    fragment.Numbered := by
  obtain ⟨starts, _, slots⟩ := forFilter_eq_ok made
  refine ⟨starts ▸ slots, fun binds => ?_⟩
  obtain ⟨_, _, made⟩ := bind_eq_ok.mp made
  obtain ⟨⟨parts, bound⟩, written, finished⟩ := bind_eq_ok.mp made
  cases finished
  exact one_le_of_filterParts written binds

end Fragment

/-- A statement that is built from a recipe binds arguments in order. -/
theorem Statement.Recipe.exists_binds
    {recipe : Recipe}
    {statement : Statement}
    (built : recipe.build = .ok statement) :
    ∃ arguments, statement.BindsInOrder arguments := by
  cases recipe with
  | insert table values => exact ⟨_, insert_binds built⟩
  | updateByKey table key id values =>
      obtain ⟨_, _, binds⟩ := updateByKey_binds built
      exact ⟨_, binds⟩
  | filter table conditions => exact ⟨_, filter_binds built⟩
  | deleteByKey table key id =>
      obtain ⟨_, _, binds⟩ := deleteByKey_binds built
      exact ⟨_, binds⟩
  | selection steps =>
      rw [build] at built
      split at built
      · exact ⟨_, Selection.statement_binds built⟩
      · cases built

/-- Whether two results shown in two dialects are the same but for the spelling of slots: the same
error, or the same arguments, columns and start, with texts that spell the slots between the same
literal pieces. -/
def SameButSpelling
    (dialect other : Dialect)
    (shown shownOther : Except Error Shown) : Prop :=
  match shown, shownOther with
  | .error error, .error errorOther => error = errorOther
  | .ok shown, .ok shownOther =>
      shown.arguments = shownOther.arguments ∧ shown.columns = shownOther.columns ∧
        shown.start = shownOther.start ∧
        ∃ leading trailing, shown.Spells dialect leading trailing ∧
          shownOther.Spells other leading trailing
  | _, _ => False

namespace SameButSpelling

variable {dialect other : Dialect}

theorem fragment
    {made : Except Error Fragment}
    (numbers : ∀ fragment, made = .ok fragment → fragment.Numbered) :
    SameButSpelling dialect other (made.map (Fragment.shown dialect))
      (made.map (Fragment.shown other)) := by
  cases made with
  | error error => exact rfl
  | ok fragment =>
      obtain ⟨slots, positive⟩ := numbers fragment rfl
      exact ⟨rfl, rfl, rfl, _, _, Shown.spells_of_slots slots positive _ dialect,
        Shown.spells_of_slots slots positive _ other⟩

theorem statement
    (made : Except Error Statement)
    (binds : ∀ statement, made = .ok statement → ∃ arguments, statement.BindsInOrder arguments) :
    SameButSpelling dialect other (made.map (Statement.shown dialect))
      (made.map (Statement.shown other)) := by
  cases made with
  | error error => exact rfl
  | ok statement =>
      obtain ⟨arguments, bound⟩ := binds statement rfl
      have slots : statement.sql.slots = numbered 1 statement.arguments.length := by
        rw [bound.arguments_eq, bound.slots_eq]
      exact ⟨rfl, rfl, rfl, _, _, Shown.spells_of_slots slots (fun _ => Int.le_refl 1) _ dialect,
        Shown.spells_of_slots slots (fun _ => Int.le_refl 1) _ other⟩

end SameButSpelling

/-- Whatever is compiled is the same in two dialects but for the spelling of its slots, and in both
the slots take the same arguments. -/
theorem Compilation.sameButSpelling (compilation : Compilation) (dialect other : Dialect) :
    SameButSpelling dialect other (compilation.shown dialect) (compilation.shown other) := by
  cases compilation with
  | insertion values => exact .fragment fun _ => Fragment.numbered_of_forInsert
  | update values start => exact .fragment fun _ => Fragment.numbered_of_forUpdate
  | filter conditions start => exact .fragment fun _ => Fragment.numbered_of_forFilter
  | statement recipe => exact .statement recipe.build fun _ => Statement.Recipe.exists_binds
  | literal text =>
      apply SameButSpelling.statement (.ok (Statement.ofText text))
      intro statement made
      cases made
      exact ⟨[], Statement.ofText_bindsInOrder text⟩

end BoundSql
