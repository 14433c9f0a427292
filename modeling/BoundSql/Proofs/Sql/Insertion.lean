import BoundSql.Log
import BoundSql.Proofs.Sql.Text

/-!
# Members of insertions

Which sequences are insertions, told by their members: there is at least one, and each of
them is a predicate that compares with a value.  The names of the columns, the placeholders
and the arguments then stand in the order of the members, one of each for every member.

Where there is a member that does not fit, the first one of these decides alone what the
error is.
-/

namespace BoundSql

/-! ## Members -/

namespace Item

/-- Whether a member of a sequence is a predicate that compares with a value. -/
def IsBound (item : Item) : Prop :=
  ∃ p, item = .predicate p ∧ p.isColumn = false

/-- The errors of the members that do not fit at a place of an insertion: connectives are reported
with the place, and what is no condition and column references are refused. -/
inductive Unfit (place : Nat) : Item → Error → Prop
  | connective (c : Connective) :
      Unfit place (.connective c) (.sequence (.insideInsert c place))
  | foreign (value : Value) :
      Unfit place (.foreign value) (.compile (.foreignItem place value.typeName))
  | column {p : Predicate} (column : p.isColumn = true) :
      Unfit place (.predicate p) (.compile (.columnInserted p.value p.field))

/-- A member that does not fit has an error at each place. -/
theorem exists_unfit {item : Item} (notBound : ¬item.IsBound) (place : Nat) :
    ∃ error, item.Unfit place error := by
  cases item with
  | connective c => exact ⟨_, .connective c⟩
  | foreign value => exact ⟨_, .foreign value⟩
  | predicate p =>
      cases column : p.isColumn with
      | true => exact ⟨_, .column column⟩
      | false => exact absurd ⟨p, rfl, column⟩ notBound

end Item

namespace Conditions

/-- The errors that an insertion is refused with: the one of the first member that does not fit,
whatever stands behind it, and one of its own for the empty sequence. -/
inductive NotInserted : Conditions → Error → Prop
  | empty : NotInserted [] (.compile .emptyInsert)
  | first {before after : Conditions} {item : Item} {error : Error}
      (fits : ∀ other ∈ before, other.IsBound)
      (unfit : item.Unfit before.length error) :
      NotInserted (before ++ item :: after) error

/-- Whether names, placeholders and arguments of an insertion are aligned: there is one of each for
every member, and the ones at a place come from the member at this place. -/
structure Aligned
    (dialect : Dialect)
    (conditions : Conditions)
    (fragment : Fragment)
    (names placeholders : List String) : Prop where
  columnText_eq : fragment.columnText = ", ".intercalate names
  text_eq : fragment.text dialect = ", ".intercalate placeholders
  length_names : names.length = conditions.length
  length_placeholders : placeholders.length = conditions.length
  length_arguments : fragment.arguments.length = conditions.length
  each : ∀ (place : Nat) (item : Item), conditions[place]? = some item →
    ∃ p placeholder, item = .predicate p ∧
      dialect.slotFor (.int (place + 1)) = .ok placeholder ∧
      names[place]? = some p.field ∧
      placeholders[place]? = some placeholder ∧
      fragment.arguments[place]? = some p.argument

/-- Members that all fit are predicates that compare with values. -/
theorem exists_predicates_of_isBound
    {conditions : Conditions}
    (fits : ∀ item ∈ conditions, item.IsBound) :
    ∃ predicates : List Predicate,
      conditions = predicates.map Item.predicate ∧ ∀ p ∈ predicates, p.isColumn = false := by
  induction conditions with
  | nil => exact ⟨[], rfl, nofun⟩
  | cons item rest restPredicates =>
      obtain ⟨p, rfl, bound⟩ := fits _ List.mem_cons_self
      obtain ⟨predicates, rfl, allBound⟩ :=
        restPredicates fun other member => fits other (List.mem_cons_of_mem _ member)
      exact ⟨p :: predicates, rfl, List.forall_mem_cons.mpr ⟨bound, allBound⟩⟩

/-- Predicates that compare with values are aligned with what is inserted for them. -/
theorem aligned_insertion (dialect : Dialect) (predicates : List Predicate) :
    Aligned dialect (predicates.map Item.predicate) (Fragment.insertion predicates)
      (predicates.map Predicate.field)
      ((numbered 1 predicates.length).map dialect.slot) where
  columnText_eq := rfl
  text_eq := Fragment.render_insertion dialect predicates
  length_names := by simp
  length_placeholders := by simp
  length_arguments := by simp [Fragment.insertion]
  each place item found := by
    rw [List.getElem?_map, Option.map_eq_some_iff] at found
    obtain ⟨p, found, rfl⟩ := found
    have within : place < predicates.length := (List.getElem?_eq_some_iff.mp found).1
    have positive : (1 : Int) ≤ place + 1 := by omega
    refine ⟨p, dialect.slot (place + 1), rfl, dialect.slotFor_int positive, ?_, ?_, ?_⟩
    · rw [List.getElem?_map, found, Option.map_some]
    · simp [numbered, within, Int.add_comm]
    · rw [Fragment.insertion, List.getElem?_map, found, Option.map_some]

end Conditions

/-! ## Sequences -/

namespace Fragment

/-- Behind members that fit, the first one that does not decides what the error is. -/
theorem insertable_of_unfit
    {before after : Conditions}
    {item : Item}
    {error : Error}
    {position : Nat}
    (fits : ∀ other ∈ before, other.IsBound)
    (unfit : item.Unfit (position + before.length) error) :
    insertable position (before ++ item :: after) = .error error := by
  induction before generalizing position with
  | nil =>
      cases unfit with
      | connective | foreign => rfl
      | column column => rw [List.nil_append, insertable, if_pos column]
  | cons first before refused =>
      obtain ⟨p, rfl, bound⟩ := fits _ List.mem_cons_self
      have further : position + 1 + before.length =
          position + (Item.predicate p :: before).length := by
        rw [List.length_cons]
        omega
      rw [List.cons_append, insertable, bound, if_neg Bool.false_ne_true,
        refused (fun other member => fits other (List.mem_cons_of_mem _ member)) (further ▸ unfit)]
      rfl

theorem forInsert_of_notInserted
    {conditions : Conditions}
    {error : Error}
    (refused : conditions.NotInserted error) :
    forInsert conditions = .error error := by
  cases refused with
  | empty => rfl
  | first fits unfit =>
      apply bind_eq_error.mpr
      exact .inl (insertable_of_unfit fits ((Nat.zero_add _).symm ▸ unfit))

/-- A sequence is an insertion of its predicates or is refused. -/
theorem insertion_or_notInserted (conditions : Conditions) :
    (∃ predicates : List Predicate, predicates ≠ [] ∧ (∀ p ∈ predicates, p.isColumn = false) ∧
        conditions = predicates.map Item.predicate ∧
        forInsert conditions = .ok (insertion predicates)) ∨
      ∃ error, conditions.NotInserted error := by
  rcases forall_or_exists_first Item.IsBound conditions with
    fits | ⟨before, item, after, rfl, fits, notBound⟩
  · obtain ⟨predicates, rfl, allBound⟩ := Conditions.exists_predicates_of_isBound fits
    by_cases empty : predicates = []
    · rw [empty]
      exact .inr ⟨_, .empty⟩
    · exact .inl ⟨predicates, empty, allBound, rfl, forInsert_of_bound empty allBound⟩
  · obtain ⟨error, unfit⟩ := item.exists_unfit notBound before.length
    exact .inr ⟨error, .first fits unfit⟩

variable {conditions : Conditions}

theorem exists_forInsert_iff :
    (∃ fragment, forInsert conditions = .ok fragment) ↔
      conditions ≠ [] ∧ ∀ item ∈ conditions, item.IsBound := by
  constructor
  · rintro ⟨fragment, made⟩
    rcases insertion_or_notInserted conditions with
      ⟨predicates, nonempty, allBound, rfl, _⟩ | ⟨error, refused⟩
    · refine ⟨by simpa using nonempty, fun item member => ?_⟩
      obtain ⟨p, isPredicate, rfl⟩ := List.mem_map.mp member
      exact ⟨p, rfl, allBound p isPredicate⟩
    · cases made.symm.trans (forInsert_of_notInserted refused)
  · rintro ⟨nonempty, fits⟩
    obtain ⟨predicates, rfl, allBound⟩ := Conditions.exists_predicates_of_isBound fits
    exact ⟨_, forInsert_of_bound (by simpa using nonempty) allBound⟩

theorem aligned_of_forInsert
    {fragment : Fragment}
    (made : forInsert conditions = .ok fragment)
    (dialect : Dialect) :
    ∃ names placeholders, conditions.Aligned dialect fragment names placeholders := by
  rcases insertion_or_notInserted conditions with
    ⟨predicates, _, _, rfl, madeOf⟩ | ⟨error, refused⟩
  · cases madeOf.symm.trans made
    exact ⟨_, _, Conditions.aligned_insertion dialect predicates⟩
  · cases made.symm.trans (forInsert_of_notInserted refused)

theorem forInsert_eq_error_iff {error : Error} :
    forInsert conditions = .error error ↔ conditions.NotInserted error := by
  refine ⟨fun fails => ?_, forInsert_of_notInserted⟩
  rcases insertion_or_notInserted conditions with ⟨_, _, _, _, made⟩ | ⟨other, refused⟩
  · cases fails.symm.trans made
  · cases fails.symm.trans (forInsert_of_notInserted refused)
    exact refused

/-- Insertions are made of the sequences that have members, all of them predicates that compare with
values, and of no others.  In every dialect, the name, the placeholder and the argument at a place
are those of the member at this place.  An empty sequence is refused, and any other one is refused
for the first member that does not fit. -/
theorem forInsert_aligns (conditions : Conditions) :
    ((∃ fragment, forInsert conditions = .ok fragment) ↔
        conditions ≠ [] ∧ ∀ item ∈ conditions, item.IsBound) ∧
      (∀ fragment, forInsert conditions = .ok fragment → ∀ dialect, ∃ names placeholders,
        conditions.Aligned dialect fragment names placeholders) ∧
      ∀ error, forInsert conditions = .error error ↔ conditions.NotInserted error :=
  ⟨exists_forInsert_iff, fun _ => aligned_of_forInsert, fun _ => forInsert_eq_error_iff⟩

/-- A column reference in front of a connective is reported, and the connective is not. -/
example :
    ∃ error,
      forInsert [.predicate ⟨"a", .text "1", .integer, .eq⟩,
        .predicate ⟨"b", .text "c.d", .column, .eq⟩, .connective .or] = .error error ∧
      error.message = "Cannot insert column reference 'c.d' into 'b'" :=
  ⟨_, rfl, by decide +kernel⟩

end Fragment
end BoundSql
