import BoundSql.Log
import BoundSql.Proofs.Condition.Chain
import BoundSql.Proofs.Sql.Text

/-!
# Assignments of updates

An update is made of the predicates of a sequence alone.  It assigns their columns in their
order, and each of them is numbered from where the ones before it stop, so an update of two
sequences is the update of the first one and, numbered on, that of the second one, whatever
connectives stand in them or between them.

What is no condition is refused, the first such member before everything else, and so is a
sequence without predicates.
-/

namespace BoundSql

namespace Predicate

/-- A predicate as an assignment, with a slot for the value that it assigns. -/
def assignment (next : Int) (p : Predicate) : Sql :=
  comparison next { p with operator := .eq }

/-- The assignments of predicates, numbered from `next` on. -/
def assignmentsFrom (next : Int) : List Predicate → List Sql
  | [] => []
  | p :: others => p.assignment next :: assignmentsFrom (next + p.arguments.length) others

/-- Predicates one after the other are numbered on. -/
theorem assignmentsFrom_append (next : Int) (predicates more : List Predicate) :
    assignmentsFrom next (predicates ++ more) =
      assignmentsFrom next predicates ++
        assignmentsFrom (next + (predicates.flatMap arguments).length) more := by
  induction predicates generalizing next with
  | nil => simp [assignmentsFrom]
  | cons p predicates appended =>
      rw [List.cons_append, assignmentsFrom, appended, List.flatMap_cons, List.length_append,
        Int.natCast_add, ← Int.add_assoc]
      rfl

theorem assignmentsFrom_eq_nil_iff {next : Int} {predicates : List Predicate} :
    assignmentsFrom next predicates = [] ↔ predicates = [] := by
  cases predicates with
  | nil => exact ⟨fun _ => rfl, fun _ => rfl⟩
  | cons p others => exact ⟨nofun, nofun⟩

end Predicate

/-- Whether a member of a sequence is a predicate or a connective. -/
def Item.IsCondition (item : Item) : Prop :=
  ∀ value, item ≠ .foreign value

namespace Conditions

/-- A sequence without its connectives. -/
def withoutConnectives (conditions : Conditions) : Conditions :=
  conditions.filter fun item => !item.isConnective

/-- Whether all members of a sequence are predicates and connectives. -/
def AllConditions (conditions : Conditions) : Prop :=
  ∀ item ∈ conditions, item.IsCondition

/-- Whether a sequence makes an update. -/
def IsUpdate (conditions : Conditions) : Prop :=
  ∃ start fragment, Fragment.forUpdate conditions start = .ok fragment

variable {conditions : Conditions}

/-- Connectives are no predicates. -/
theorem predicates_withoutConnectives (conditions : Conditions) :
    conditions.withoutConnectives.predicates = conditions.predicates := by
  induction conditions with
  | nil => rfl
  | cons item rest same =>
      cases item with
      | connective c => exact same
      | predicate p => exact congrArg (p :: ·) same
      | foreign value => exact same

theorem arguments_withoutConnectives (conditions : Conditions) :
    conditions.withoutConnectives.arguments = conditions.arguments := by
  rw [arguments, predicates_withoutConnectives, arguments]

theorem arguments_eq_flatMap (conditions : Conditions) :
    conditions.arguments = conditions.predicates.flatMap Predicate.arguments := by
  rw [arguments]
  induction conditions.predicates with
  | nil => rfl
  | cons p others same =>
      rw [List.flatMap_cons, ← same]
      cases column : p.isColumn <;> simp [Predicate.arguments, column]

/-- What is no condition stays when connectives are left out. -/
theorem allConditions_withoutConnectives_iff :
    conditions.withoutConnectives.AllConditions ↔ conditions.AllConditions := by
  constructor
  · intro all item member value foreign
    refine all item (List.mem_filter.mpr ⟨member, ?_⟩) value foreign
    rw [foreign]
    rfl
  · exact fun all item member => all item (List.mem_filter.mp member).1

/-- All members are predicates and connectives, or there is a first one that is no condition. -/
theorem allConditions_or_first (conditions : Conditions) :
    conditions.AllConditions ∨
      ∃ before value after, conditions = before ++ .foreign value :: after ∧
        AllConditions before := by
  rcases forall_or_exists_first Item.IsCondition conditions with
    all | ⟨before, item, after, rfl, allBefore, foreign⟩
  · exact .inl all
  · obtain ⟨value, rfl⟩ := not_forall_not.mp foreign
    exact .inr ⟨before, value, after, rfl, allBefore⟩

theorem AllConditions.append
    {a b : Conditions}
    (first : a.AllConditions)
    (second : b.AllConditions) :
    AllConditions (a ++ b) :=
  List.forall_mem_append.mpr ⟨first, second⟩

theorem AllConditions.connect
    {a b : Conditions}
    (first : a.AllConditions)
    (second : b.AllConditions)
    (connective : Connective) :
    (Conditions.connect connective a b).AllConditions := by
  unfold Conditions.connect
  split
  · exact first.append second
  · exact first.append (List.forall_mem_cons.mpr ⟨nofun, second⟩)

end Conditions

namespace Fragment

open Conditions (connect)

/-- The update of a sequence. -/
def update (start : Int) (conditions : Conditions) : Fragment where
  shape := .update
  parts := Predicate.assignmentsFrom start conditions.predicates
  arguments := conditions.arguments
  columns := []
  start := start

/-- A predicate is written as an assignment with any positive number. -/
theorem bindPredicate_assignment {next : Int} (positive : 1 ≤ next) (p : Predicate) :
    bindPredicate "=" next p = .ok (p.assignment next, p.arguments) :=
  bindPredicate_of_pos positive { p with operator := .eq }

section Assignments

variable {conditions before : Conditions} {next : Int}

theorem assignments_of_allConditions
    (positive : 1 ≤ next)
    (all : conditions.AllConditions)
    (position : Nat) :
    assignments next position conditions =
      .ok (Predicate.assignmentsFrom next conditions.predicates, conditions.arguments) := by
  -- Only predicates with a value move the number on, and every member moves the place on.
  induction conditions generalizing next position with
  | nil => rfl
  | cons item rest written =>
      obtain ⟨first, allRest⟩ := List.forall_mem_cons.mp all
      cases item with
      | foreign value => exact absurd rfl (first value)
      | connective c => exact written positive allRest (position + 1)
      | predicate p =>
          have further : 1 ≤ next + (p.arguments.length : Int) := by omega
          rw [assignments, bindPredicate_assignment positive, Conditions.arguments_predicate]
          refine bind_eq_ok.mpr ⟨(p.assignment next, p.arguments), rfl, ?_⟩
          exact bind_eq_ok.mpr ⟨_, written further allRest (position + 1), rfl⟩

/-- The first member that is no condition is refused, with its place. -/
theorem assignments_of_foreign
    (positive : 1 ≤ next)
    (all : before.AllConditions)
    (position : Nat)
    (value : Value)
    (after : Conditions) :
    assignments next position (before ++ .foreign value :: after) =
      .error (foreignError (position + before.length) value) := by
  induction before generalizing next position with
  | nil => rfl
  | cons item before refused =>
      obtain ⟨first, allBefore⟩ := List.forall_mem_cons.mp all
      have further : position + 1 + before.length = position + (item :: before).length := by
        rw [List.length_cons]
        omega
      cases item with
      | foreign value => exact absurd rfl (first value)
      | connective c =>
          rw [← further]
          exact refused positive allBefore (position + 1)
      | predicate p =>
          have later : 1 ≤ next + (p.arguments.length : Int) := by omega
          rw [List.cons_append, assignments, bindPredicate_assignment positive, ← further]
          refine bind_eq_error.mpr (.inr ⟨(p.assignment next, p.arguments), rfl, ?_⟩)
          exact bind_eq_error.mpr (.inl (refused later allBefore (position + 1)))

theorem conditions_of_assignments
    {position : Nat}
    {parts : List Sql}
    {bound : List Argument}
    (made : assignments next position conditions = .ok (parts, bound)) :
    conditions.AllConditions ∧ (conditions.predicates = [] → parts = []) := by
  induction conditions generalizing next position parts bound with
  | nil =>
      cases made
      exact ⟨nofun, fun _ => rfl⟩
  | cons item rest restConditions =>
      cases item with
      | foreign value => cases made
      | connective c =>
          obtain ⟨all, empty⟩ := restConditions made
          exact ⟨List.forall_mem_cons.mpr ⟨nofun, all⟩, empty⟩
      | predicate p =>
          obtain ⟨_, _, made⟩ := bind_eq_ok.mp made
          obtain ⟨_, made, _⟩ := bind_eq_ok.mp made
          obtain ⟨all, _⟩ := restConditions made
          exact ⟨List.forall_mem_cons.mpr ⟨nofun, all⟩, nofun⟩

end Assignments

/-! ## Outcomes -/

section Outcomes

variable {conditions before : Conditions} {start : Int}

theorem forUpdate_of_allConditions
    (positive : 1 ≤ start)
    (all : conditions.AllConditions)
    (nonempty : conditions.predicates ≠ []) :
    forUpdate conditions start = .ok (update start conditions) := by
  have written : (Predicate.assignmentsFrom start conditions.predicates).isEmpty = false := by
    rw [List.isEmpty_eq_false_iff, ne_eq, Predicate.assignmentsFrom_eq_nil_iff]
    exact nonempty
  rw [forUpdate, assignments_of_allConditions positive all]
  exact bind_eq_ok.mpr ⟨_, rfl, by dsimp only; rw [written]; rfl⟩

theorem forUpdate_of_no_predicates
    (positive : 1 ≤ start)
    (all : conditions.AllConditions)
    (empty : conditions.predicates = []) :
    forUpdate conditions start = .error (.compile .emptyUpdate) := by
  rw [forUpdate, assignments_of_allConditions positive all, empty]
  rfl

theorem forUpdate_of_foreign
    (positive : 1 ≤ start)
    (all : before.AllConditions)
    (value : Value)
    (after : Conditions) :
    forUpdate (before ++ .foreign value :: after) start =
      .error (foreignError before.length value) := by
  rw [forUpdate, assignments_of_foreign positive all 0 value after, Nat.zero_add]
  rfl

/-- A sequence that makes an update has predicates, and no other members but connectives. -/
theorem conditions_of_isUpdate (accepted : conditions.IsUpdate) :
    conditions.AllConditions ∧ conditions.predicates ≠ [] := by
  obtain ⟨start, fragment, made⟩ := accepted
  obtain ⟨⟨parts, bound⟩, assigned, finished⟩ := bind_eq_ok.mp made
  obtain ⟨all, noParts⟩ := conditions_of_assignments assigned
  refine ⟨all, fun empty => ?_⟩
  rw [noParts empty] at finished
  cases finished

end Outcomes

/-- Whether two outcomes are the same query or the same failure, apart from the place of a member
that is no condition. -/
inductive SameQuery : Except Error Fragment → Except Error Fragment → Prop
  | made (fragment : Fragment) : SameQuery (.ok fragment) (.ok fragment)
  | foreign (place other : Nat) (value : Value) :
      SameQuery (.error (foreignError place value)) (.error (foreignError other value))
  | empty : SameQuery (.error (.compile .emptyUpdate)) (.error (.compile .emptyUpdate))

section Outcomes

variable {conditions a b : Conditions} {start : Int}

/-- Leaving out the connectives changes the places of members only. -/
theorem sameQuery_withoutConnectives (positive : 1 ≤ start) (conditions : Conditions) :
    SameQuery (forUpdate conditions start) (forUpdate conditions.withoutConnectives start) := by
  rcases conditions.allConditions_or_first with all | ⟨before, value, after, rfl, all⟩
  · have allLeft := Conditions.allConditions_withoutConnectives_iff.mpr all
    have left := conditions.predicates_withoutConnectives
    by_cases empty : conditions.predicates = []
    · rw [forUpdate_of_no_predicates positive all empty,
        forUpdate_of_no_predicates positive allLeft (left.trans empty)]
      exact .empty
    · have same : update start conditions.withoutConnectives = update start conditions := by
        rw [update, left, conditions.arguments_withoutConnectives, update]
      rw [forUpdate_of_allConditions positive all empty,
        forUpdate_of_allConditions positive allLeft (left ▸ empty), same]
      exact .made _
  · have split : Conditions.withoutConnectives (before ++ .foreign value :: after) =
        before.withoutConnectives ++ .foreign value :: Conditions.withoutConnectives after :=
      List.filter_append ..
    rw [split, forUpdate_of_foreign positive all, forUpdate_of_foreign positive
      (Conditions.allConditions_withoutConnectives_iff.mpr all)]
    exact .foreign _ _ value

/-- Only faults of compilation are reported. -/
theorem exists_fault_of_forUpdate
    {error : Error}
    (positive : 1 ≤ start)
    (fails : forUpdate conditions start = .error error) :
    ∃ fault, error = .compile fault := by
  have outcome := sameQuery_withoutConnectives positive conditions
  rw [fails] at outcome
  generalize forUpdate conditions.withoutConnectives start = left at outcome
  cases outcome with
  | foreign place other value => exact ⟨_, rfl⟩
  | empty => exact ⟨_, rfl⟩

/-- Updates are refused for what is no condition and for want of predicates. -/
theorem exists_compile_fault_iff (positive : 1 ≤ start) :
    (∃ fault, forUpdate conditions start = .error (.compile fault)) ↔
      (∃ value, .foreign value ∈ conditions) ∨ conditions.predicates = [] := by
  rcases conditions.allConditions_or_first with all | ⟨before, value, after, rfl, all⟩
  · have noForeign : ¬∃ value, .foreign value ∈ conditions := fun ⟨value, member⟩ =>
      all _ member value rfl
    rw [or_iff_right noForeign]
    constructor
    · rintro ⟨fault, fails⟩
      by_contra nonempty
      cases fails.symm.trans (forUpdate_of_allConditions positive all nonempty)
    · exact fun empty => ⟨_, forUpdate_of_no_predicates positive all empty⟩
  · exact iff_of_true ⟨_, forUpdate_of_foreign positive all value after⟩
      (.inl ⟨value, List.mem_append_right before List.mem_cons_self⟩)

/-- The text of an update has commas between the texts of its assignments. -/
theorem text_update (dialect : Dialect) (start : Int) (conditions : Conditions) :
    (update start conditions).text dialect =
      ", ".intercalate
        ((Predicate.assignmentsFrom start conditions.predicates).map (Sql.render dialect)) := by
  rw [text, sql, Sql.render_joinWith]
  rfl

theorem nextIndex_update (start : Int) (conditions : Conditions) :
    (update start conditions).nextIndex = start + conditions.arguments.length := rfl

/-- A sequence with the predicates of two others is assigned as these are, the second one numbered
from where the first one stops. -/
theorem text_update_of_predicates
    {whole : Conditions}
    (predicates : whole.predicates = a.predicates ++ b.predicates)
    (someFirst : a.predicates ≠ [])
    (someSecond : b.predicates ≠ [])
    (dialect : Dialect) :
    (update start whole).text dialect =
      (update start a).text dialect ++ ", " ++
        (update (update start a).nextIndex b).text dialect := by
  have nonempty {next : Int} {predicates : List Predicate} (some : predicates ≠ []) :
      (Predicate.assignmentsFrom next predicates).map (Sql.render dialect) ≠ [] := by
    rw [ne_eq, List.map_eq_nil_iff, Predicate.assignmentsFrom_eq_nil_iff]
    exact some
  rw [text_update, text_update, text_update, predicates, Predicate.assignmentsFrom_append,
    List.map_append, String.intercalate_append_of_ne_nil (nonempty someFirst) (nonempty someSecond),
    nextIndex_update, Conditions.arguments_eq_flatMap]

/-- A sequence that makes an update is assigned from every positive start on. -/
theorem forUpdate_of_isUpdate (positive : 1 ≤ start) (accepted : conditions.IsUpdate) :
    forUpdate conditions start = .ok (update start conditions) := by
  obtain ⟨all, nonempty⟩ := conditions_of_isUpdate accepted
  exact forUpdate_of_allConditions positive all nonempty

/-- Two sequences that make updates make one when they are put together in any way that keeps their
predicates and brings in nothing but connectives. -/
theorem forUpdate_of_predicates
    {whole : Conditions}
    (positive : 1 ≤ start)
    (all : whole.AllConditions)
    (predicates : whole.predicates = a.predicates ++ b.predicates)
    (first : a.IsUpdate) :
    forUpdate whole start = .ok (update start whole) := by
  refine forUpdate_of_allConditions positive all fun empty => ?_
  rw [predicates, List.append_eq_nil_iff] at empty
  exact (conditions_of_isUpdate first).2 empty.1

/-- Connectives do not count in an update, except for the places in errors: leaving them out changes
nothing else.  Two sequences that make updates make one update side by side and joined by any
connective.  It has their texts with a comma between them and their arguments one after the other,
the second one numbered from where the first one stops.  Refused are the sequences without
predicates and those with members that are no conditions, always with a fault of compilation. -/
theorem forUpdate_composes {start : Int} (positive : 1 ≤ start) :
    (∀ conditions : Conditions,
        SameQuery (forUpdate conditions start) (forUpdate conditions.withoutConnectives start) ∧
        (∀ error, forUpdate conditions start = .error error → ∃ fault, error = .compile fault) ∧
        ((∃ fault, forUpdate conditions start = .error (.compile fault)) ↔
          (∃ value, .foreign value ∈ conditions) ∨ conditions.predicates = [])) ∧
      ∀ a b : Conditions, a.IsUpdate → b.IsUpdate →
        ∃ first second whole, forUpdate a start = .ok first ∧
          forUpdate b first.nextIndex = .ok second ∧
          forUpdate (a ++ b) start = .ok whole ∧
          (∀ connective, forUpdate (connect connective a b) start = .ok whole) ∧
          (∀ dialect, whole.text dialect = first.text dialect ++ ", " ++ second.text dialect) ∧
          whole.arguments = first.arguments ++ second.arguments := by
  refine ⟨fun conditions => ⟨sameQuery_withoutConnectives positive conditions,
    fun _ => exists_fault_of_forUpdate positive, exists_compile_fault_iff positive⟩, ?_⟩
  intro a b first second
  obtain ⟨allFirst, someFirst⟩ := conditions_of_isUpdate first
  obtain ⟨allSecond, someSecond⟩ := conditions_of_isUpdate second
  have together := Conditions.predicates_append a b
  have further : 1 ≤ (update start a).nextIndex := by
    rw [nextIndex_update]
    omega
  refine ⟨update start a, update (update start a).nextIndex b, update start (a ++ b),
    forUpdate_of_isUpdate positive first, forUpdate_of_isUpdate further second,
    forUpdate_of_predicates positive (allFirst.append allSecond) together first,
    fun connective => ?_, text_update_of_predicates together someFirst someSecond,
    Conditions.arguments_append a b⟩
  have joined := Conditions.predicates_connect connective a b
  have same : update start (connect connective a b) = update start (a ++ b) := by
    rw [update, joined, Conditions.arguments_connect, update, together,
      Conditions.arguments_append]
  rw [← same]
  exact forUpdate_of_predicates positive (allFirst.connect allSecond connective) joined first

end Outcomes

/-- Two assignments of values with one of a column between them, and connectives all over. -/
def scattered : Conditions :=
  [.connective .and, .predicate ⟨"a", .text "1", .integer, .lt⟩, .connective .or, .connective .or,
    .predicate ⟨"b", .text "c.d", .column, .eq⟩, .predicate ⟨"e", .text "x", .text, .eq⟩]

theorem forUpdate_composes_scattered :
    (∃ first second whole, forUpdate scattered 4 = .ok first ∧
        forUpdate scattered first.nextIndex = .ok second ∧
        forUpdate (connect .or scattered scattered) 4 = .ok whole ∧
        whole.text .postgres = first.text .postgres ++ ", " ++ second.text .postgres ∧
        first.text .postgres = "a=$4, b=c.d, e=$5" ∧ second.text .postgres = "a=$6, b=c.d, e=$7") ∧
      ∃ fault, forUpdate [.connective .and, .connective .or] 4 = .error (.compile fault) := by
  have accepted : scattered.IsUpdate := ⟨4, _, rfl⟩
  have composes := forUpdate_composes (show (1 : Int) ≤ 4 by decide)
  obtain ⟨first, second, whole, madeFirst, madeSecond, _, made, text, _⟩ :=
    composes.2 scattered scattered accepted accepted
  refine ⟨⟨first, second, whole, madeFirst, madeSecond, made .or, text .postgres, ?_, ?_⟩,
    (composes.1 _).2.2.mpr (.inr rfl)⟩
  · cases madeFirst
    decide +kernel
  · cases madeFirst
    cases madeSecond
    decide +kernel

end Fragment
end BoundSql
