import BoundSql.Proofs.Condition.Meaning
import BoundSql.Proofs.Selection.Slots
import Mathlib.Logic.Basic

/-!
# Restricted selections

A restriction adds conditions to a selection behind an `and`.  The body of the filter
has no parentheses, so this `and` joins the last group of the conditions that the
selection had to the first group of the added ones, and all other groups stay apart.

A row for which both bodies are true passes the body that they make, and a row that
passes it makes one of them true.  It makes both true, whatever the row, exactly
when the groups that stay apart give away nothing: each added group but the first
includes a group of the earlier conditions, and each earlier group but the last
includes a group of the added ones.  Conditions without `or` have no such groups.
-/

namespace BoundSql

namespace Truth

/-- A conjunction is true when all of its members are. -/
theorem conjunction_eq_yes_iff {values : List Truth} :
    conjunction values = .yes ↔ ∀ value ∈ values, value = .yes := by
  induction values with
  | nil => simp [conjunction]
  | cons value values restTrue =>
      rw [List.forall_mem_cons, ← restTrue]
      change and value (conjunction values) = .yes ↔ _
      cases value <;> cases conjunction values <;> decide

/-- A disjunction is true when one of its members is. -/
theorem disjunction_eq_yes_iff {values : List Truth} :
    disjunction values = .yes ↔ .yes ∈ values := by
  induction values with
  | nil => simp [disjunction]
  | cons value values restTrue =>
      rw [List.mem_cons, ← restTrue]
      change or value (disjunction values) = .yes ↔ _
      cases value <;> cases disjunction values <;> decide

section Groups

variable {α : Type} {groups others : List (List α)}

/-- Whether all members of one of several groups are true. -/
def Passes (groups : List (List α)) (truth : α → Truth) : Prop :=
  ∃ group ∈ groups, ∀ member ∈ group, truth member = .yes

/-- Whether each of several groups includes all members of one of other groups. -/
def Refines (groups others : List (List α)) : Prop :=
  ∀ group ∈ groups, ∃ other ∈ others, other ⊆ group

theorem Refines.nil (others : List (List α)) : Refines [] others :=
  nofun

theorem refines_append {more : List (List α)} :
    Refines (groups ++ more) others ↔ Refines groups others ∧ Refines more others :=
  List.forall_mem_append

theorem refines_cons {group : List α} :
    Refines (group :: groups) others ↔ (∃ other ∈ others, other ⊆ group) ∧ Refines groups others :=
  List.forall_mem_cons

/-- Groups that are among others include themselves. -/
theorem refines_of_subset (among : groups ⊆ others) : Refines groups others := by
  intro group member
  exact ⟨group, among member, List.Subset.refl group⟩

/-- Whatever is true, one of some groups passes only if one of others does: exactly when each of
the groups includes one of the others. -/
theorem passes_imp_iff_refines :
    (∀ truth : α → Truth, Passes groups truth → Passes others truth) ↔
      Refines groups others := by
  classical
  constructor
  · intro implied group member
    -- Only the members of the group are true, so the other group that passes is inside it.
    let inGroup : α → Truth := fun x => if x ∈ group then .yes else .no
    have passes : Passes groups inGroup := ⟨group, member, fun x inside => if_pos inside⟩
    obtain ⟨other, among, allTrue⟩ := implied inGroup passes
    refine ⟨other, among, fun x inOther => ?_⟩
    by_cases inside : x ∈ group
    · exact inside
    · have isTrue := allTrue x inOther
      rw [show inGroup x = .no from if_neg inside] at isTrue
      cases isTrue
  · rintro refines truth ⟨group, member, allTrue⟩
    obtain ⟨other, among, inside⟩ := refines group member
    exact ⟨other, among, fun x inOther => allTrue x (inside inOther)⟩

end Groups
end Truth

namespace Fragment

/-- The groups of comparisons that the `or`s of a body make. -/
def groups (body : Fragment) : List (List (List FilledPiece)) :=
  (groupsFrom 0 body.parts).map (List.map fun place => body.comparisons.getD place [])

/-- Whether a body is true when its comparisons have given truth values. -/
def Holds (body : Fragment) (truth : List FilledPiece → Truth) : Prop :=
  body.meaning (fun place => truth (body.comparisons.getD place [])) = .yes

/-- A body is true when all comparisons of one of its groups are. -/
theorem holds_iff_passes {body : Fragment} {truth : List FilledPiece → Truth} :
    body.Holds truth ↔ Truth.Passes body.groups truth := by
  rw [Holds, meaning, Truth.ofGroups, Truth.disjunction_eq_yes_iff, List.mem_map]
  simp [Truth.Passes, groups, Truth.conjunction_eq_yes_iff]

end Fragment

namespace Conditions

/-- The groups of comparisons that the `or`s of a sequence make of its predicates. -/
def groups : Conditions → List (List (List FilledPiece))
  | [] => [[]]
  | .connective .or :: rest => [] :: groups rest
  | .predicate p :: rest => (groups rest).modifyHead (p.filled :: ·)
  | _ :: rest => groups rest

/-- The comparisons at the places of the groups, when others stand before them. -/
theorem map_groupsFrom (before : List (List FilledPiece)) (conditions : Conditions) :
    (conditions.groupsFrom before.length).map (List.map fun place =>
        (before ++ conditions.predicates.map Predicate.filled).getD place []) =
      conditions.groups := by
  induction conditions generalizing before with
  | nil => rfl
  | cons item rest restGroups =>
      cases item with
      | foreign value => exact restGroups before
      | connective c =>
          cases c with
          | and => exact restGroups before
          | or => exact congrArg ([] :: ·) (restGroups before)
      | predicate p =>
          -- The comparison of the predicate stands behind the others, and the rest behind it.
          have behind := restGroups (before ++ [p.filled])
          rw [List.length_append, List.length_singleton, List.append_assoc,
            List.singleton_append] at behind
          obtain ⟨first, later, split⟩ :=
            List.exists_cons_of_ne_nil (groupsFrom_ne_nil (before.length + 1) rest)
          rw [split] at behind
          have listed : predicates (.predicate p :: rest) = p :: predicates rest := rfl
          rw [groups, ← behind, groupsFrom, split, listed]
          simp

theorem groups_ne_nil (conditions : Conditions) : groups conditions ≠ [] := by
  rw [← map_groupsFrom [] conditions]
  simp [groupsFrom_ne_nil]

/-- An `and` between two sequences joins the last group of the one to the first group of the
other. -/
theorem exists_groups_and (a b : Conditions) :
    ∃ init last head tail, groups a = init ++ [last] ∧ groups b = head :: tail ∧
      groups (a ++ .connective .and :: b) = init ++ (last ++ head) :: tail := by
  obtain ⟨head, tail, behind⟩ := List.exists_cons_of_ne_nil (groups_ne_nil b)
  induction a with
  | nil => exact ⟨[], [], head, tail, rfl, behind, behind⟩
  | cons item rest joined =>
      obtain ⟨init, last, head, tail, before, behind, both⟩ := joined
      cases item with
      | foreign value => exact ⟨init, last, head, tail, before, behind, both⟩
      | connective c =>
          cases c with
          | and => exact ⟨init, last, head, tail, before, behind, both⟩
          | or =>
              exact ⟨[] :: init, last, head, tail, congrArg ([] :: ·) before, behind,
                congrArg ([] :: ·) both⟩
      | predicate p =>
          -- The predicate enters the first group, which is the last one where it is the only one.
          rw [List.cons_append, groups, groups, before, both]
          cases init with
          | nil => exact ⟨[], p.filled :: last, head, tail, rfl, behind, rfl⟩
          | cons first init =>
              exact ⟨(p.filled :: first) :: init, last, head, tail, rfl, behind, rfl⟩

/-- Joining by `and` joins the last group to the first one, also next to an empty sequence, whose
only group is empty. -/
theorem exists_groups_connect (a b : Conditions) :
    ∃ init last head tail, groups a = init ++ [last] ∧ groups b = head :: tail ∧
      groups (connect .and a b) = init ++ (last ++ head) :: tail := by
  by_cases noneBefore : a = []
  · subst noneBefore
    obtain ⟨head, tail, behind⟩ := List.exists_cons_of_ne_nil (groups_ne_nil b)
    refine ⟨[], [], head, tail, rfl, behind, ?_⟩
    rw [connect_nil_left, behind]
    rfl
  · by_cases noneBehind : b = []
    · subst noneBehind
      refine ⟨(groups a).dropLast, (groups a).getLast (groups_ne_nil a), [], [],
        (List.dropLast_concat_getLast _).symm, rfl, ?_⟩
      rw [connect_nil_right, List.append_nil, List.dropLast_concat_getLast]
    · rw [connect, if_neg (by simp [noneBefore, noneBehind])]
      exact exists_groups_and a b

/-- A sequence without `or` has one group. -/
theorem exists_groups_of_no_or {conditions : Conditions} (noOr : .connective .or ∉ conditions) :
    ∃ group, groups conditions = [group] := by
  rw [← map_groupsFrom [] conditions, groupsFrom_of_no_or noOr]
  exact ⟨_, rfl⟩

end Conditions

namespace Fragment

/-- The groups of a filter are those of its sequence. -/
theorem groups_forFilter
    {conditions : Conditions}
    {start : Int}
    {body : Fragment}
    (made : forFilter conditions start = .ok body) :
    body.groups = conditions.groups := by
  have sameComparisons := comparisons_forFilter made
  obtain ⟨_, _, made⟩ := bind_eq_ok.mp made
  obtain ⟨⟨parts, bound⟩, written, finished⟩ := bind_eq_ok.mp made
  cases finished
  rw [groups, sameComparisons, groupsFrom_filterParts written 0]
  exact Conditions.map_groupsFrom [] conditions

/-- A body that is made of two bodies with an `and` between them, and without parentheses. It lets
each of the two through exactly under a condition on the groups of the other one that the `and` does
not reach. -/
structure FlatAnd (fragment first second : Fragment) : Prop where
  holds_of_both : ∀ truth, first.Holds truth → second.Holds truth → fragment.Holds truth
  holds_one : ∀ truth, fragment.Holds truth → first.Holds truth ∨ second.Holds truth
  implies_first_iff :
    (∀ truth, fragment.Holds truth → first.Holds truth) ↔
      Truth.Refines second.groups.tail first.groups
  implies_second_iff :
    (∀ truth, fragment.Holds truth → second.Holds truth) ↔
      Truth.Refines first.groups.dropLast second.groups

/-- An `and` that joins the last group of a body to the first group of another one. -/
theorem FlatAnd.of_groups
    {fragment first second : Fragment}
    {init tail : List (List (List FilledPiece))}
    {last head : List (List FilledPiece)}
    (before : first.groups = init ++ [last])
    (behind : second.groups = head :: tail)
    (both : fragment.groups = init ++ (last ++ head) :: tail) :
    fragment.FlatAnd first second where
  holds_of_both truth := by
    simp only [holds_iff_passes, before, behind, both]
    rintro ⟨group, member, groupTrue⟩ ⟨other, among, otherTrue⟩
    obtain early | rfl := List.mem_append.mp member |>.imp_right List.mem_singleton.mp
    · exact ⟨group, List.mem_append_left _ early, groupTrue⟩
    · obtain rfl | late := List.mem_cons.mp among
      · exact ⟨group ++ other, by simp, List.forall_mem_append.mpr ⟨groupTrue, otherTrue⟩⟩
      · exact ⟨other, by simp [late], otherTrue⟩
  holds_one truth := by
    simp only [holds_iff_passes, before, behind, both]
    rintro ⟨group, member, groupTrue⟩
    obtain early | member := List.mem_append.mp member
    · exact .inl ⟨group, List.mem_append_left _ early, groupTrue⟩
    · obtain rfl | late := List.mem_cons.mp member
      · exact .inl ⟨last, by simp, (List.forall_mem_append.mp groupTrue).1⟩
      · exact .inr ⟨group, List.mem_cons_of_mem _ late, groupTrue⟩
  implies_first_iff := by
    simp only [holds_iff_passes, Truth.passes_imp_iff_refines]
    rw [both, behind, Truth.refines_append, Truth.refines_cons, List.tail_cons]
    have early : Truth.Refines init first.groups := Truth.refines_of_subset (by simp [before])
    have joined : ∃ other ∈ first.groups, other ⊆ last ++ head :=
      ⟨last, by simp [before], List.subset_append_left last head⟩
    simp only [early, joined, true_and]
  implies_second_iff := by
    simp only [holds_iff_passes, Truth.passes_imp_iff_refines]
    rw [both, before, Truth.refines_append, Truth.refines_cons, List.dropLast_concat]
    have late : Truth.Refines tail second.groups := Truth.refines_of_subset (by simp [behind])
    have joined : ∃ other ∈ second.groups, other ⊆ last ++ head :=
      ⟨head, by simp [behind], List.subset_append_right last head⟩
    simp only [late, joined, and_true]

end Fragment

namespace Selection

/-- What a statement has in front of its filter, and the body of the filter. -/
def openingAndFilter (selection : Selection) : Except Error (Statement × Fragment) :=
  match selection.base with
  | none => .error (.compile .openBaseTable)
  | some base => do
      let (joined, bound, next) ← (joinsSql 1 selection.joins).result
      let body ← Fragment.forFilter selection.conditions next
      pure (⟨.text ("SELECT " ++ selection.clause ++ " FROM " ++ base) :: joined, bound⟩, body)

/-- An opening with a filter behind it. -/
def closedBy (opening : Statement) (body : Fragment) : Statement :=
  ⟨opening.sql ++ filterSql body ++ [.text ";"], opening.arguments ++ body.arguments⟩

/-- The statement of a selection is its opening with its filter. -/
theorem statement_eq_closedBy (selection : Selection) :
    selection.statement.result =
      selection.openingAndFilter.map fun (opening, body) => closedBy opening body := by
  unfold Selection.statement openingAndFilter
  cases selection.base with
  | none => rfl
  | some base =>
      simp only [Traced.result_bind, Fragment.result_traced]
      rw [map_bind]
      apply congrArg (Except.bind _)
      funext ⟨joined, bound, next⟩
      rw [map_bind]
      rfl

/-- A selection whose statement is made has an opening and a filter of its conditions, and
restricting it by conditions that a filter is made of keeps the opening. -/
theorem exists_openingAndFilter_restrict
    {selection : Selection}
    {statement : Statement}
    {added : Conditions}
    {start : Int}
    {alone : Fragment}
    (built : selection.statement.result = .ok statement)
    (accepted : Fragment.forFilter added start = .ok alone) :
    ∃ opening before after next, statement = closedBy opening before ∧
      Fragment.forFilter selection.conditions next = .ok before ∧
      Fragment.forFilter (selection.restrict added).conditions next = .ok after ∧
      selection.openingAndFilter = .ok (opening, before) ∧
      (selection.restrict added).openingAndFilter = .ok (opening, after) := by
  rw [statement_eq_closedBy] at built
  obtain ⟨⟨opening, before⟩, split, rfl⟩ := map_eq_ok.mp built
  have taken := split
  unfold openingAndFilter at taken
  cases fixed : selection.base with
  | none =>
      rw [fixed] at taken
      cases taken
  | some base =>
      rw [fixed] at taken
      obtain ⟨⟨joined, bound, next⟩, joinsMade, taken⟩ := bind_eq_ok.mp taken
      obtain ⟨body, filterMade, finished⟩ := bind_eq_ok.mp taken
      cases finished
      -- The conditions are well shaped, and stay so with the added ones.
      obtain ⟨_, _, next_eq⟩ := joinsSql_eq_ok joinsMade
      have positive : 1 ≤ next := by omega
      have shaped : (selection.restrict added).conditions.Shaped :=
        (Fragment.shaped_of_forFilter filterMade).connect .and
          (Fragment.shaped_of_forFilter accepted)
      obtain ⟨after, afterMade, _⟩ := Fragment.exists_forFilter shaped positive
      refine ⟨_, before, after, next, rfl, filterMade, afterMade, split, ?_⟩
      have sameBase : (selection.restrict added).base = some base := fixed
      rw [openingAndFilter, sameBase]
      exact bind_eq_ok.mpr ⟨_, joinsMade, bind_eq_ok.mpr ⟨after, afterMade, rfl⟩⟩

/-- Restricting a selection changes nothing of its statement but the filter, whose body is then made
of the body before and of the added one with a flat `and` between them.  What passes it passes the
body before if the added conditions have no `or`, and the added one if the earlier conditions have
none. -/
theorem restrict_flatAnd
    {selection : Selection}
    {statement : Statement}
    {added : Conditions}
    {start : Int}
    {alone : Fragment}
    (built : selection.statement.result = .ok statement)
    (accepted : Fragment.forFilter added start = .ok alone) :
    ∃ opening before after next, statement = closedBy opening before ∧
      (selection.restrict added).statement.result = .ok (closedBy opening after) ∧
      Fragment.forFilter selection.conditions next = .ok before ∧
      Fragment.forFilter (selection.restrict added).conditions next = .ok after ∧
      (selection.conditions = [] → ∀ truth, before.Holds truth) ∧
      after.FlatAnd before alone ∧
      (.connective .or ∉ added → ∀ truth, after.Holds truth → before.Holds truth) ∧
      (.connective .or ∉ selection.conditions →
        ∀ truth, after.Holds truth → alone.Holds truth) := by
  obtain ⟨opening, before, after, next, written, beforeMade, afterMade, _, split⟩ :=
    exists_openingAndFilter_restrict built accepted
  have groupsBefore := Fragment.groups_forFilter beforeMade
  have groupsAlone := Fragment.groups_forFilter accepted
  have flat : after.FlatAnd before alone := by
    obtain ⟨init, last, head, tail, early, late, both⟩ :=
      Conditions.exists_groups_connect selection.conditions added
    exact .of_groups (groupsBefore.trans early) (groupsAlone.trans late)
      ((Fragment.groups_forFilter afterMade).trans both)
  refine ⟨opening, before, after, next, written, ?_, beforeMade, afterMade, ?_, flat, ?_, ?_⟩
  · rw [statement_eq_closedBy, split]
    rfl
  · intro none truth
    rw [Fragment.holds_iff_passes, groupsBefore, none]
    exact ⟨[], List.mem_singleton_self [], nofun⟩
  · intro noOr
    obtain ⟨group, single⟩ := Conditions.exists_groups_of_no_or noOr
    rw [flat.implies_first_iff, groupsAlone, single]
    exact .nil _
  · intro noOr
    obtain ⟨group, single⟩ := Conditions.exists_groups_of_no_or noOr
    rw [flat.implies_second_iff, groupsBefore, single]
    exact .nil _

/-- A selection that is restricted to a single test. -/
def singleTest : Selection :=
  Selection.restrict [.predicate ⟨"a", .text "1", .integer, .eq⟩] ⟨[.table "t"], some "t", [], []⟩

/-- Two groups, of which the further one includes the test of the selection. -/
def furtherSame : Conditions :=
  [.predicate ⟨"b", .text "2", .integer, .eq⟩, .connective .or,
    .predicate ⟨"a", .text "1", .integer, .eq⟩, .predicate ⟨"c", .text "d.e", .column, .lt⟩]

theorem restrict_flatAnd_further_same :
    ∃ opening before after alone,
      singleTest.statement.result = .ok (closedBy opening before) ∧
      Fragment.forFilter furtherSame 1 = .ok alone ∧
      (singleTest.restrict furtherSame).statement.result = .ok (closedBy opening after) ∧
      (closedBy opening after).text .sqlite =
        "SELECT * FROM t WHERE a=?1 and b=?2 or a=?3 and c<d.e;" ∧
      (∀ truth, after.Holds truth → before.Holds truth) ∧
      ∀ truth, after.Holds truth → alone.Holds truth := by
  obtain ⟨alone, accepted⟩ : ∃ alone, Fragment.forFilter furtherSame 1 = .ok alone := ⟨_, rfl⟩
  obtain ⟨first, built⟩ : ∃ first, singleTest.statement.result = .ok first := ⟨_, rfl⟩
  obtain ⟨second, rebuilt, text⟩ : ∃ second,
      (singleTest.restrict furtherSame).statement.result = .ok second ∧
        second.text .sqlite = "SELECT * FROM t WHERE a=?1 and b=?2 or a=?3 and c<d.e;" :=
    ⟨_, rfl, by decide +kernel⟩
  obtain ⟨opening, before, after, next, rfl, made, beforeMade, _, _, flat, _, impliesAlone⟩ :=
    restrict_flatAnd built accepted
  obtain rfl := Except.ok.inj (rebuilt.symm.trans made)
  refine ⟨opening, before, after, alone, built, accepted, made, text, ?_, ?_⟩
  · -- The further group is that of the selection with one more test.
    rw [flat.implies_first_iff, Fragment.groups_forFilter beforeMade,
      Fragment.groups_forFilter accepted]
    intro group member
    rw [List.mem_singleton.mp member]
    exact ⟨_, List.mem_singleton_self _, List.subset_append_left _ [_]⟩
  · exact impliesAlone (by simp [singleTest, restrict, Conditions.connect])

/-- Two groups of one test each. -/
def eitherTest : Conditions :=
  [.predicate ⟨"b", .text "2", .integer, .eq⟩, .connective .or,
    .predicate ⟨"c", .text "3", .integer, .eq⟩]

/-- Only the test of the further group is true. -/
def onlyFurther : List FilledPiece → Truth
  | .text s :: _ => if s == "c=" then .yes else .no
  | _ => .no

/-- A row that the first restriction excludes is let in by the second one. -/
theorem restrict_lets_in :
    ∃ opening before after alone,
      singleTest.statement.result = .ok (closedBy opening before) ∧
      Fragment.forFilter eitherTest 1 = .ok alone ∧
      (singleTest.restrict eitherTest).statement.result = .ok (closedBy opening after) ∧
      (closedBy opening before).text .sqlite = "SELECT * FROM t WHERE a=?1;" ∧
      (closedBy opening after).text .sqlite = "SELECT * FROM t WHERE a=?1 and b=?2 or c=?3;" ∧
      after.Holds onlyFurther ∧ ¬before.Holds onlyFurther := by
  obtain ⟨before, beforeMade⟩ : ∃ before, Fragment.forFilter singleTest.conditions 1 = .ok before :=
    ⟨_, rfl⟩
  obtain ⟨after, afterMade⟩ : ∃ after,
      Fragment.forFilter (singleTest.restrict eitherTest).conditions 1 = .ok after := ⟨_, rfl⟩
  refine ⟨⟨[.text "SELECT * FROM t"], []⟩, before, after, _, ?_, rfl, ?_, ?_, ?_, ?_, ?_⟩
  · cases beforeMade
    rfl
  · cases afterMade
    rfl
  · cases beforeMade
    decide +kernel
  · cases afterMade
    decide +kernel
  · rw [Fragment.holds_iff_passes, Fragment.groups_forFilter afterMade]
    exact ⟨_, List.mem_cons_of_mem _ (List.mem_singleton_self _), List.forall_mem_singleton.mpr rfl⟩
  · rw [Fragment.holds_iff_passes, Fragment.groups_forFilter beforeMade]
    rintro ⟨group, member, allTrue⟩
    rw [List.mem_singleton.mp member] at allTrue
    cases List.forall_mem_singleton.mp allTrue

end Selection
end BoundSql
