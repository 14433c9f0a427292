import BoundSql.Proofs.Condition.Shape

/-!
# Meaning of filters

The body of a filter has no parentheses, and in SQL `and` binds tighter than `or`.
So the `or`s of a body split its comparisons into groups, and the body is the
disjunction of its groups, each of which is a conjunction, in the logic of three
truth values.

Joined by `or`, two bodies keep their groups, whatever connectives they have.  A
body without `or` is a single group, and so is the join of two such bodies by
`and`, or side by side.
-/

namespace BoundSql

/-- A truth value of SQL. -/
inductive Truth
  | no
  | unknown
  | yes
  deriving DecidableEq, Repr

namespace Truth

/-- The conjunction of two truth values. -/
def and : Truth → Truth → Truth
  | .no, _ => .no
  | .unknown, .no => .no
  | .unknown, _ => .unknown
  | .yes, other => other

/-- The disjunction of two truth values. -/
def or : Truth → Truth → Truth
  | .yes, _ => .yes
  | .unknown, .yes => .yes
  | .unknown, _ => .unknown
  | .no, other => other

/-- The conjunction of any number of truth values. -/
def conjunction (values : List Truth) : Truth :=
  values.foldr and .yes

/-- The disjunction of any number of truth values. -/
def disjunction (values : List Truth) : Truth :=
  values.foldr or .no

@[simp] theorem or_no (a : Truth) : or a .no = a := by
  cases a <;> rfl

theorem and_assoc (a b c : Truth) : and (and a b) c = and a (and b c) := by
  cases a <;> cases b <;> cases c <;> rfl

theorem or_assoc (a b c : Truth) : or (or a b) c = or a (or b c) := by
  cases a <;> cases b <;> cases c <;> rfl

@[simp] theorem disjunction_single (a : Truth) : disjunction [a] = a :=
  or_no a

theorem conjunction_append (values more : List Truth) :
    conjunction (values ++ more) = and (conjunction values) (conjunction more) := by
  induction values with
  | nil => rfl
  | cons value values appended =>
      calc and value (conjunction (values ++ more))
        _ = and value (and (conjunction values) (conjunction more)) := by rw [appended]
        _ = and (and value (conjunction values)) (conjunction more) := (and_assoc ..).symm

theorem disjunction_append (values more : List Truth) :
    disjunction (values ++ more) = or (disjunction values) (disjunction more) := by
  induction values with
  | nil => rfl
  | cons value values appended =>
      calc or value (disjunction (values ++ more))
        _ = or value (or (disjunction values) (disjunction more)) := by rw [appended]
        _ = or (or value (disjunction values)) (disjunction more) := (or_assoc ..).symm

/-- The disjunction of groups, each of which is the conjunction of the truth values at its
places. -/
def ofGroups (truth : Nat → Truth) (groups : List (List Nat)) : Truth :=
  disjunction (groups.map fun group => conjunction (group.map truth))

theorem ofGroups_append (truth : Nat → Truth) (groups more : List (List Nat)) :
    ofGroups truth (groups ++ more) = or (ofGroups truth groups) (ofGroups truth more) := by
  rw [ofGroups, List.map_append, disjunction_append]
  rfl

@[simp] theorem ofGroups_single (truth : Nat → Truth) (group : List Nat) :
    ofGroups truth [group] = conjunction (group.map truth) :=
  disjunction_single _

/-- Moving the places of groups on is moving the truth values back. -/
theorem ofGroups_map_add (truth : Nat → Truth) (count : Nat) (groups : List (List Nat)) :
    ofGroups truth (groups.map (List.map (count + ·))) =
      ofGroups (fun place => truth (count + place)) groups := by
  simp only [ofGroups, List.map_map, Function.comp_def]

/-- A group of all places is the conjunction of its first ones and the ones behind them. -/
theorem ofGroups_range' (truth : Nat → Truth) (count more : Nat) :
    ofGroups truth [List.range' 0 (count + more)] =
      and (ofGroups truth [List.range' 0 count])
        (ofGroups (fun place => truth (count + place)) [List.range' 0 more]) := by
  have behind : (List.range' 0 more).map (count + ·) = List.range' (0 + count) more := by
    rw [List.map_add_range', Nat.add_comm]
  rw [← ofGroups_map_add, List.map_singleton, behind, ofGroups_single, ofGroups_single,
    ofGroups_single, ← conjunction_append, ← List.map_append, List.range'_append_1]

end Truth

/-- What a connective makes of two truth values. -/
def Connective.combine : Connective → Truth → Truth → Truth
  | .and => Truth.and
  | .or => Truth.or

/-- The connective that a part of a body is; the other parts are comparisons. -/
def Connective.ofPart? (part : Sql) : Option Connective :=
  all.find? fun connective => Sql.ofText connective.symbol == part

/-- A piece of SQL text, with the argument of its slot. -/
inductive FilledPiece
  | text (s : String)
  | argument (bound : Option Argument)

namespace Fragment

/-- The groups that the `or`s of a body make of its comparisons, which are numbered by their
places from `next` on.  An `and` only stands between the comparisons of a group. -/
def groupsFrom (next : Nat) : List Sql → List (List Nat)
  | [] => [[]]
  | part :: parts =>
      match Connective.ofPart? part with
      | some .or => [] :: groupsFrom next parts
      | some .and => groupsFrom next parts
      | none => (groupsFrom (next + 1) parts).modifyHead (next :: ·)

/-- What a body means when its comparisons have given truth values at their places. -/
def meaning (fragment : Fragment) (truth : Nat → Truth) : Truth :=
  Truth.ofGroups truth (groupsFrom 0 fragment.parts)

/-- A piece with the argument that has the number of its slot. -/
def fillPiece (start : Int) (arguments : List Argument) : Piece → FilledPiece
  | .text s => .text s
  | .slot index => .argument arguments[(index - start).toNat]?

/-- The comparisons among the parts of a body, with the arguments at their slots. -/
def filledComparisons
    (start : Int)
    (arguments : List Argument)
    (parts : List Sql) : List (List FilledPiece) :=
  (parts.filter fun part => (Connective.ofPart? part).isNone).map
    (List.map (fillPiece start arguments))

/-- The comparisons of a body at their places. -/
def comparisons (fragment : Fragment) : List (List FilledPiece) :=
  filledComparisons fragment.start fragment.arguments fragment.parts

/-- A body that has the comparisons of two bodies, one behind the other, and means what a
connective makes of the two. -/
structure Joins
    (fragment : Fragment)
    (connective : Connective)
    (first second : Fragment) : Prop where
  comparisons_eq : fragment.comparisons = first.comparisons ++ second.comparisons
  meaning_eq : ∀ truth : Nat → Truth,
    fragment.meaning truth =
      connective.combine (first.meaning truth)
        (second.meaning fun place => truth (first.comparisons.length + place))

end Fragment

namespace Connective

@[simp] theorem ofPart?_symbol (connective : Connective) :
    ofPart? (Sql.ofText connective.symbol) = some connective := by
  cases connective <;> decide

/-- An operator has characters that no connective has. -/
theorem exists_mem_symbol (connective : Connective) (operator : Comparison) :
    ∃ c ∈ operator.symbol.toList, c ∉ connective.symbol.toList := by
  have found : operator.symbol.toList.any (fun c => !connective.symbol.toList.contains c) := by
    cases connective <;> cases operator <;> rfl
  simpa using found

/-- Text around an operator is no connective. -/
theorem ofPart?_operator (field : String) (operator : Comparison) (other : String) :
    ofPart? [.text (field ++ operator.symbol ++ other)] = none := by
  rw [ofPart?, List.find?_eq_none]
  intro connective _ same
  obtain ⟨c, inOperator, notInConnective⟩ := exists_mem_symbol connective operator
  have symbols : connective.symbol = field ++ operator.symbol ++ other := by
    simpa [Sql.ofText] using same
  apply notInConnective
  simp [symbols, inOperator]

/-- Text with a slot is no connective. -/
theorem ofPart?_slot (s : String) (slot : Piece) : ofPart? [.text s, slot] = none := by
  rw [ofPart?, List.find?_eq_none]
  intro connective _ same
  simp [Sql.ofText] at same

end Connective

/-- A predicate as a comparison of a body, with its argument if it has one. -/
def Predicate.filled (p : Predicate) : List FilledPiece :=
  if p.isColumn then
    [.text (p.field ++ p.operator.symbol ++ p.value.display)]
  else
    [.text (p.field ++ p.operator.symbol), .argument p.argument]

namespace Conditions

/-- The groups that the `or`s of a sequence make of its predicates, which are numbered by their
places from `next` on. -/
def groupsFrom (next : Nat) : Conditions → List (List Nat)
  | [] => [[]]
  | .connective .or :: rest => [] :: groupsFrom next rest
  | .predicate _ :: rest => (groupsFrom (next + 1) rest).modifyHead (next :: ·)
  | _ :: rest => groupsFrom next rest

theorem groupsFrom_ne_nil (next : Nat) (conditions : Conditions) :
    groupsFrom next conditions ≠ [] := by
  fun_induction groupsFrom next conditions with
  | case1 => exact List.cons_ne_nil _ _
  | case2 => exact List.cons_ne_nil _ _
  | case3 next p rest nonempty => simpa using nonempty
  | case4 next item rest _ _ nonempty => exact nonempty

/-- Numbering the places of a sequence from a later one on moves them on. -/
theorem groupsFrom_add (count next : Nat) (conditions : Conditions) :
    groupsFrom (count + next) conditions =
      (groupsFrom next conditions).map (List.map (count + ·)) := by
  fun_induction groupsFrom next conditions with
  | case1 => rfl
  | case2 next rest moved => exact congrArg ([] :: ·) moved
  | case3 next p rest moved =>
      rw [groupsFrom, Nat.add_assoc, moved]
      cases groupsFrom (next + 1) rest <;> rfl
  | case4 next item rest noOr noPredicate moved =>
      rw [groupsFrom]
      · exact moved
      · exact noOr
      · exact noPredicate

/-- An `or` between two sequences keeps their groups. -/
theorem groupsFrom_or (next : Nat) (a b : Conditions) :
    groupsFrom next (a ++ .connective .or :: b) =
      groupsFrom next a ++ groupsFrom (next + a.predicates.length) b := by
  induction a generalizing next with
  | nil => rfl
  | cons item rest separated =>
      cases item with
      | foreign value => exact separated next
      | connective c =>
          cases c with
          | and => exact separated next
          | or => exact congrArg ([] :: ·) (separated next)
      | predicate p =>
          -- The predicate enters the first group, which is one of `rest` as there always is one.
          obtain ⟨group, groups, first⟩ :=
            List.exists_cons_of_ne_nil (groupsFrom_ne_nil (next + 1) rest)
          have places : next + 1 + (predicates rest).length =
              next + (predicates (.predicate p :: rest)).length := by
            simp [predicates, Item.predicate?]
            omega
          calc (groupsFrom (next + 1) (rest ++ .connective .or :: b)).modifyHead (next :: ·)
            _ = (groupsFrom (next + 1) rest).modifyHead (next :: ·) ++
                groupsFrom (next + 1 + (predicates rest).length) b := by
              rw [separated, first]
              rfl
            _ = _ := by rw [places]; rfl

/-- A sequence without `or` is one group of all its predicates. -/
theorem groupsFrom_of_no_or
    {conditions : Conditions}
    (noOr : .connective .or ∉ conditions)
    (next : Nat) :
    groupsFrom next conditions = [List.range' next conditions.predicates.length] := by
  induction conditions generalizing next with
  | nil => rfl
  | cons item rest oneGroup =>
      rw [List.mem_cons, not_or] at noOr
      cases item with
      | foreign value => exact oneGroup noOr.2 next
      | connective c =>
          cases c with
          | and => exact oneGroup noOr.2 next
          | or => exact absurd rfl noOr.1
      | predicate p =>
          rw [groupsFrom, oneGroup noOr.2]
          rfl

end Conditions

namespace Fragment

@[simp] theorem fillPiece_text (start : Int) (arguments : List Argument) (s : String) :
    fillPiece start arguments (.text s) = .text s := rfl

/-- A slot is filled with the argument behind as many arguments as its number is behind the
start. -/
@[simp] theorem fillPiece_slot (start : Int) (before after : List Argument) (argument : Argument) :
    fillPiece start (before ++ argument :: after) (.slot (start + before.length)) =
      .argument argument := by
  have place : (start + before.length - start).toNat = before.length := by omega
  rw [fillPiece, place, List.getElem?_append_right (Nat.le_refl _), Nat.sub_self]
  rfl

/-- A predicate is written as a comparison. -/
theorem isComparison_of_bindPredicate
    {next : Int}
    {p : Predicate}
    {sql : Sql}
    {bound : List Argument}
    (made : bindPredicate p.operator.symbol next p = .ok (sql, bound)) :
    Connective.ofPart? sql = none := by
  obtain ⟨_, rfl, _⟩ | ⟨_, rfl, _⟩ := bindPredicate_cases made
  · exact Connective.ofPart?_operator ..
  · exact Connective.ofPart?_slot ..

/-- The slot of a predicate has the argument of the predicate. -/
theorem map_fillPiece_of_bindPredicate
    {start : Int}
    {before bound : List Argument}
    {p : Predicate}
    {sql : Sql}
    (made : bindPredicate p.operator.symbol (start + before.length) p = .ok (sql, bound))
    (after : List Argument) :
    sql.map (fillPiece start (before ++ (bound ++ after))) = p.filled := by
  obtain ⟨column, rfl, rfl⟩ | ⟨column, rfl, rfl⟩ := bindPredicate_cases made
  · simp [Predicate.filled, column]
  · simp [Predicate.filled, column]

@[simp] theorem groupsFrom_and (next : Nat) (parts : List Sql) :
    groupsFrom next (Sql.ofText Connective.and.symbol :: parts) = groupsFrom next parts := by
  rw [groupsFrom, Connective.ofPart?_symbol]

@[simp] theorem groupsFrom_or (next : Nat) (parts : List Sql) :
    groupsFrom next (Sql.ofText Connective.or.symbol :: parts) = [] :: groupsFrom next parts := by
  rw [groupsFrom, Connective.ofPart?_symbol]

/-- The `or`s of a filter are those of its sequence. -/
theorem groupsFrom_filterParts
    {joined : Bool}
    {next : Int}
    {position : Nat}
    {conditions : Conditions}
    {parts : List Sql}
    {bound : List Argument}
    (made : filterParts joined next position conditions = .ok (parts, bound))
    (place : Nat) :
    groupsFrom place parts = conditions.groupsFrom place := by
  induction conditions generalizing joined next position parts bound place with
  | nil =>
      cases made
      rfl
  | cons item rest restGrouped =>
      cases item with
      | foreign value => cases made
      | connective c =>
          obtain ⟨⟨others, later⟩, bindsLater, finished⟩ := bind_eq_ok.mp made
          cases finished
          cases c with
          | and => exact (groupsFrom_and place others).trans (restGrouped bindsLater place)
          | or =>
              rw [groupsFrom_or, restGrouped bindsLater place]
              rfl
      | predicate p =>
          obtain ⟨⟨sql, first⟩, bindsFirst, made⟩ := bind_eq_ok.mp made
          obtain ⟨⟨others, later⟩, bindsLater, finished⟩ := bind_eq_ok.mp made
          cases finished
          have grouped : groupsFrom place (sql :: others) =
              Conditions.groupsFrom place (.predicate p :: rest) := by
            rw [groupsFrom, isComparison_of_bindPredicate bindsFirst]
            exact congrArg (List.modifyHead _) (restGrouped bindsLater (place + 1))
          cases joined with
          | false => exact grouped
          | true => exact (groupsFrom_and place (sql :: others)).trans grouped

@[simp] theorem filledComparisons_connective
    (start : Int)
    (arguments : List Argument)
    (connective : Connective)
    (parts : List Sql) :
    filledComparisons start arguments (Sql.ofText connective.symbol :: parts) =
      filledComparisons start arguments parts := by
  rw [filledComparisons, List.filter_cons_of_neg (by simp)]
  rfl

theorem filledComparisons_comparison
    {start : Int}
    {arguments : List Argument}
    {part : Sql}
    {parts : List Sql}
    (comparison : Connective.ofPart? part = none) :
    filledComparisons start arguments (part :: parts) =
      part.map (fillPiece start arguments) :: filledComparisons start arguments parts := by
  rw [filledComparisons, List.filter_cons_of_pos (by simp [comparison])]
  rfl

/-- The comparisons of a filter are the predicates of its sequence. -/
theorem filledComparisons_filterParts
    {joined : Bool}
    {start next : Int}
    {before : List Argument}
    {position : Nat}
    {conditions : Conditions}
    {parts : List Sql}
    {bound : List Argument}
    (made : filterParts joined next position conditions = .ok (parts, bound))
    (behind : next = start + before.length) :
    filledComparisons start (before ++ bound) parts =
      conditions.predicates.map Predicate.filled := by
  induction conditions generalizing joined next before position parts bound with
  | nil =>
      cases made
      rfl
  | cons item rest restFilled =>
      cases item with
      | foreign value => cases made
      | connective c =>
          obtain ⟨⟨others, later⟩, bindsLater, finished⟩ := bind_eq_ok.mp made
          cases finished
          rw [filledComparisons_connective]
          exact restFilled bindsLater behind
      | predicate p =>
          subst behind
          obtain ⟨⟨sql, first⟩, bindsFirst, made⟩ := bind_eq_ok.mp made
          obtain ⟨⟨others, later⟩, bindsLater, finished⟩ := bind_eq_ok.mp made
          cases finished
          have restOfAll : filledComparisons start (before ++ (first ++ later)) others =
              (Conditions.predicates rest).map Predicate.filled := by
            rw [← List.append_assoc]
            exact restFilled bindsLater (by simp [Int.add_assoc])
          have filled : filledComparisons start (before ++ (first ++ later)) (sql :: others) =
              (Conditions.predicates (.predicate p :: rest)).map Predicate.filled := by
            rw [filledComparisons_comparison (isComparison_of_bindPredicate bindsFirst),
              map_fillPiece_of_bindPredicate bindsFirst, restOfAll]
            rfl
          cases joined with
          | false => exact filled
          | true => exact (filledComparisons_connective ..).trans filled

/-- The comparisons of a filter are the predicates of its sequence. -/
theorem comparisons_forFilter
    {conditions : Conditions}
    {start : Int}
    {fragment : Fragment}
    (made : forFilter conditions start = .ok fragment) :
    fragment.comparisons = conditions.predicates.map Predicate.filled := by
  obtain ⟨_, _, made⟩ := bind_eq_ok.mp made
  obtain ⟨⟨parts, bound⟩, written, finished⟩ := bind_eq_ok.mp made
  cases finished
  exact @filledComparisons_filterParts _ start _ [] _ _ _ _ written (by simp)

/-- The meaning of a filter is that of the groups of its sequence. -/
theorem meaning_forFilter
    {conditions : Conditions}
    {start : Int}
    {fragment : Fragment}
    (made : forFilter conditions start = .ok fragment)
    (truth : Nat → Truth) :
    fragment.meaning truth = Truth.ofGroups truth (conditions.groupsFrom 0) := by
  obtain ⟨_, _, made⟩ := bind_eq_ok.mp made
  obtain ⟨⟨parts, bound⟩, written, finished⟩ := bind_eq_ok.mp made
  cases finished
  exact congrArg (Truth.ofGroups truth) (groupsFrom_filterParts written 0)

section Joining

variable {a b joined : Conditions} {first second fragment : Fragment} {start startA startB : Int}

/-- The join of two sequences by `or` is the disjunction of the two. -/
theorem joins_or
    (madeFirst : forFilter a startA = .ok first)
    (madeSecond : forFilter b startB = .ok second)
    (made : forFilter (a ++ .connective .or :: b) start = .ok fragment) :
    fragment.Joins .or first second where
  comparisons_eq := by
    rw [comparisons_forFilter made, comparisons_forFilter madeFirst,
      comparisons_forFilter madeSecond, ← List.map_append]
    simp [Conditions.predicates, List.filterMap_cons, Item.predicate?]
  meaning_eq truth := by
    -- The groups of the second body are those it has on its own, moved behind the first body.
    rw [meaning_forFilter made, meaning_forFilter madeFirst, meaning_forFilter madeSecond,
      comparisons_forFilter madeFirst, List.length_map, Conditions.groupsFrom_or,
      Truth.ofGroups_append, Nat.add_comm, Conditions.groupsFrom_add, Truth.ofGroups_map_add]
    rfl

/-- A sequence without `or` that has the predicates of two sequences is the conjunction of the
two. -/
theorem joins_and
    (madeFirst : forFilter a startA = .ok first)
    (madeSecond : forFilter b startB = .ok second)
    (made : forFilter joined start = .ok fragment)
    (predicates : joined.predicates = a.predicates ++ b.predicates)
    (noOrFirst : .connective .or ∉ a)
    (noOrSecond : .connective .or ∉ b)
    (noOr : .connective .or ∉ joined) :
    fragment.Joins .and first second where
  comparisons_eq := by
    rw [comparisons_forFilter made, comparisons_forFilter madeFirst,
      comparisons_forFilter madeSecond, ← List.map_append, predicates]
  meaning_eq truth := by
    rw [meaning_forFilter made, meaning_forFilter madeFirst, meaning_forFilter madeSecond,
      comparisons_forFilter madeFirst, List.length_map, Conditions.groupsFrom_of_no_or noOr,
      Conditions.groupsFrom_of_no_or noOrFirst, Conditions.groupsFrom_of_no_or noOrSecond,
      predicates, List.length_append]
    exact Truth.ofGroups_range' ..

/-- Two sequences of which filters are made can be joined, and what is made of the join means
what the connective makes of the two bodies: of a join by `or` whatever connectives the sequences
have, and of a join by `and`, or of the sequences side by side, where neither has an `or`. -/
theorem exists_joined_meaning
    (madeFirst : forFilter a startA = .ok first)
    (madeSecond : forFilter b startB = .ok second)
    (nonempty : a ≠ [])
    (others : b ≠ [])
    (positive : 1 ≤ start) :
    (∃ fragment, forFilter (Conditions.connect .or a b) start = .ok fragment ∧
        fragment.Joins .or first second) ∧
      (.connective .or ∉ a → .connective .or ∉ b →
        (∃ fragment, forFilter (Conditions.connect .and a b) start = .ok fragment ∧
            fragment.Joins .and first second) ∧
          ∃ fragment, forFilter (a ++ b) start = .ok fragment ∧
            fragment.Joins .and first second) := by
  have shapedFirst : a.Shaped := shaped_of_forFilter madeFirst
  have shapedSecond : b.Shaped := shaped_of_forFilter madeSecond
  have between (connective : Connective) :
      Conditions.connect connective a b = a ++ .connective connective :: b := by
    rw [Conditions.connect, if_neg (by simp [nonempty, others])]
  refine ⟨?_, fun noOrFirst noOrSecond => ⟨?_, ?_⟩⟩
  · obtain ⟨fragment, made, _⟩ := exists_forFilter (shapedFirst.connect .or shapedSecond) positive
    have joinedMade : forFilter (a ++ .connective .or :: b) start = .ok fragment := by
      rw [← between, made]
    exact ⟨fragment, made, joins_or madeFirst madeSecond joinedMade⟩
  · obtain ⟨fragment, made, _⟩ := exists_forFilter (shapedFirst.connect .and shapedSecond) positive
    refine ⟨fragment, made, joins_and madeFirst madeSecond made
      (Conditions.predicates_connect .and a b) noOrFirst noOrSecond ?_⟩
    simp [between, noOrFirst, noOrSecond]
  · obtain ⟨fragment, made, _⟩ := exists_forFilter (shapedFirst.append shapedSecond) positive
    refine ⟨fragment, made, joins_and madeFirst madeSecond made
      (Conditions.predicates_append a b) noOrFirst noOrSecond ?_⟩
    simp [noOrFirst, noOrSecond]

end Joining

/-- Predicates side by side in front of an `or`. -/
def sideBySide : Conditions :=
  [.predicate ⟨"a", .text "1", .integer, .eq⟩, .predicate ⟨"b", .text "c.d", .column, .lt⟩,
    .connective .or, .predicate ⟨"e", .text "x", .text, .ne⟩]

/-- An `and` behind an `or`. -/
def regrouped : Conditions :=
  [.predicate ⟨"f", .text "null", .null, .eq⟩, .connective .or,
    .predicate ⟨"g", .text "2", .integer, .ge⟩, .connective .and,
    .predicate ⟨"h", .text "3", .integer, .le⟩]

theorem exists_joined_meaning_regrouped :
    (∃ first second either,
      forFilter sideBySide 1 = .ok first ∧ forFilter regrouped 1 = .ok second ∧
        forFilter (Conditions.connect .or sideBySide regrouped) 1 = .ok either ∧
        either.Joins .or first second ∧
        either.sql.render .sqlite = "a=?1 and b<c.d or e!=?2 or f=?3 or g>=?4 and h<=?5" ∧
        ∀ truth, either.meaning truth = Truth.ofGroups truth [[0, 1], [2], [3], [4, 5]]) ∧
      ∃ first second both,
        forFilter (sideBySide.take 2) 1 = .ok first ∧
          forFilter (regrouped.drop 2) 1 = .ok second ∧
          forFilter (sideBySide.take 2 ++ regrouped.drop 2) 1 = .ok both ∧
          both.Joins .and first second ∧
          both.sql.render .sqlite = "a=?1 and b<c.d and g>=?2 and h<=?3" := by
  constructor
  · obtain ⟨either, made, joins⟩ :=
      (exists_joined_meaning (show forFilter sideBySide 1 = .ok _ from rfl)
        (show forFilter regrouped 1 = .ok _ from rfl)
        (List.cons_ne_nil _ _) (List.cons_ne_nil _ _) (show (1 : Int) ≤ 1 by decide)).1
    refine ⟨_, _, either, rfl, rfl, made, joins, ?_, meaning_forFilter made⟩
    cases made
    decide +kernel
  · have noOrFirst : .connective .or ∉ sideBySide.take 2 := by simp [sideBySide]
    have noOrSecond : .connective .or ∉ regrouped.drop 2 := by simp [regrouped]
    obtain ⟨_, both, made, joins⟩ :=
      (exists_joined_meaning (show forFilter (sideBySide.take 2) 1 = .ok _ from rfl)
        (show forFilter (regrouped.drop 2) 1 = .ok _ from rfl)
        (List.cons_ne_nil _ _) (List.cons_ne_nil _ _)
        (show (1 : Int) ≤ 1 by decide)).2 noOrFirst noOrSecond
    refine ⟨_, _, both, rfl, rfl, made, joins, ?_⟩
    cases made
    decide +kernel

end Fragment
end BoundSql
