import BoundSql.Log
import BoundSql.Proofs.Condition.Chain
import BoundSql.Proofs.Sql.Text

/-!
# Places of connectives

Which sequences make a filter, told by the places of their members: every connective has
a predicate directly before it and directly behind it, and there is nothing else than
predicates and connectives.

Where a filter is not made, the connectives are looked at first, with other members
taken for predicates.  The error is about the first connective that has nothing on its
left, or, if there is none, about the connective at the end.  Only when all connectives
are well placed it is about the first member that is no condition.
-/

namespace BoundSql
namespace Conditions

/-- Whether there is a connective at a place. -/
def ConnectiveAt (conditions : Conditions) (place : Nat) : Prop :=
  ∃ connective, conditions[place]? = some (.connective connective)

/-- Whether there is a predicate at a place. -/
def PredicateAt (conditions : Conditions) (place : Nat) : Prop :=
  ∃ p, conditions[place]? = some (.predicate p)

/-- Whether there is a member at a place that is no condition. -/
def ForeignAt (conditions : Conditions) (place : Nat) : Prop :=
  ∃ value, conditions[place]? = some (.foreign value)

/-- Whether there is a connective directly before a place. -/
def ConnectiveBefore (conditions : Conditions) (place : Nat) : Prop :=
  ∃ before, place = before + 1 ∧ conditions.ConnectiveAt before

/-- Whether the connective at a place has nothing on its left: it is the first member, or it follows
another connective. -/
def NothingOnLeft (conditions : Conditions) (place : Nat) : Prop :=
  conditions.ConnectiveAt place ∧ (place = 0 ∨ conditions.ConnectiveBefore place)

/-- Whether a connective is first, follows another one, or is last. -/
def Misplaced (conditions : Conditions) : Prop :=
  (∃ place, conditions.NothingOnLeft place) ∨ conditions.ConnectiveBefore conditions.length

/-- The place that a misplaced connective is reported at: that of the first one with nothing on its
left, or else that of the last member. -/
def ReportedAt (conditions : Conditions) (place : Nat) : Prop :=
  (conditions.NothingOnLeft place ∧ ∀ earlier < place, ¬conditions.NothingOnLeft earlier) ∨
    ((∀ other, ¬conditions.NothingOnLeft other) ∧ conditions.length = place + 1)

/-- All members are conditions, and every connective has a predicate directly before it and directly
behind it. -/
structure Placed (conditions : Conditions) : Prop where
  conditionsOnly : ∀ place, ¬conditions.ForeignAt place
  predicateBefore : ∀ place, conditions.ConnectiveAt place →
    ∃ before, place = before + 1 ∧ conditions.PredicateAt before
  predicateBehind : ∀ place, conditions.ConnectiveAt place → conditions.PredicateAt (place + 1)

/-- The errors that a sequence is refused with: one about a misplaced connective if there is any, or
else one about the first member that is no condition. -/
inductive RefusedWith (conditions : Conditions) : Error → Prop
  | misplaced {fault : SequenceFault} {place : Nat}
      (misplaced : conditions.Misplaced)
      (reported : conditions.ReportedAt place)
      (position : fault.position = .int place) :
      RefusedWith conditions (.sequence fault)
  | foreign {place : Nat} {value : Value}
      (wellPlaced : ¬conditions.Misplaced)
      (found : conditions[place]? = some (.foreign value))
      (first : ∀ earlier < place, ¬conditions.ForeignAt earlier) :
      RefusedWith conditions (.compile (.foreignItem place value.typeName))

/-- Whether a filter has the text of a sequence: none if it is empty, and else the comparisons and
connectives of its chain with blanks between them. -/
def WrittenAs (conditions : Conditions) (start : Int) (fragment : Fragment) : Prop :=
  conditions = [] ∧ (∀ dialect, fragment.text dialect = "") ∨
    ∃ chain, conditions.ReadsAs chain ∧ chain.predicates = conditions.predicates ∧
      ∀ dialect, fragment.text dialect =
        " ".intercalate ((chain.parts start).map (Sql.render dialect))

variable {conditions : Conditions} {place : Nat}

theorem ConnectiveAt.lt_length (connective : conditions.ConnectiveAt place) :
    place < conditions.length := by
  obtain ⟨_, found⟩ := connective
  exact (List.getElem?_eq_some_iff.mp found).1

theorem PredicateAt.not_connectiveAt (predicate : conditions.PredicateAt place) :
    ¬conditions.ConnectiveAt place := by
  rintro ⟨_, connective⟩
  obtain ⟨_, found⟩ := predicate
  rw [found] at connective
  cases connective

/-- A member is a predicate if it is neither a connective nor no condition. -/
theorem predicateAt_of_lt
    (within : place < conditions.length)
    (noConnective : ¬conditions.ConnectiveAt place)
    (noForeign : ¬conditions.ForeignAt place) :
    conditions.PredicateAt place := by
  have found := List.getElem?_eq_getElem within
  cases member : conditions[place] with
  | predicate p => exact ⟨p, by rw [found, member]⟩
  | connective c => exact absurd ⟨c, by rw [found, member]⟩ noConnective
  | foreign value => exact absurd ⟨value, by rw [found, member]⟩ noForeign

/-- Connectives are well placed among conditions exactly when none is misplaced. -/
theorem placed_iff :
    conditions.Placed ↔ (∀ place, ¬conditions.ForeignAt place) ∧ ¬conditions.Misplaced := by
  constructor
  · intro placed
    refine ⟨placed.conditionsOnly, ?_⟩
    rintro (⟨place, connective, first | ⟨before, rfl, follows⟩⟩ | ⟨last, ends, connective⟩)
    · obtain ⟨before, behind, _⟩ := placed.predicateBefore place connective
      omega
    · obtain ⟨other, same, predicate⟩ := placed.predicateBefore _ connective
      obtain rfl : before = other := by omega
      exact predicate.not_connectiveAt follows
    · obtain ⟨p, found⟩ := placed.predicateBehind last connective
      have within := (List.getElem?_eq_some_iff.mp found).1
      omega
  · rintro ⟨conditionsOnly, wellPlaced⟩
    rw [Misplaced, not_or, not_exists] at wellPlaced
    obtain ⟨led, closed⟩ := wellPlaced
    refine ⟨conditionsOnly, fun place connective => ?_, fun place connective => ?_⟩
    · cases place with
      | zero => exact absurd ⟨connective, .inl rfl⟩ (led 0)
      | succ before =>
          have within := connective.lt_length
          refine ⟨before, rfl, predicateAt_of_lt (by omega) ?_ (conditionsOnly before)⟩
          exact fun follows => led (before + 1) ⟨connective, .inr ⟨before, rfl, follows⟩⟩
    · have notLast : conditions.length ≠ place + 1 := fun ends =>
        closed ⟨place, ends, connective⟩
      have within := connective.lt_length
      refine predicateAt_of_lt (by omega) ?_ (conditionsOnly (place + 1))
      exact fun next => led (place + 1) ⟨next, .inr ⟨place, rfl, connective⟩⟩

/-- What is known of a sequence when its members before a place have passed the check. -/
structure Passed (conditions : Conditions) (place : Nat) (expecting : Bool) : Prop where
  led : ∀ earlier < place, ¬conditions.NothingOnLeft earlier
  expecting_iff : expecting = true ↔ place = 0 ∨ conditions.ConnectiveBefore place

/-- A member that is no connective passes. -/
theorem Passed.member
    {expecting : Bool}
    (passed : conditions.Passed place expecting)
    (noConnective : ¬conditions.ConnectiveAt place) :
    conditions.Passed (place + 1) false where
  led earlier before := by
    obtain before | rfl := Nat.lt_succ_iff_lt_or_eq.mp before
    · exact passed.led earlier before
    · exact fun unled => noConnective unled.1
  expecting_iff := by
    refine ⟨nofun, ?_⟩
    rintro (first | ⟨before, same, connective⟩)
    · omega
    · obtain rfl : place = before := by omega
      exact absurd connective noConnective

/-- A connective passes where no predicate is expected. -/
theorem Passed.connective
    (passed : conditions.Passed place false)
    (connective : conditions.ConnectiveAt place) :
    conditions.Passed (place + 1) true where
  led earlier before := by
    obtain before | rfl := Nat.lt_succ_iff_lt_or_eq.mp before
    · exact passed.led earlier before
    · exact fun unled => Bool.false_ne_true (passed.expecting_iff.mpr unled.2)
  expecting_iff := ⟨fun _ => .inr ⟨place, rfl, connective⟩, fun _ => rfl⟩

/-- What the check of the shape of a sequence can come to. -/
inductive Verdict (conditions : Conditions) : Except Error Unit → Prop
  | passes (placed : ¬conditions.Misplaced) : Verdict conditions (.ok ())
  | fails {fault : SequenceFault} {place : Nat}
      (misplaced : conditions.Misplaced)
      (reported : conditions.ReportedAt place)
      (position : fault.position = .int place) :
      Verdict conditions (.error (.sequence fault))

end Conditions

namespace Fragment

variable {conditions : Conditions}

/-- The check goes over the members from left to right, and decides by those that it has passed. -/
theorem verdict_checkShape_drop
    {rest : Conditions}
    {place : Nat}
    {expecting : Bool}
    (remaining : conditions.drop place = rest)
    (within : place ≤ conditions.length)
    (passed : conditions.Passed place expecting) :
    conditions.Verdict (checkShape expecting place rest) := by
  induction rest generalizing place expecting with
  | nil =>
      have ends : conditions.length = place :=
        Nat.le_antisymm (List.drop_eq_nil_iff.mp remaining) within
      have led : ∀ other, ¬conditions.NothingOnLeft other := fun other unled =>
        passed.led other (ends ▸ unled.1.lt_length) unled
      rw [checkShape]
      split
      · rename_i expects
        rw [Bool.and_eq_true, bne_iff_ne] at expects
        obtain first | ⟨last, rfl, connective⟩ := passed.expecting_iff.mp expects.1
        · exact absurd first expects.2
        · have reported : conditions.ReportedAt last := .inr ⟨led, ends⟩
          refine .fails (.inr ⟨last, ends, connective⟩) reported ?_
          rw [SequenceFault.position, Nat.add_sub_cancel]
      · rename_i satisfied
        refine .passes ?_
        rintro (⟨other, unled⟩ | trails)
        · exact led other unled
        · have expects := passed.expecting_iff.mpr (.inr (ends ▸ trails))
          obtain ⟨last, behind, _⟩ := trails
          simp [expects, show place ≠ 0 by omega] at satisfied
  | cons item rest verdict =>
      have found : conditions[place]? = some item := by
        rw [← List.head?_drop, remaining]
        rfl
      have further : conditions.drop (place + 1) = rest := by
        rw [← List.tail_drop, remaining]
        rfl
      have withinNext : place + 1 ≤ conditions.length :=
        (List.getElem?_eq_some_iff.mp found).1
      cases item with
      | predicate p =>
          refine verdict further withinNext (passed.member ?_)
          exact Conditions.PredicateAt.not_connectiveAt ⟨p, found⟩
      | foreign value =>
          refine verdict further withinNext (passed.member ?_)
          rintro ⟨_, connective⟩
          rw [found] at connective
          cases connective
      | connective c =>
          cases expecting with
          | true =>
              have unled : conditions.NothingOnLeft place :=
                ⟨⟨c, found⟩, passed.expecting_iff.mp rfl⟩
              exact .fails (.inl ⟨place, unled⟩) (.inl ⟨unled, passed.led⟩) rfl
          | false => exact verdict further withinNext (passed.connective ⟨c, found⟩)

theorem verdict_checkShape (conditions : Conditions) :
    conditions.Verdict (checkShape true 0 conditions) :=
  verdict_checkShape_drop List.drop_zero (Nat.zero_le _)
    ⟨fun _ before => absurd before (Nat.not_lt_zero _), ⟨fun _ => .inl rfl, fun _ => rfl⟩⟩

/-- The shape is checked without an error exactly when no connective is misplaced. -/
theorem checkShape_eq_ok_iff : checkShape true 0 conditions = .ok () ↔ ¬conditions.Misplaced := by
  have verdict := verdict_checkShape conditions
  generalize checkShape true 0 conditions = result at verdict
  cases verdict with
  | passes placed => exact ⟨fun _ => placed, fun _ => rfl⟩
  | fails misplaced _ _ => exact ⟨nofun, fun placed => absurd misplaced placed⟩

/-- A check of the shape that fails reports the place of a misplaced connective. -/
theorem checkShape_eq_error
    {error : Error}
    (failed : checkShape true 0 conditions = .error error) :
    conditions.RefusedWith error := by
  have verdict := verdict_checkShape conditions
  rw [failed] at verdict
  cases verdict with
  | fails misplaced reported position => exact .misplaced misplaced reported position

/-- Sequences with a member that is no condition are not written. -/
theorem not_foreignAt_of_filterParts
    {joined : Bool}
    {next : Int}
    {position : Nat}
    {written : List Sql × List Argument}
    (parts : filterParts joined next position conditions = .ok written)
    (place : Nat) :
    ¬conditions.ForeignAt place := by
  rintro ⟨value, found⟩
  induction conditions generalizing joined next position written place with
  | nil => cases found
  | cons item rest restWritten =>
      cases item with
      | foreign other => cases parts
      | connective c =>
          obtain ⟨others, restParts, _⟩ := bind_eq_ok.mp parts
          cases place with
          | zero => cases found
          | succ place => exact restWritten restParts place found
      | predicate p =>
          obtain ⟨first, _, later⟩ := bind_eq_ok.mp parts
          obtain ⟨others, restParts, _⟩ := bind_eq_ok.mp later
          cases place with
          | zero => cases found
          | succ place => exact restWritten restParts place found

/-- With positive numbers only the first member that is no condition keeps a sequence from being
written. -/
theorem filterParts_eq_error
    {joined : Bool}
    {next : Int}
    (positive : 1 ≤ next)
    {position : Nat}
    {error : Error}
    (failed : filterParts joined next position conditions = .error error) :
    ∃ place value, conditions[place]? = some (.foreign value) ∧
      (∀ earlier < place, ¬conditions.ForeignAt earlier) ∧
      error = foreignError (position + place) value := by
  induction conditions generalizing joined next position with
  | nil => cases failed
  | cons item rest restFails =>
      -- A member that is a condition is passed over, and the first fault is that of the rest.
      have passOver
          (isCondition : ∀ value, item ≠ .foreign value)
          {place : Nat} {value : Value}
          (found : rest[place]? = some (.foreign value))
          (least : ∀ earlier < place, ¬Conditions.ForeignAt rest earlier)
          (same : error = foreignError (position + 1 + place) value) :
          ∃ place value, (item :: rest)[place]? = some (.foreign value) ∧
            (∀ earlier < place, ¬Conditions.ForeignAt (item :: rest) earlier) ∧
            error = foreignError (position + place) value := by
        refine ⟨place + 1, value, found, fun earlier before foreign => ?_, ?_⟩
        · cases earlier with
          | zero =>
              obtain ⟨other, first⟩ := foreign
              exact isCondition other (Option.some.inj first)
          | succ earlier => exact least earlier (by omega) foreign
        · rw [same, Nat.add_assoc, Nat.add_comm 1]
      cases item with
      | foreign value =>
          cases failed
          exact ⟨0, value, rfl, fun _ before => absurd before (Nat.not_lt_zero _), rfl⟩
      | connective c =>
          obtain failedRest | ⟨_, _, finished⟩ := bind_eq_error.mp failed
          · obtain ⟨place, value, found, least, same⟩ := restFails positive failedRest
            exact passOver (fun _ foreign => by cases foreign) found least same
          · cases finished
      | predicate p =>
          rw [filterParts, bindPredicate_of_pos positive] at failed
          obtain failedFirst | ⟨_, bindsFirst, failed⟩ := bind_eq_error.mp failed
          · cases failedFirst
          · cases bindsFirst
            obtain failedRest | ⟨_, _, finished⟩ := bind_eq_error.mp failed
            · obtain ⟨place, value, found, least, same⟩ := restFails (by omega) failedRest
              exact passOver (fun _ foreign => by cases foreign) found least same
            · cases finished

/-- The text of the filter of a chain. -/
theorem text_filter (dialect : Dialect) (start : Int) (chain : Chain) :
    (chain.filter start).text dialect =
      " ".intercalate ((chain.parts start).map (Sql.render dialect)) :=
  Sql.render_joinWith dialect " " (chain.parts start)

/-- From a positive start on, filters are made of the sequences whose connectives are well placed
among conditions, and of no others.  They have the text of the chain of their sequence, and the
other sequences are refused for the first fault, a misplaced connective before any other. -/
theorem forFilter_places (conditions : Conditions) {start : Int} (positive : 1 ≤ start) :
    ((∃ fragment, forFilter conditions start = .ok fragment) ↔ conditions.Placed) ∧
      (∀ fragment, forFilter conditions start = .ok fragment →
        conditions.WrittenAs start fragment) ∧
      ∀ error, forFilter conditions start = .error error → conditions.RefusedWith error := by
  refine ⟨⟨?_, ?_⟩, ?_, ?_⟩
  · rintro ⟨fragment, made⟩
    obtain ⟨_, passes, made⟩ := bind_eq_ok.mp made
    obtain ⟨written, parts, _⟩ := bind_eq_ok.mp made
    exact Conditions.placed_iff.mpr
      ⟨not_foreignAt_of_filterParts parts, checkShape_eq_ok_iff.mp passes⟩
  · intro placed
    obtain ⟨conditionsOnly, wellPlaced⟩ := Conditions.placed_iff.mp placed
    cases outcome : forFilter conditions start with
    | ok fragment => exact ⟨fragment, rfl⟩
    | error error =>
        obtain failed | ⟨_, _, failed⟩ := bind_eq_error.mp outcome
        · rw [checkShape_eq_ok_iff.mpr wellPlaced] at failed
          cases failed
        · obtain failed | ⟨_, _, finished⟩ := bind_eq_error.mp failed
          · obtain ⟨place, value, found, _⟩ := filterParts_eq_error positive failed
            exact absurd ⟨value, found⟩ (conditionsOnly place)
          · cases finished
  · intro fragment made
    obtain rfl | ⟨chain, reads⟩ := eq_nil_or_readsAs_of_forFilter made
    · cases made
      exact .inl ⟨rfl, fun _ => rfl⟩
    · rw [forFilter_of_readsAs reads positive] at made
      cases made
      exact .inr ⟨chain, reads, reads.predicates_eq.symm, fun dialect =>
        text_filter dialect start chain⟩
  · intro error outcome
    obtain failed | ⟨_, passes, failed⟩ := bind_eq_error.mp outcome
    · exact checkShape_eq_error failed
    · obtain failed | ⟨_, _, finished⟩ := bind_eq_error.mp failed
      · obtain ⟨place, value, found, first, rfl⟩ := filterParts_eq_error positive failed
        rw [foreignError, Nat.zero_add]
        exact .foreign (checkShape_eq_ok_iff.mp passes) found first
      · cases finished

/-- A comparison behind an `or`, with another one beside it. -/
def beside : Conditions :=
  [.predicate ⟨"a", .text "1", .integer, .eq⟩, .connective .or,
    .predicate ⟨"b", .text "c.d", .column, .lt⟩, .predicate ⟨"e", .text "x", .text, .ne⟩]

/-- Two connectives in a row, and something that is no condition. -/
def doubled : Conditions :=
  [.foreign (.int 7), .connective .or, .connective .and, .foreign .null]

theorem forFilter_places_beside :
    (∃ fragment, forFilter beside 3 = .ok fragment ∧ beside.Placed ∧
      fragment.text .sqlite = "a=?3 or b<c.d and e!=?4" ∧ beside.WrittenAs 3 fragment) ∧
      ∃ error, forFilter doubled 3 = .error error ∧ doubled.RefusedWith error ∧
        error.message = "Logical operator 'and' at position 2 has no condition on its left" := by
  have positive : (1 : Int) ≤ 3 := by decide
  constructor
  · have made : forFilter beside 3 = .ok _ := rfl
    exact ⟨_, made, (forFilter_places beside positive).1.mp ⟨_, made⟩, by decide +kernel,
      (forFilter_places beside positive).2.1 _ made⟩
  · have refused : forFilter doubled 3 = .error _ := rfl
    exact ⟨_, refused, (forFilter_places doubled positive).2.2 _ refused, by decide +kernel⟩

end Fragment
end BoundSql
