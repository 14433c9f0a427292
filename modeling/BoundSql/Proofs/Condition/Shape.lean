import BoundSql.Proofs.Sql.Placeholder

/-!
# Well-shaped sequences

A sequence is well shaped when each of its connectives stands between two
predicates and it has no other members.  Appending well-shaped sequences and
joining them by a connective keeps the shape, also when one of them is empty, and
a filter is made of every well-shaped sequence.
-/

namespace BoundSql
namespace Conditions

/-- Every connective stands between two predicates, and all other members are predicates. -/
inductive Shaped : Conditions → Prop
  | empty : Shaped []
  | predicate (p : Predicate) {rest : Conditions} :
      Shaped rest → Shaped (.predicate p :: rest)
  | connected (p : Predicate) (c : Connective) (q : Predicate) {rest : Conditions} :
      Shaped (.predicate q :: rest) →
      Shaped (.predicate p :: .connective c :: .predicate q :: rest)

namespace Shaped

theorem single (p : Predicate) : Shaped [.predicate p] :=
  .predicate p .empty

/-- Side by side well-shaped sequences are well shaped. -/
theorem append {a b : Conditions} (first : Shaped a) (second : Shaped b) : Shaped (a ++ b) := by
  induction first with
  | empty => exact second
  | predicate p _ rest => exact .predicate p rest
  | connected p c q _ rest => exact .connected p c q rest

/-- A sequence that is well shaped and not empty begins with a predicate. -/
theorem exists_cons {a : Conditions} (shaped : Shaped a) (nonempty : a ≠ []) :
    ∃ p rest, a = .predicate p :: rest := by
  cases shaped with
  | empty => exact absurd rfl nonempty
  | predicate p _ => exact ⟨p, _, rfl⟩
  | connected p c q _ => exact ⟨p, _, rfl⟩

/-- A connective between two well-shaped sequences that are not empty stands between two
predicates. -/
theorem between
    {a b : Conditions}
    (connective : Connective)
    (first : Shaped a)
    (second : Shaped b)
    (nonempty : a ≠ [])
    (others : b ≠ []) :
    Shaped (a ++ .connective connective :: b) := by
  obtain ⟨q, rest, rfl⟩ := second.exists_cons others
  induction first with
  | empty => exact absurd rfl nonempty
  | @predicate p tail _ shapedTail =>
      cases tail with
      | nil => exact .connected p connective q second
      | cons item items => exact .predicate p (shapedTail (List.cons_ne_nil item items))
  | connected p c r _ shapedTail =>
      exact .connected p c r (shapedTail (List.cons_ne_nil _ _))

/-- Joining by a connective keeps the shape. -/
theorem connect
    {a b : Conditions}
    (connective : Connective)
    (first : Shaped a)
    (second : Shaped b) :
    Shaped (Conditions.connect connective a b) := by
  unfold Conditions.connect
  split
  · exact first.append second
  · rename_i nonempty
    simp only [Bool.or_eq_true, List.isEmpty_iff, not_or] at nonempty
    exact between connective first second nonempty.1 nonempty.2

end Shaped
end Conditions

namespace Fragment

/-- A predicate is written with any positive number. -/
theorem exists_bindPredicate
    (operator : String)
    {next : Int}
    (positive : 1 ≤ next)
    (p : Predicate) :
    ∃ written, bindPredicate operator next p = .ok written := by
  unfold bindPredicate slotAt
  cases p.isColumn with
  | true => exact ⟨_, rfl⟩
  | false =>
      rw [if_neg (show ¬next < 1 by omega)]
      exact ⟨_, rfl⟩

/-- A well-shaped sequence passes the check of its shape; an empty one only where no predicate is
expected or nothing stands before it. -/
theorem checkShape_of_shaped
    {conditions : Conditions}
    (shaped : conditions.Shaped)
    {expecting : Bool}
    {position : Nat}
    (complete : expecting = true → position = 0 ∨ conditions ≠ []) :
    checkShape expecting position conditions = .ok () := by
  induction shaped generalizing expecting position with
  | empty =>
      cases expecting with
      | false => rfl
      | true =>
          obtain rfl | nonempty := complete rfl
          · rfl
          · exact absurd rfl nonempty
  | predicate p _ restPasses => exact restPasses nofun
  | connected p c q _ restPasses =>
      exact @restPasses true (position + 2) fun _ =>
        .inr (List.cons_ne_nil _ _)

/-- The parts of a well-shaped sequence are written from any positive number on. -/
theorem exists_filterParts
    {conditions : Conditions}
    (shaped : conditions.Shaped)
    {joined : Bool}
    {next : Int}
    {position : Nat}
    (positive : 1 ≤ next) :
    ∃ written, filterParts joined next position conditions = .ok written := by
  induction shaped generalizing joined next position with
  | empty => exact ⟨_, rfl⟩
  | predicate p _ restWritten =>
      obtain ⟨⟨sql, bound⟩, first⟩ := exists_bindPredicate p.operator.symbol positive p
      obtain ⟨written, rest⟩ := @restWritten true (next + bound.length) (position + 1)
        (by omega)
      exact ⟨_, bind_eq_ok.mpr ⟨_, first, bind_eq_ok.mpr ⟨written, rest, rfl⟩⟩⟩
  | connected p c q _ restWritten =>
      obtain ⟨⟨sql, bound⟩, first⟩ := exists_bindPredicate p.operator.symbol positive p
      obtain ⟨written, rest⟩ := @restWritten false (next + bound.length)
        (position + 1 + 1) (by omega)
      have connected : ∃ others, filterParts true (next + bound.length) (position + 1)
          (.connective c :: .predicate q :: _) = .ok others :=
        ⟨_, bind_eq_ok.mpr ⟨written, rest, rfl⟩⟩
      obtain ⟨others, connected⟩ := connected
      exact ⟨_, bind_eq_ok.mpr ⟨_, first, bind_eq_ok.mpr ⟨others, connected, rfl⟩⟩⟩

/-- A filter is made of every well-shaped sequence, with the arguments of its predicates. -/
theorem exists_forFilter
    {conditions : Conditions}
    (shaped : conditions.Shaped)
    {start : Int}
    (positive : 1 ≤ start) :
    ∃ fragment, forFilter conditions start = .ok fragment ∧
      fragment.arguments = conditions.arguments ∧
      fragment.sql.slots = numbered start fragment.arguments.length := by
  have passes : checkShape true 0 conditions = .ok () :=
    checkShape_of_shaped shaped fun _ => .inl rfl
  have someParts : ∃ written, filterParts false start 0 conditions = .ok written :=
    exists_filterParts shaped positive
  obtain ⟨written, parts⟩ := someParts
  have made : ∃ fragment, forFilter conditions start = .ok fragment :=
    ⟨_, bind_eq_ok.mpr ⟨(), passes, bind_eq_ok.mpr ⟨written, parts, rfl⟩⟩⟩
  obtain ⟨fragment, made⟩ := made
  exact ⟨fragment, made, (forFilter_eq_ok made).2⟩

/-- A sequence of which a filter is made passes the check of its shape and has no other members
than predicates and connectives, so it is well shaped.  Behind a predicate it may begin with a
connective. -/
theorem shaped_of_checkShape
    {conditions : Conditions}
    {joined : Bool}
    {next : Int}
    {position : Nat}
    {written : List Sql × List Argument}
    (parts : filterParts joined next position conditions = .ok written) :
    (checkShape true position conditions = .ok () → conditions.Shaped) ∧
      (checkShape false position conditions = .ok () →
        ∀ p, Conditions.Shaped (.predicate p :: conditions)) := by
  induction conditions generalizing joined next position written with
  | nil => exact ⟨fun _ => .empty, fun _ p => .single p⟩
  | cons item rest restShaped =>
      cases item with
      | foreign value => cases parts
      | connective c =>
          obtain ⟨others, restParts, _⟩ := bind_eq_ok.mp parts
          refine ⟨nofun, fun passes p => ?_⟩
          have shaped : Conditions.Shaped rest := (restShaped restParts).1 passes
          have nonempty : rest ≠ [] := by
            rintro rfl
            cases passes
          obtain ⟨q, tail, rfl⟩ := shaped.exists_cons nonempty
          exact .connected p c q shaped
      | predicate q =>
          obtain ⟨first, _, later⟩ := bind_eq_ok.mp parts
          obtain ⟨others, restParts, _⟩ := bind_eq_ok.mp later
          refine ⟨fun passes => (restShaped restParts).2 passes q, fun passes p => ?_⟩
          exact .predicate p ((restShaped restParts).2 passes q)

/-- Filters are made of well-shaped sequences only. -/
theorem shaped_of_forFilter
    {conditions : Conditions}
    {start : Int}
    {fragment : Fragment}
    (made : forFilter conditions start = .ok fragment) :
    conditions.Shaped := by
  obtain ⟨_, passes, made⟩ := bind_eq_ok.mp made
  obtain ⟨written, parts, _⟩ := bind_eq_ok.mp made
  exact (shaped_of_checkShape parts).1 passes

end Fragment
end BoundSql
