import BoundSql.Proofs.Sql.Numbering

/-!
# Placeholders of statements

A dialect spells the slots of SQL text.  What stands before, between and behind
the slots does not depend on the dialect: it is the leading text and the texts
that trail the slots.

A statement binds arguments in order when its slots are numbered from one on, one
for each of the arguments.  Each statement on one table does.
-/

namespace BoundSql

namespace Sql

/-- The literal text before the first slot. -/
def leading : Sql → String
  | [] => ""
  | .text s :: sql => s ++ leading sql
  | .slot _ :: _ => ""

/-- The literal texts behind the slots, each up to the next slot. -/
def trailing : Sql → List String
  | [] => []
  | .text _ :: sql => trailing sql
  | .slot _ :: sql => leading sql :: trailing sql

theorem length_trailing (sql : Sql) : sql.trailing.length = sql.slots.length := by
  induction sql with
  | nil => rfl
  | cons piece sql sameLength =>
      cases piece with
      | text s => simpa [trailing] using sameLength
      | slot index => simpa [trailing] using sameLength

/-- SQL text in a dialect is its literal text with the placeholders woven in. -/
theorem render_eq_weave (dialect : Dialect) (sql : Sql) :
    sql.render dialect = sql.leading ++
      String.join (List.zipWith (· ++ ·) (sql.slots.map dialect.slot) sql.trailing) := by
  induction sql with
  | nil => simp [leading, trailing]
  | cons piece sql rendered =>
      cases piece with
      | text s => simp [Piece.render, leading, trailing, rendered, String.append_assoc]
      | slot index =>
          simp [Piece.render, leading, trailing, rendered, String.join_cons,
            String.append_assoc]

end Sql

namespace Quantity

/-- A positive whole number has a digit before the point. -/
theorem isBelowOne_of_pos {i : Int} (positive : 1 ≤ i) : isBelowOne (.scaled i 0) = false := by
  have hasDigit : 0 < (Nat.toDigits 10 i.natAbs).length := Nat.length_toDigits_pos
  have notBelow : ¬i ≤ 0 := by omega
  have notBefore : ¬leadingPlace i 0 ≤ 0 := by
    unfold leadingPlace
    omega
  simp [isBelowOne, notBelow, notBefore]

end Quantity

namespace Dialect

/-- A dialect has a placeholder for every positive number. -/
theorem slotFor_int (dialect : Dialect) {index : Int} (positive : 1 ≤ index) :
    dialect.slotFor (.int index) = .ok (dialect.slot index) := by
  have ordered : hasOrder (.int index) = true := rfl
  have quantity : (Value.int index).quantity? = some (.scaled index 0) := rfl
  rw [slotFor, ordered, quantity, Option.map_some, Option.getD_some,
    Quantity.isBelowOne_of_pos positive]
  rfl

/-- A dialect has placeholders for numbers in a row from a positive one on, and for none at all. -/
theorem mapM_slotFor_numbered
    (dialect : Dialect)
    {first : Int}
    {count : Nat}
    (positive : count ≠ 0 → 1 ≤ first) :
    (numbered first count).mapM (fun index => dialect.slotFor (.int index)) =
      .ok ((numbered first count).map dialect.slot) := by
  apply mapM_eq_ok_map
  intro index member
  obtain ⟨place, before, rfl⟩ := List.mem_map.mp member
  have atLeastOne := positive (Nat.ne_zero_of_lt (List.mem_range.mp before))
  exact dialect.slotFor_int (by omega)

end Dialect

namespace Statement

/-- A statement binds arguments in order: its slots are numbered from one on, and in every dialect
its text is its literal text with the placeholders of these numbers woven in. -/
structure BindsInOrder (statement : Statement) (arguments : List Argument) : Prop where
  arguments_eq : statement.arguments = arguments
  slots_eq : statement.sql.slots = numbered 1 arguments.length
  length_trailing : statement.sql.trailing.length = arguments.length
  text_eq : ∀ dialect : Dialect, ∃ placeholders : List String,
    (numbered 1 arguments.length).mapM (fun index => dialect.slotFor (.int index)) =
        .ok placeholders ∧
      statement.text dialect = statement.sql.leading ++
        String.join (List.zipWith (· ++ ·) placeholders statement.sql.trailing)

/-- Slots that are numbered from one on are all that is needed. -/
theorem BindsInOrder.of_slots
    {statement : Statement}
    {arguments : List Argument}
    (sameArguments : statement.arguments = arguments)
    (slots : statement.sql.slots = numbered 1 arguments.length) :
    statement.BindsInOrder arguments where
  arguments_eq := sameArguments
  slots_eq := slots
  length_trailing := by rw [Sql.length_trailing, slots, length_numbered]
  text_eq dialect := by
    refine ⟨_, dialect.mapM_slotFor_numbered fun _ => Int.le_refl 1, ?_⟩
    rw [text, Sql.render_eq_weave, slots]

/-- A statement without slots binds nothing. -/
theorem ofText_bindsInOrder (s : String) : (ofText s).BindsInOrder [] :=
  .of_slots rfl rfl

end Statement

namespace Fragment

/-- A traced fragment has the result of the fragment. -/
@[simp] theorem result_traced (fragment : Except Error Fragment) :
    (traced fragment).result = fragment := by
  cases fragment <;> rfl

/-- The predicates of an insertion are those of its conditions, and none of them compares
columns. -/
theorem insertable_eq_ok
    {position : Nat}
    {conditions : Conditions}
    {predicates : List Predicate}
    (allowed : insertable position conditions = .ok predicates) :
    predicates.map Predicate.argument = conditions.arguments := by
  induction conditions generalizing position predicates with
  | nil =>
      cases allowed
      rfl
  | cons item rest restAllowed =>
      cases item with
      | foreign value => cases allowed
      | connective c => cases allowed
      | predicate p =>
          rw [insertable] at allowed
          split at allowed
          · cases allowed
          · rename_i noColumn
            obtain ⟨others, othersAllowed, rfl⟩ := map_eq_ok.mp allowed
            rw [List.map_cons, restAllowed othersAllowed, Conditions.arguments_predicate,
              Predicate.arguments, if_neg noColumn]
            rfl

/-- The slots of an insertion are numbered from one on. -/
theorem forInsert_eq_ok
    {conditions : Conditions}
    {fragment : Fragment}
    (made : forInsert conditions = .ok fragment) :
    fragment.arguments = conditions.arguments ∧
      fragment.sql.slots = numbered 1 fragment.arguments.length := by
  obtain ⟨predicates, allowed, finished⟩ := bind_eq_ok.mp made
  split at finished
  · cases finished
  · cases finished
    refine ⟨insertable_eq_ok allowed, ?_⟩
    simp only [sql, Sql.slots_joinWith, List.flatMap_map, Sql.slots_slot, Sql.slots_nil,
      ← List.map_eq_flatMap, numbered, List.length_map]
    apply List.map_congr_left
    intro place _
    omega

/-- The slots of an update are numbered from its start on. -/
theorem forUpdate_eq_ok
    {conditions : Conditions}
    {start : Int}
    {fragment : Fragment}
    (made : forUpdate conditions start = .ok fragment) :
    fragment.start = start ∧ fragment.arguments = conditions.arguments ∧
      fragment.sql.slots = numbered start fragment.arguments.length := by
  obtain ⟨⟨parts, bound⟩, assigned, finished⟩ := bind_eq_ok.mp made
  obtain ⟨sameArguments, slots⟩ := assignments_eq_ok assigned
  dsimp only at finished
  split at finished
  · cases finished
  · cases finished
    refine ⟨rfl, sameArguments, ?_⟩
    rw [sql, Sql.slots_joinWith]
    exact slots

/-- The slots of a filter are numbered from its start on. -/
theorem forFilter_eq_ok
    {conditions : Conditions}
    {start : Int}
    {fragment : Fragment}
    (made : forFilter conditions start = .ok fragment) :
    fragment.start = start ∧ fragment.arguments = conditions.arguments ∧
      fragment.sql.slots = numbered start fragment.arguments.length := by
  obtain ⟨_, _, made⟩ := bind_eq_ok.mp made
  obtain ⟨⟨parts, bound⟩, written, finished⟩ := bind_eq_ok.mp made
  obtain ⟨sameArguments, slots⟩ := filterParts_eq_ok written
  cases finished
  refine ⟨rfl, sameArguments, ?_⟩
  rw [sql, Sql.slots_joinWith]
  exact slots

/-- A fragment without parts has no arguments. -/
theorem arguments_eq_nil_of_parts
    {fragment : Fragment}
    (slots : fragment.sql.slots = numbered fragment.start fragment.arguments.length)
    (noParts : fragment.parts = []) :
    fragment.arguments = [] := by
  rw [sql, Sql.slots_joinWith, noParts] at slots
  have sameLength := congrArg List.length slots
  rw [length_numbered] at sameLength
  exact List.length_eq_zero_iff.mp sameLength.symm

end Fragment
end BoundSql
