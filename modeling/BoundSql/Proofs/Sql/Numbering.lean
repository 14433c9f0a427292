import BoundSql.Proofs.Outcome
import BoundSql.Sql.Statement

/-!
# Numbers of slots

Every fragment numbers its slots without gaps from its start on, one for each of
its arguments, and its arguments are those of the predicates that compare with a
value, in their order.  Connectives and comparisons of columns take no number.
-/

namespace BoundSql

/-- So many numbers in a row, beginning with the first one. -/
def numbered (first : Int) (count : Nat) : List Int :=
  (List.range count).map fun (place : Nat) => first + place

@[simp] theorem numbered_zero (first : Int) : numbered first 0 = [] := rfl

@[simp] theorem numbered_one (first : Int) : numbered first 1 = [first] := by
  simp [numbered]

@[simp] theorem length_numbered (first : Int) (count : Nat) :
    (numbered first count).length = count := by
  simp [numbered]

/-- Numbers in a row are two rows, the second one where the first one stops. -/
theorem numbered_add (first : Int) (count more : Nat) :
    numbered first (count + more) = numbered first count ++ numbered (first + count) more := by
  simp [numbered, List.range_add, Int.add_assoc, Function.comp_def]

/-- The arguments of a predicate: one, unless it compares columns. -/
def Predicate.arguments (p : Predicate) : List Argument :=
  if p.isColumn then [] else [p.argument]

namespace Conditions

/-- The arguments of the predicates that compare with a value, in their order. -/
def arguments (conditions : Conditions) : List Argument :=
  (conditions.predicates.filter fun p => !p.isColumn).map Predicate.argument

@[simp] theorem arguments_nil : arguments [] = [] := rfl

@[simp] theorem arguments_predicate (p : Predicate) (rest : Conditions) :
    arguments (.predicate p :: rest) = p.arguments ++ arguments rest := by
  cases column : p.isColumn <;>
    simp [arguments, predicates, Item.predicate?, Predicate.arguments, column]

@[simp] theorem arguments_connective (c : Connective) (rest : Conditions) :
    arguments (.connective c :: rest) = arguments rest := rfl

@[simp] theorem arguments_append (a b : Conditions) :
    arguments (a ++ b) = arguments a ++ arguments b := by
  simp [arguments]

@[simp] theorem arguments_connect (connective : Connective) (a b : Conditions) :
    arguments (connect connective a b) = arguments a ++ arguments b := by
  simp [arguments]

end Conditions

namespace Fragment

/-- How a predicate is written: with the column it compares with, or with a slot that has the next
number. -/
theorem bindPredicate_cases
    {operator : String}
    {next : Int}
    {p : Predicate}
    {sql : Sql}
    {bound : List Argument}
    (made : bindPredicate operator next p = .ok (sql, bound)) :
    (p.isColumn = true ∧ sql = [.text (p.field ++ operator ++ p.value.display)] ∧ bound = []) ∨
      (p.isColumn = false ∧ sql = [.text (p.field ++ operator), .slot next] ∧
        bound = [p.argument]) := by
  unfold bindPredicate at made
  cases column : p.isColumn with
  | true =>
      rw [column, if_pos rfl] at made
      cases made
      exact .inl ⟨rfl, rfl, rfl⟩
  | false =>
      rw [column, if_neg Bool.false_ne_true] at made
      obtain ⟨slot, placed, finished⟩ := bind_eq_ok.mp made
      cases finished
      unfold slotAt at placed
      split at placed
      · cases placed
      · cases placed
        exact .inr ⟨rfl, rfl, rfl⟩

/-- A predicate takes the next number exactly when it has an argument. -/
theorem bindPredicate_eq_ok
    {operator : String}
    {next : Int}
    {p : Predicate}
    {sql : Sql}
    {bound : List Argument}
    (made : bindPredicate operator next p = .ok (sql, bound)) :
    bound = p.arguments ∧ sql.slots = numbered next bound.length := by
  obtain ⟨column, rfl, rfl⟩ | ⟨column, rfl, rfl⟩ := bindPredicate_cases made
  · simp [Predicate.arguments, column]
  · simp [Predicate.arguments, column]

/-- The assignments of an update are numbered from the first number on. -/
theorem assignments_eq_ok
    {next : Int}
    {position : Nat}
    {conditions : Conditions}
    {parts : List Sql}
    {bound : List Argument}
    (made : assignments next position conditions = .ok (parts, bound)) :
    bound = conditions.arguments ∧ parts.flatMap Sql.slots = numbered next bound.length := by
  induction conditions generalizing next position parts bound with
  | nil =>
      cases made
      simp
  | cons item rest restNumbered =>
      cases item with
      | foreign value => cases made
      | connective c => exact restNumbered made
      | predicate p =>
          obtain ⟨⟨sql, first⟩, bindsFirst, made⟩ := bind_eq_ok.mp made
          obtain ⟨⟨others, later⟩, bindsLater, finished⟩ := bind_eq_ok.mp made
          cases finished
          obtain ⟨rfl, firstSlots⟩ := bindPredicate_eq_ok bindsFirst
          obtain ⟨rfl, laterSlots⟩ := restNumbered bindsLater
          simp [firstSlots, laterSlots, numbered_add]

/-- The parts of a filter are numbered from the first number on. -/
theorem filterParts_eq_ok
    {joined : Bool}
    {next : Int}
    {position : Nat}
    {conditions : Conditions}
    {parts : List Sql}
    {bound : List Argument}
    (made : filterParts joined next position conditions = .ok (parts, bound)) :
    bound = conditions.arguments ∧ parts.flatMap Sql.slots = numbered next bound.length := by
  induction conditions generalizing joined next position parts bound with
  | nil =>
      cases made
      simp
  | cons item rest restNumbered =>
      cases item with
      | foreign value => cases made
      | connective c =>
          obtain ⟨⟨others, later⟩, bindsLater, finished⟩ := bind_eq_ok.mp made
          cases finished
          obtain ⟨rfl, laterSlots⟩ := restNumbered bindsLater
          simp [laterSlots, Sql.ofText]
      | predicate p =>
          obtain ⟨⟨sql, first⟩, bindsFirst, made⟩ := bind_eq_ok.mp made
          obtain ⟨⟨others, later⟩, bindsLater, finished⟩ := bind_eq_ok.mp made
          cases finished
          obtain ⟨rfl, firstSlots⟩ := bindPredicate_eq_ok bindsFirst
          obtain ⟨rfl, laterSlots⟩ := restNumbered bindsLater
          cases joined <;> simp [firstSlots, laterSlots, numbered_add, Sql.ofText]

end Fragment
end BoundSql
