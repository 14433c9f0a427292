import BoundSql.Proofs.Model.Stored
import Mathlib.Data.List.Basic

/-!
# Reading instances back

An instance is valid when its fields have different names and each of them holds a
value of its type.  A row in which every field is converted to its value is read as
the instance.  A row may hold nothing for a field whose value is nothing, and what is
bound for any other value.
-/

namespace BoundSql

section Lookup

variable {κ ι : Type} [BEq κ] [LawfulBEq κ]

/-- An item is found under its key when no other one has it. -/
theorem lookup_of_mem
    {entries : List (κ × ι)}
    {key : κ}
    {item : ι}
    (distinct : (entries.map Prod.fst).Nodup)
    (member : (key, item) ∈ entries) :
    entries.lookup key = some item := by
  obtain ⟨before, after, rfl⟩ := List.append_of_mem member
  rw [List.lookup_eq_some_iff]
  refine ⟨before, after, rfl, fun entry earlier => ?_⟩
  rw [List.map_append, List.nodup_append] at distinct
  have different : entry.1 ≠ key :=
    distinct.2.2 entry.1 (List.mem_map_of_mem earlier) key (by simp)
  simpa using different.symm

end Lookup

namespace Instance

/-- The fields of an instance have different names, the instance has one value for each of them in
their order, and each value is one of the type of its field. -/
structure Valid (given : Instance) : Prop where
  distinct : given.model.fieldNames.Nodup
  names_eq : given.values.map Prod.fst = given.model.fieldNames
  has : ∀ field ∈ given.model.fields, field.type.Has (given.value field.name)

variable {self : Instance}

/-- The values of a valid instance are those found by the names of the fields. -/
theorem Valid.values_eq (valid : self.Valid) :
    self.values = self.model.fields.map fun field => (field.name, self.value field.name) := by
  have distinct : (self.values.map Prod.fst).Nodup := valid.names_eq ▸ valid.distinct
  have own : self.values.map (fun pair => (pair.1, self.value pair.1)) = self.values := by
    conv => rhs; rw [← List.map_id self.values]
    apply List.map_congr_left
    rintro ⟨name, value⟩ member
    rw [Instance.value, lookup_of_mem distinct member]
    rfl
  calc
    self.values = self.values.map (fun pair => (pair.1, self.value pair.1)) := own.symm
    _ = (self.values.map Prod.fst).map (fun name => (name, self.value name)) := by
      rw [List.map_map]
      rfl
    _ = self.model.fields.map fun field => (field.name, self.value field.name) := by
      rw [valid.names_eq, Model.fieldNames, List.map_map]
      rfl

/-- A row in which every field has its value is read as the instance. -/
theorem Valid.instanceOf_eq
    (valid : self.Valid)
    {row : Row}
    (filled : ∀ field ∈ self.model.fields,
      field.valueIn? row = some (self.value field.name)) :
    self.model.instanceOf row = .ok self := by
  have complete : Field.unfilled row self.model.fields = [] := by
    rw [Field.unfilled, List.map_eq_nil_iff, List.filter_eq_nil_iff]
    intro field member
    simp [filled field member]
  have values : Field.filled row self.model.fields = self.values := by
    rw [valid.values_eq, Field.filled, List.filterMap_eq_map_iff_forall_eq_some]
    intro field member
    rw [filled field member]
    rfl
  rw [Model.instanceOf, Field.fill, complete]
  dsimp only
  rw [values]
  rfl

end Instance

/-- A field whose value is found in a row is filled with what the value is converted to. -/
theorem Field.valueIn?_of_lookup
    {field : Field}
    {row : Row}
    {bound value : Value}
    (found : row.lookup field.name = some bound)
    (converted : field.type.convert? bound = some value) :
    field.valueIn? row = some value := by
  rw [Field.valueIn?, found]
  exact converted

end BoundSql
