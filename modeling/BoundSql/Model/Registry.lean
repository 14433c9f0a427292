import BoundSql.Entries
import BoundSql.Log
import BoundSql.Model.Basic
import BoundSql.Traced

/-!
# Registries of models

A registry knows one model for a table. A model registered for a table that is
known already takes the place of the one before; a new table comes last. Being
replaced by another model is reported as a warning, being registered as such.

A history is a list of steps on a registry.
-/

namespace BoundSql

/-- Models by the tables they are registered for, in order of registration. -/
structure Registry where
  entries : List (String × Model)

/-- A step on a registry. -/
inductive RegistryStep
  | register (model : Model)
  | unregister (table : String)
  | clear

namespace Registry

/-- The registry without models. -/
def empty : Registry :=
  ⟨[]⟩

/-- The model registered for a table. -/
def get? (registry : Registry) (table : String) : Option Model :=
  registry.entries.lookup table

/-- Whether a model is registered for a table. -/
def has (registry : Registry) (table : String) : Bool :=
  registry.entries.any (·.1 == table)

/-- The registered models. -/
def models (registry : Registry) : List Model :=
  registry.entries.map (·.2)

/-- The tables that models are registered for. -/
def tables (registry : Registry) : List String :=
  registry.entries.map (·.1)

/-- Enter a model for a table. -/
def insert (registry : Registry) (table : String) (model : Model) : Registry :=
  ⟨Entries.enter (· == ·) registry.entries table model⟩

/-- Remove what is registered for a table. -/
def erase (registry : Registry) (table : String) : Registry :=
  ⟨registry.entries.filter fun entry => entry.1 != table⟩

/-- Register a model for its table. -/
def register (registry : Registry) (model : Model) : Registry :=
  registry.insert model.tableName model

/-- What is reported when a model is registered. -/
def registration (registry : Registry) (model : Model) : List LogEntry :=
  let table := model.tableName
  let replacement :=
    match registry.get? table with
    | some previous =>
        if previous.isSame model then [] else [.replaced table model.name previous.name]
    | none => []
  replacement ++ [.registered model.name table]

/-- Register several models in order, and report it. -/
def registerAll (registry : Registry) : List Model → Traced LogEntry Registry
  | [] => pure registry
  | model :: models => do
      (registry.registration model).forM Traced.note
      (registry.register model).registerAll models

/-- The registry after a step. -/
def apply (registry : Registry) : RegistryStep → Registry
  | .register model => registry.register model
  | .unregister table => registry.erase table
  | .clear => empty

/-- What is reported of a step. -/
def report (registry : Registry) : RegistryStep → List LogEntry
  | .register model => registry.registration model
  | .unregister _ | .clear => []

/-- The registry after a history. -/
def run (registry : Registry) (steps : List RegistryStep) : Registry :=
  steps.foldl apply registry

/-- A model is registered for a table exactly when one is found for it. -/
theorem has_eq_isSome_get? (registry : Registry) (table : String) :
    registry.has table = (registry.get? table).isSome :=
  Entries.any_eq_isSome_lookup registry.entries table

/-- The model inserted for a table is the one found for it; other tables keep theirs. -/
theorem get?_insert (registry : Registry) (table other : String) (model : Model) :
    (registry.insert table model).get? other =
      if other == table then some model else registry.get? other :=
  Entries.lookup_enter registry.entries table other model

/-- A table that was known keeps its place, and a new one comes last. -/
theorem tables_insert (registry : Registry) (table : String) (model : Model) :
    (registry.insert table model).tables =
      if registry.has table then registry.tables else registry.tables ++ [table] :=
  Entries.keys_enter registry.entries table model

/-- Nothing is found for a table that was erased; other tables keep their models. -/
theorem get?_erase (registry : Registry) (table other : String) :
    (registry.erase table).get? other =
      if other = table then none else registry.get? other := by
  obtain ⟨entries⟩ := registry
  simp only [erase, get?]
  induction entries with
  | nil => simp
  | cons entry entries erased =>
      obtain ⟨name, model⟩ := entry
      by_cases same : name = table
      · subst same
        by_cases asked : other = name
        · simpa [asked] using erased
        · simpa [asked, List.lookup_cons, beq_false_of_ne asked] using erased
      · by_cases asked : other = table
        · subst asked
          simpa [same, List.lookup_cons, beq_false_of_ne (Ne.symm same)] using erased
        · simp [same, asked, List.lookup_cons] at erased ⊢
          rw [erased]

theorem tables_erase (registry : Registry) (table : String) :
    (registry.erase table).tables = registry.tables.filter (· != table) := by
  simp only [erase, tables, List.filter_map]
  rfl

theorem run_append (registry : Registry) (steps more : List RegistryStep) :
    registry.run (steps ++ more) = (registry.run steps).run more :=
  List.foldl_append

end Registry
end BoundSql
