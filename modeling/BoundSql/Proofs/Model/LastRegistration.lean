import BoundSql.Proofs.Model.Registration

/-!
# What a history leaves registered

Of the registrations for a table in a history, those stand that nothing behind them removes.
The last one that stands tells which model is registered for the table, and there is none
where no registration stands.  A step changes this for a table in two ways only: by a
registration for it, which becomes the last one, and by a removal, behind which none stands.

What else can be asked of a registry is told by the models registered for the tables, and so
are the warnings: a registration warns when it replaces another model.
-/

namespace BoundSql

/-- Whether a step removes what is registered for a table. -/
def RegistryStep.Removes (table : String) : RegistryStep → Prop
  | .register _ => False
  | .unregister other => other = table
  | .clear => True

namespace Registry

variable {steps : List RegistryStep} {step : RegistryStep} {model previous : Model}
  {table : String} {place : Nat}

/-! ## Registrations that stand -/

/-- Whether the step at a place of a history registers a model for a table and no later one removes
what is registered for it. -/
structure Stands (steps : List RegistryStep) (table : String) (place : Nat) (model : Model) :
    Prop where
  registers : steps[place]? = some (.register model)
  named : model.tableName = table
  kept : ∀ later step, place < later → steps[later]? = some step → ¬step.Removes table

/-- Whether a registration that stands is the last one for its table. -/
structure StandsLast (steps : List RegistryStep) (table : String) (place : Nat) (model : Model) :
    Prop where
  stands : Stands steps table place model
  last : ∀ other otherModel, Stands steps table other otherModel → other ≤ place

theorem Stands.lt_length (stands : Stands steps table place model) : place < steps.length :=
  (List.getElem?_eq_some_iff.mp stands.registers).1

/-- Of two last registrations for a table there is only one. -/
theorem StandsLast.unique
    {other : Nat}
    {otherModel : Model}
    (last : StandsLast steps table place model)
    (lastOther : StandsLast steps table other otherModel) :
    otherModel = model := by
  obtain rfl : other = place :=
    Nat.le_antisymm (last.last _ _ lastOther.stands) (lastOther.last _ _ last.stands)
  cases lastOther.stands.registers.symm.trans last.stands.registers
  rfl

/-- A registration stands after one more step when it stood before and is not removed by it, or when
it is this step. -/
theorem stands_concat_iff :
    Stands (steps ++ [step]) table place model ↔
      Stands steps table place model ∧ ¬step.Removes table ∨
        place = steps.length ∧ step = .register model ∧ model.tableName = table := by
  constructor
  · intro stands
    have within := stands.lt_length
    rw [List.length_append, List.length_singleton] at within
    rcases Nat.lt_succ_iff_lt_or_eq.mp within with earlier | rfl
    · refine .inl ⟨⟨?_, stands.named, fun later other behind atLater => ?_⟩, ?_⟩
      · rw [← List.getElem?_append_left earlier]
        exact stands.registers
      · have inSteps := (List.getElem?_eq_some_iff.mp atLater).1
        exact stands.kept later other behind ((List.getElem?_append_left inSteps).trans atLater)
      · exact stands.kept steps.length step earlier List.getElem?_concat_length
    · have isStep := stands.registers
      rw [List.getElem?_concat_length] at isStep
      exact .inr ⟨rfl, Option.some.inj isStep, stands.named⟩
  · rintro (⟨stands, keeps⟩ | ⟨rfl, rfl, named⟩)
    · refine ⟨?_, stands.named, fun later other behind atLater => ?_⟩
      · rw [List.getElem?_append_left stands.lt_length]
        exact stands.registers
      · by_cases inSteps : later < steps.length
        · rw [List.getElem?_append_left inSteps] at atLater
          exact stands.kept later other behind atLater
        · rw [List.getElem?_append_right (Nat.le_of_not_lt inSteps)] at atLater
          rw [List.mem_singleton.mp (List.mem_of_getElem? atLater)]
          exact keeps
    · refine ⟨List.getElem?_concat_length, named, fun later other behind atLater => ?_⟩
      have beyond : (steps ++ [RegistryStep.register model]).length ≤ later := by
        rw [List.length_append, List.length_singleton]
        exact behind
      rw [List.getElem?_eq_none beyond] at atLater
      cases atLater

/-- A registration becomes the last one for its table. -/
theorem standsLast_concat_register (steps : List RegistryStep) (model : Model) :
    StandsLast (steps ++ [.register model]) model.tableName steps.length model where
  stands := stands_concat_iff.mpr (.inr ⟨rfl, rfl, rfl⟩)
  last other otherModel stands := by
    rcases stands_concat_iff.mp stands with ⟨earlier, _⟩ | ⟨rfl, _⟩
    · exact Nat.le_of_lt earlier.lt_length
    · exact Nat.le_refl _

/-- Behind a removal no registration for the table stands. -/
theorem not_stands_concat_of_removes (removes : step.Removes table) :
    ¬Stands (steps ++ [step]) table place model := by
  intro stands
  rcases stands_concat_iff.mp stands with ⟨_, keeps⟩ | ⟨_, rfl, _⟩
  · exact keeps removes
  · exact removes

/-- A step that neither registers a model for a table nor removes one leaves standing what stood. -/
theorem stands_concat_iff_of_untouched
    (keeps : ¬step.Removes table)
    (registersNone : ∀ model, step = .register model → model.tableName ≠ table) :
    Stands (steps ++ [step]) table place model ↔ Stands steps table place model := by
  rw [stands_concat_iff]
  constructor
  · rintro (⟨stands, _⟩ | ⟨_, isStep, named⟩)
    · exact stands
    · exact absurd named (registersNone model isStep)
  · exact fun stands => .inl ⟨stands, keeps⟩

/-! ## The registered model -/

theorem get?_apply_of_removes {registry : Registry} (removes : step.Removes table) :
    (registry.apply step).get? table = none := by
  rw [get?_apply]
  cases step with
  | register model => exact removes.elim
  | unregister other => exact if_pos (Eq.symm removes)
  | clear => rfl

theorem get?_apply_of_untouched
    {registry : Registry}
    (keeps : ¬step.Removes table)
    (registersNone : ∀ model, step = .register model → model.tableName ≠ table) :
    (registry.apply step).get? table = registry.get? table := by
  rw [get?_apply]
  cases step with
  | register model =>
      exact if_neg fun same => registersNone model rfl (beq_iff_eq.mp same).symm
  | unregister other => exact if_neg fun same => keeps same.symm
  | clear => exact absurd trivial keeps

/-- A history leaves the model of the last registration that stands, or none where none stands. -/
theorem get?_run_cases (steps : List RegistryStep) (table : String) :
    (∃ model place, (empty.run steps).get? table = some model ∧
      StandsLast steps table place model) ∨
    (empty.run steps).get? table = none ∧ ∀ place model, ¬Stands steps table place model := by
  induction steps using List.reverseRecOn with
  | nil => exact .inr ⟨rfl, fun place model stands => absurd stands.lt_length (Nat.not_lt_zero _)⟩
  | append_singleton steps step before =>
      rw [run_concat]
      by_cases registers : ∃ model, step = .register model ∧ model.tableName = table
      · obtain ⟨model, rfl, rfl⟩ := registers
        refine .inl ⟨model, steps.length, ?_, standsLast_concat_register steps model⟩
        rw [get?_apply]
        exact if_pos (beq_self_eq_true _)
      · have registersNone : ∀ model, step = .register model → model.tableName ≠ table :=
          fun model isStep named => registers ⟨model, isStep, named⟩
        by_cases removes : step.Removes table
        · exact .inr ⟨get?_apply_of_removes removes, fun _ _ =>
            not_stands_concat_of_removes removes⟩
        · rw [get?_apply_of_untouched removes registersNone]
          have same := @stands_concat_iff_of_untouched steps step
          rcases before with ⟨model, place, found, last⟩ | ⟨found, noneStands⟩
          · exact .inl ⟨model, place, found, ⟨(same removes registersNone).mpr last.stands,
              fun other otherModel stands =>
                last.last other otherModel ((same removes registersNone).mp stands)⟩⟩
          · exact .inr ⟨found, fun place model stands =>
              noneStands place model ((same removes registersNone).mp stands)⟩

theorem get?_run_eq_some_iff :
    (empty.run steps).get? table = some model ↔ ∃ place, StandsLast steps table place model := by
  rcases get?_run_cases steps table with ⟨left, place, found, last⟩ | ⟨found, noneStands⟩
  · rw [found, Option.some.injEq]
    exact ⟨fun same => ⟨place, same ▸ last⟩, fun ⟨_, other⟩ => other.unique last⟩
  · rw [found]
    exact iff_of_false nofun fun ⟨place, last⟩ => noneStands place model last.stands

theorem get?_run_eq_none_iff :
    (empty.run steps).get? table = none ↔ ∀ place model, ¬Stands steps table place model := by
  rcases get?_run_cases steps table with ⟨left, place, found, last⟩ | ⟨found, noneStands⟩
  · rw [found]
    exact iff_of_false nofun fun noneStands => noneStands place left last.stands
  · exact iff_of_true found noneStands

/-! ## What is listed -/

/-- In a sound registry the tables have the models in their order. -/
theorem Sound.map_get?_tables {registry : Registry} (sound : registry.Sound) :
    registry.tables.map registry.get? = registry.models.map some := by
  rw [sound.tables_eq, List.map_map]
  exact List.map_congr_left fun model listed => sound.mem_models_iff.mp listed

/-! ## Warnings -/

/-- Whether a step replaces one model by another. -/
structure Replaces
    (registry : Registry)
    (step : RegistryStep)
    (model previous : Model) : Prop where
  registers : step = .register model
  found : registry.get? model.tableName = some previous
  other : previous.isSame model = false

/-- The warnings among what is reported of a step. -/
def warnings (registry : Registry) (step : RegistryStep) : List LogEntry :=
  (registry.report step).filter fun entry => entry.level == .warning

/-- A step that replaces a model warns once. -/
theorem Replaces.warnings_eq
    {registry : Registry}
    (replaces : registry.Replaces step model previous) :
    registry.warnings step = [.replaced model.tableName model.name previous.name] := by
  obtain ⟨rfl, found, other⟩ := replaces
  simp only [warnings, report, registration, found, other, Bool.false_eq_true, if_false]
  rfl

/-- A step that replaces no model does not warn. -/
theorem warnings_eq_nil
    {registry : Registry}
    (replacesNone : ∀ model previous, ¬registry.Replaces step model previous) :
    registry.warnings step = [] := by
  cases step with
  | unregister table => rfl
  | clear => rfl
  | register model =>
      cases found : registry.get? model.tableName with
      | none =>
          simp only [warnings, report, registration, found]
          rfl
      | some previous =>
          have same : previous.isSame model = true := by
            by_contra other
            exact replacesNone model previous ⟨rfl, found, Bool.eq_false_iff.mpr other⟩
          simp only [warnings, report, registration, found, same, if_true]
          rfl

/-- After any history a table has the model of the last registration for it that stands, and none
where none stands.  A model is there exactly when one is found.  The tables are listed once each,
and with them their models, each under its own table.  The next step warns, once, exactly when it
registers a model for a table that has another one. -/
theorem run_observed (steps : List RegistryStep) :
    (∀ table model, (empty.run steps).get? table = some model ↔
      ∃ place, StandsLast steps table place model) ∧
    (∀ table, (empty.run steps).get? table = none ↔
      ∀ place model, ¬Stands steps table place model) ∧
    (∀ table, (empty.run steps).has table = true ↔ (empty.run steps).get? table ≠ none) ∧
    (empty.run steps).tables.Nodup ∧
    (∀ table, table ∈ (empty.run steps).tables ↔ (empty.run steps).has table = true) ∧
    (empty.run steps).tables.map (empty.run steps).get? = (empty.run steps).models.map some ∧
    (∀ model ∈ (empty.run steps).models,
      (empty.run steps).get? model.tableName = some model) ∧
    ∀ step,
      (∀ model previous, (empty.run steps).Replaces step model previous →
        (empty.run steps).warnings step =
          [.replaced model.tableName model.name previous.name]) ∧
      ((∀ model previous, ¬(empty.run steps).Replaces step model previous) →
        (empty.run steps).warnings step = []) := by
  have sound := sound_run steps
  refine ⟨fun _ _ => get?_run_eq_some_iff, fun _ => get?_run_eq_none_iff, fun table => ?_,
    sound.distinct, mem_tables_iff _, sound.map_get?_tables,
    fun _ listed => sound.mem_models_iff.mp listed,
    fun step => ⟨fun _ _ replaces => replaces.warnings_eq, warnings_eq_nil⟩⟩
  rw [has_eq_isSome_get?, Option.isSome_iff_ne_none]

/-- A model that replaces another one is there, and the step that registers it warns. -/
theorem run_observed_replacement :
    (∃ place, StandsLast replacement "author" place (modelFor 2 "Author" "author")) ∧
    (empty.run (replacement.take 2)).warnings (.register (modelFor 2 "Author" "author")) =
      [.replaced "author" "Author" "Draft"] := by
  obtain ⟨found, -⟩ := run_observed replacement
  obtain ⟨-, -, -, -, -, -, -, warned⟩ := run_observed (replacement.take 2)
  exact ⟨(found _ _).mp rfl, (warned _).1 _ (modelFor 0 "Draft" "author") ⟨rfl, rfl, rfl⟩⟩

end Registry
end BoundSql
