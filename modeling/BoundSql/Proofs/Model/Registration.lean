import BoundSql.Model.Registry
import BoundSql.Proofs.Model.Reading
import Mathlib.Data.List.Infix
import Mathlib.Data.List.Nodup
import Mathlib.Data.List.Perm.Basic

/-!
# The order of registered models

A registry lists its models in the order in which their tables were entered.  A table is
entered by the registration that finds no model for it, and it keeps its place as long as
it is registered.  A registration that finds a model there puts another one in its place.

So of two models, the one that was put in place first comes first, unless the other one
replaced a model whose table had been entered before.  A replaced model leaves its place to
the one that replaces it, however late that is.
-/

namespace BoundSql
namespace Registry

variable {steps before : List RegistryStep} {step : RegistryStep} {model : Model}
  {table : String}

theorem run_concat (registry : Registry) (steps : List RegistryStep) (step : RegistryStep) :
    registry.run (steps ++ [step]) = (registry.run steps).apply step :=
  registry.run_append steps [step]

/-! ## What a step changes -/

/-- What is registered for a table after a step. -/
theorem get?_apply (registry : Registry) (step : RegistryStep) (table : String) :
    (registry.apply step).get? table =
      match step with
      | .register model => if table == model.tableName then some model else registry.get? table
      | .unregister other => if table = other then none else registry.get? table
      | .clear => none := by
  cases step with
  | register model => exact registry.get?_insert model.tableName table model
  | unregister other => exact registry.get?_erase other table
  | clear => rfl

/-- A step behind which another model is found for a table than before is a registration of it. -/
theorem eq_register_of_get?_apply
    {registry : Registry}
    (found : (registry.apply step).get? table = some model)
    (notBefore : registry.get? table ≠ some model) :
    step = .register model ∧ model.tableName = table := by
  rw [get?_apply] at found
  cases step with
  | register other =>
      dsimp only at found
      split at found
      · rename_i same
        cases found
        exact ⟨rfl, (beq_iff_eq.mp same).symm⟩
      · exact absurd found notBefore
  | unregister other =>
      dsimp only at found
      split at found
      · cases found
      · exact absurd found notBefore
  | clear => cases found

/-- A step keeps the order of the tables that remain. -/
theorem filter_tables_sublist (registry : Registry) (step : RegistryStep) :
    (registry.tables.filter fun table => (registry.apply step).has table).Sublist
      (registry.apply step).tables := by
  cases step with
  | register model =>
      refine List.filter_sublist.trans ?_
      rw [apply, register, tables_insert]
      split
      · exact List.Sublist.refl _
      · exact List.sublist_append_left _ _
  | unregister other =>
      rw [apply, tables_erase]
      refine List.monotone_filter_right _ fun table remains => ?_
      rw [has_eq_isSome_get?, get?_erase] at remains
      by_cases erased : table = other
      · rw [if_pos erased] at remains
        cases remains
      · exact bne_iff_ne.mpr erased
  | clear =>
      have none : registry.tables.filter (fun table => (registry.apply .clear).has table) = [] :=
        List.filter_eq_nil_iff.mpr fun table _ => Bool.false_ne_true
      rw [none]
      exact List.nil_sublist _

/-- Whether a registry has one model for each table, and the table is that of the model. -/
structure Sound (registry : Registry) : Prop where
  distinct : registry.tables.Nodup
  named : ∀ entry ∈ registry.entries, entry.2.tableName = entry.1

theorem Sound.apply {registry : Registry} (sound : registry.Sound) (step : RegistryStep) :
    (registry.apply step).Sound := by
  cases step with
  | register model =>
      constructor
      · rw [Registry.apply, register, tables_insert]
        split
        · exact sound.distinct
        · rename_i new
          refine List.nodup_append.mpr ⟨sound.distinct, List.nodup_singleton _, ?_⟩
          rintro table known other single rfl
          rw [List.mem_singleton.mp single] at known
          obtain ⟨entry, member, same⟩ := List.mem_map.mp known
          exact new (List.any_eq_true.mpr ⟨entry, member, beq_iff_eq.mpr same⟩)
      · intro entry member
        simp only [Registry.apply, register, insert, Entries.enter] at member
        split at member
        · obtain ⟨previous, known, rfl⟩ := List.mem_map.mp member
          split
          · rename_i same
            exact (beq_iff_eq.mp same).symm
          · exact sound.named previous known
        · rcases List.mem_append.mp member with known | new
          · exact sound.named entry known
          · rw [List.mem_singleton.mp new]
  | unregister other =>
      constructor
      · rw [Registry.apply, tables_erase]
        exact sound.distinct.filter _
      · intro entry member
        exact sound.named entry (List.mem_of_mem_filter member)
  | clear => exact ⟨List.nodup_nil, fun _ member => absurd member List.not_mem_nil⟩

/-- Every history leaves a sound registry. -/
theorem sound_run (steps : List RegistryStep) : (empty.run steps).Sound := by
  induction steps using List.reverseRecOn with
  | nil => exact ⟨List.nodup_nil, nofun⟩
  | append_singleton steps step sound =>
      rw [run_concat]
      exact sound.apply step

section Sound

variable {registry : Registry} (sound : registry.Sound)

include sound

/-- The tables are those of the models. -/
theorem Sound.tables_eq : registry.tables = registry.models.map Model.tableName := by
  rw [tables, models, List.map_map]
  exact List.map_congr_left fun entry member => (sound.named entry member).symm

/-- The models listed are those registered for their tables. -/
theorem Sound.mem_models_iff :
    model ∈ registry.models ↔ registry.get? model.tableName = some model := by
  constructor
  · intro listed
    obtain ⟨entry, member, rfl⟩ := List.mem_map.mp listed
    rw [sound.named entry member]
    exact lookup_of_mem sound.distinct member
  · intro found
    exact List.mem_map.mpr ⟨(model.tableName, model), Entries.mem_of_lookup found, rfl⟩

/-- Models are listed in the order of their tables. -/
theorem Sound.sublist_models_iff
    {first second : Model}
    (listedFirst : first ∈ registry.models)
    (listedSecond : second ∈ registry.models) :
    [first, second].Sublist registry.models ↔
      [first.tableName, second.tableName].Sublist registry.tables := by
  rw [sound.tables_eq]
  constructor
  · exact fun ordered => ordered.map Model.tableName
  · intro ordered
    obtain ⟨listed, within, sameNames⟩ := List.sublist_map_iff.mp ordered
    obtain ⟨a, b, rfl⟩ : ∃ a b, listed = [a, b] :=
      List.length_eq_two.mp (by simpa using (congrArg List.length sameNames).symm)
    obtain ⟨sameFirst, sameSecond⟩ : first.tableName = a.tableName ∧
        second.tableName = b.tableName := by
      simpa using sameNames
    have apart : (registry.models.map Model.tableName).Nodup := sound.tables_eq ▸ sound.distinct
    rw [List.inj_on_of_nodup_map apart listedFirst (within.subset (by simp)) sameFirst,
      List.inj_on_of_nodup_map apart listedSecond (within.subset (by simp)) sameSecond]
    exact within

end Sound

/-! ## Since when something holds -/

/-- Whether a step made something true of the registry that has been true ever since. -/
structure HoldsSince (holds : Registry → Prop) (steps before : List RegistryStep)
    (step : RegistryStep) : Prop where
  begins : before ++ [step] <+: steps
  notBefore : ¬holds (empty.run before)
  ever : ∀ later, before ++ [step] <+: later → later <+: steps → holds (empty.run later)

section HoldsSince

variable {holds : Registry → Prop}

theorem HoldsSince.isPrefix (since : HoldsSince holds steps before step) : before <+: steps :=
  (List.prefix_append before [step]).trans since.begins

/-- It holds at every later time. -/
theorem HoldsSince.holds_of_lt
    (since : HoldsSince holds steps before step)
    {later : List RegistryStep}
    (within : later <+: steps)
    (isLater : before.length < later.length) :
    holds (empty.run later) :=
  since.ever later
    (List.prefix_of_prefix_length_le since.begins within (by simpa using isLater.nat_succ_le))
    within

/-- There is one such step. -/
theorem HoldsSince.unique
    {other : List RegistryStep}
    {otherStep : RegistryStep}
    (since : HoldsSince holds steps before step)
    (sinceOther : HoldsSince holds steps other otherStep) :
    other = before := by
  have notEarlier : ¬before.length < other.length := fun earlier =>
    sinceOther.notBefore (since.holds_of_lt sinceOther.isPrefix earlier)
  have notLater : ¬other.length < before.length := fun later =>
    since.notBefore (sinceOther.holds_of_lt since.isPrefix later)
  exact (List.prefix_of_prefix_length_le sinceOther.isPrefix since.isPrefix (by omega)).eq_of_length
    (by omega)

/-- In a given history it is enough to look at all that follows the step. -/
theorem holdsSince_of_take
    (begins : before ++ [step] <+: steps)
    (notBefore : ¬holds (empty.run before))
    (ever : ∀ count, before.length < count → count ≤ steps.length →
      holds (empty.run (steps.take count))) :
    HoldsSince holds steps before step := by
  refine ⟨begins, notBefore, fun later begun within => ?_⟩
  rw [List.prefix_iff_eq_take.mp within]
  have longer := begun.length_le
  rw [List.length_append, List.length_singleton] at longer
  exact ever later.length longer within.length_le

/-- What holds in the end and not at the beginning was made true by a step. -/
theorem exists_holdsSince
    (holds : Registry → Prop)
    (notAtFirst : ¬holds empty)
    (now : holds (empty.run steps)) :
    ∃ before step, HoldsSince holds steps before step := by
  induction steps using List.reverseRecOn with
  | nil => exact absurd now notAtFirst
  | append_singleton steps step earlier =>
      by_cases already : holds (empty.run steps)
      · obtain ⟨before, first, since⟩ := earlier already
        refine ⟨before, first, since.begins.trans (List.prefix_append steps [step]),
          since.notBefore, fun later begun within => ?_⟩
        rcases List.prefix_concat_iff.mp within with rfl | within
        · exact now
        · exact since.ever later begun within
      · refine ⟨steps, step, List.prefix_rfl, already, fun later begun within => ?_⟩
        rw [within.eq_of_length_le begun.length_le]
        exact now

theorem HoldsSince.holds_apply (since : HoldsSince holds steps before step) :
    holds ((empty.run before).apply step) := by
  rw [← run_concat]
  exact since.ever _ List.prefix_rfl since.begins

end HoldsSince

/-! ## Registrations that count -/

/-- Whether a model was put in place by its registration behind the beginning of a history: it was
not registered for its table before, and it has been ever since. -/
def PutInPlace (steps before : List RegistryStep) (model : Model) : Prop :=
  HoldsSince (fun registry => registry.get? model.tableName = some model) steps before
    (.register model)

/-- Whether a table was entered by a registration behind the beginning of a history: no model was
registered for it before, and there has been one ever since. -/
def Entered (steps before : List RegistryStep) (table : String) : Prop :=
  ∃ model, model.tableName = table ∧
    HoldsSince (fun registry => registry.has table = true) steps before (.register model)

/-- A registered model was put in place by one registration of it. -/
theorem exists_putInPlace (registered : (empty.run steps).get? model.tableName = some model) :
    ∃ put, ∀ before, PutInPlace steps before model ↔ before = put := by
  obtain ⟨before, step, since⟩ :=
    exists_holdsSince (fun registry => registry.get? model.tableName = some model) nofun registered
  obtain ⟨rfl, _⟩ := eq_register_of_get?_apply since.holds_apply since.notBefore
  exact ⟨before, fun other => ⟨since.unique, fun same => same ▸ since⟩⟩

/-- A table that has a model was entered by one registration. -/
theorem exists_entered (known : (empty.run steps).has table = true) :
    ∃ entering, ∀ before, Entered steps before table ↔ before = entering := by
  obtain ⟨before, step, since⟩ :=
    exists_holdsSince (fun registry => registry.has table = true) nofun known
  have entered := since.holds_apply
  have notBefore := since.notBefore
  rw [has_eq_isSome_get?] at entered notBefore
  obtain ⟨model, found⟩ := Option.isSome_iff_exists.mp entered
  obtain ⟨rfl, sameTable⟩ := eq_register_of_get?_apply found fun already =>
    notBefore (already ▸ rfl)
  refine ⟨before, fun other => ⟨?_, fun same => same ▸ ⟨model, sameTable, since⟩⟩⟩
  rintro ⟨_, _, sinceOther⟩
  exact since.unique sinceOther

/-- A model that was put in place where none was registered entered its table. -/
theorem PutInPlace.entered
    (put : PutInPlace steps before model)
    (free : (empty.run before).has model.tableName = false) :
    Entered steps before model.tableName := by
  refine ⟨model, rfl, put.begins, ?_, fun later begun within => ?_⟩
  · rw [free]
    exact Bool.false_ne_true
  · have registered := put.ever later begun within
    rw [has_eq_isSome_get?, registered]
    rfl

/-- The table of a model was entered when the model was put in place, or before. -/
theorem Entered.length_le
    {entering : List RegistryStep}
    (entered : Entered steps entering model.tableName)
    (put : PutInPlace steps before model) :
    entering.length ≤ before.length := by
  obtain ⟨_, _, since⟩ := entered
  by_contra later
  have registered := put.holds_of_lt since.isPrefix (Nat.lt_of_not_le later)
  refine since.notBefore ?_
  rw [has_eq_isSome_get?, registered]
  rfl

/-! ## The order of the tables -/

variable {first second : String} {enteringFirst enteringSecond : List RegistryStep}

/-- A table is listed exactly when a model is registered for it. -/
theorem mem_tables_iff (registry : Registry) (table : String) :
    table ∈ registry.tables ↔ registry.has table = true := by
  simp [tables, has]

/-- Tables that remain in a step keep their order. -/
theorem sublist_tables_apply
    {registry : Registry}
    (ordered : [first, second].Sublist registry.tables)
    (remainsFirst : (registry.apply step).has first = true)
    (remainsSecond : (registry.apply step).has second = true) :
    [first, second].Sublist (registry.apply step).tables := by
  have remain := ordered.filter fun table => (registry.apply step).has table
  rw [List.filter_cons_of_pos remainsFirst, List.filter_cons_of_pos remainsSecond] at remain
  exact remain.trans (registry.filter_tables_sublist step)

/-- A table that was entered first comes first, at all times since. -/
theorem sublist_tables_run
    (enteredFirst : Entered steps enteringFirst first)
    (enteredSecond : Entered steps enteringSecond second)
    (earlier : enteringFirst.length < enteringSecond.length) :
    [first, second].Sublist (empty.run steps).tables := by
  obtain ⟨_, _, sinceFirst⟩ := enteredFirst
  obtain ⟨model, rfl, sinceSecond⟩ := enteredSecond
  let entry : List RegistryStep := enteringSecond ++ [.register model]
  suffices ordered : ∀ rest, entry ++ rest <+: steps →
      [first, model.tableName].Sublist (empty.run (entry ++ rest)).tables by
    obtain ⟨rest, rfl⟩ := sinceSecond.begins
    exact ordered rest List.prefix_rfl
  intro rest
  -- The order arises when the second table is entered, behind the first one, and every later step
  -- keeps it because both tables remain.
  induction rest using List.reverseRecOn with
  | nil =>
      intro _
      have known := sinceFirst.holds_of_lt sinceSecond.isPrefix earlier
      rw [List.append_nil, run_concat, apply, register, tables_insert, if_neg sinceSecond.notBefore]
      have there := List.singleton_sublist.mpr ((mem_tables_iff _ first).mpr known)
      exact there.append (List.Sublist.refl _)
  | append_singleton rest step ordered =>
      intro within
      rw [← List.append_assoc] at within ⊢
      have begun : entry <+: entry ++ rest ++ [step] := by
        rw [List.append_assoc]
        exact List.prefix_append _ _
      have longer : enteringFirst.length < (entry ++ rest ++ [step]).length :=
        earlier.trans (Nat.lt_of_lt_of_le (by simp [entry]) begun.length_le)
      have remainsFirst := sinceFirst.holds_of_lt within longer
      have remainsSecond := sinceSecond.ever _ begun within
      rw [run_concat] at remainsFirst remainsSecond ⊢
      exact sublist_tables_apply (ordered ((List.prefix_append _ _).trans within)) remainsFirst
        remainsSecond

/-- Of different tables, the one that was entered first comes first. -/
theorem sublist_tables_iff
    (enteredFirst : Entered steps enteringFirst first)
    (enteredSecond : Entered steps enteringSecond second)
    (different : first ≠ second) :
    [first, second].Sublist (empty.run steps).tables ↔
      enteringFirst.length < enteringSecond.length := by
  refine ⟨fun ordered => ?_, sublist_tables_run enteredFirst enteredSecond⟩
  rcases Nat.lt_trichotomy enteringFirst.length enteringSecond.length with
    earlier | together | later
  · exact earlier
  · obtain ⟨model, rfl, sinceFirst⟩ := enteredFirst
    obtain ⟨other, rfl, sinceSecond⟩ := enteredSecond
    have same := (List.prefix_of_prefix_length_le sinceFirst.begins sinceSecond.begins
      (by simp [together])).eq_of_length (by simp [together])
    obtain ⟨_, sameStep⟩ := List.append_inj' same rfl
    cases sameStep
    exact absurd rfl different
  · have reversed := sublist_tables_run enteredSecond enteredFirst later
    have same := (List.Nodup.perm_iff_eq_of_sublist (sound_run steps).distinct ordered
      reversed).mp (List.Perm.swap second first [])
    exact absurd (List.cons.inj same).1 different

/-- Of two models registered for different tables, each was put in place by one registration, and
its table was entered by one.  The first is listed before the second exactly when its table was
entered before.  So it is when it was put in place before the second, unless the second then
replaced another model. -/
theorem models_inOrder
    {first second : Model}
    (listedFirst : first ∈ (empty.run steps).models)
    (listedSecond : second ∈ (empty.run steps).models)
    (different : first.tableName ≠ second.tableName) :
    ∃ putFirst putSecond enteringFirst enteringSecond : List RegistryStep,
      (∀ before, PutInPlace steps before first ↔ before = putFirst) ∧
      (∀ before, PutInPlace steps before second ↔ before = putSecond) ∧
      (∀ before, Entered steps before first.tableName ↔ before = enteringFirst) ∧
      (∀ before, Entered steps before second.tableName ↔ before = enteringSecond) ∧
      ([first, second].Sublist (empty.run steps).models ↔
        enteringFirst.length < enteringSecond.length) ∧
      (putFirst.length < putSecond.length →
        (empty.run putSecond).has second.tableName = false →
        [first, second].Sublist (empty.run steps).models) := by
  have sound := sound_run steps
  have registeredFirst := sound.mem_models_iff.mp listedFirst
  have registeredSecond := sound.mem_models_iff.mp listedSecond
  have known : ∀ {model : Model}, (empty.run steps).get? model.tableName = some model →
      (empty.run steps).has model.tableName = true := by
    intro model registered
    rw [has_eq_isSome_get?, registered]
    rfl
  obtain ⟨putFirst, placedFirst⟩ := exists_putInPlace registeredFirst
  obtain ⟨putSecond, placedSecond⟩ := exists_putInPlace registeredSecond
  obtain ⟨enteringFirst, enteredFirst⟩ := exists_entered (known registeredFirst)
  obtain ⟨enteringSecond, enteredSecond⟩ := exists_entered (known registeredSecond)
  have ordered : [first, second].Sublist (empty.run steps).models ↔
      enteringFirst.length < enteringSecond.length :=
    (sound.sublist_models_iff listedFirst listedSecond).trans
      (sublist_tables_iff ((enteredFirst _).mpr rfl) ((enteredSecond _).mpr rfl) different)
  refine ⟨putFirst, putSecond, enteringFirst, enteringSecond, placedFirst, placedSecond,
    enteredFirst, enteredSecond, ordered, fun earlier free => ordered.mpr ?_⟩
  have atPut := (enteredSecond putSecond).mp (((placedSecond _).mpr rfl).entered free)
  have before := ((enteredFirst _).mpr rfl).length_le ((placedFirst _).mpr rfl)
  rw [← atPut]
  exact Nat.lt_of_le_of_lt before earlier

/-- A model without fields that is registered for a table. -/
def modelFor (serial : Nat) (name table : String) : Model :=
  ⟨serial, name, some table, []⟩

/-- A history in which a table is left and entered again. -/
def reentry : List RegistryStep :=
  [.register (modelFor 0 "Author" "author"), .register (modelFor 1 "Book" "book"),
    .unregister "author", .register (modelFor 0 "Author" "author")]

theorem models_reentry :
    (empty.run reentry).models = [modelFor 1 "Book" "book", modelFor 0 "Author" "author"] := by
  rfl

/-- A table that is entered again comes last. -/
theorem models_inOrder_reentry :
    (modelFor 1 "Book" "book" ∈ (empty.run reentry).models ∧
      modelFor 0 "Author" "author" ∈ (empty.run reentry).models ∧
      (modelFor 1 "Book" "book").tableName ≠ (modelFor 0 "Author" "author").tableName) ∧
    PutInPlace reentry (reentry.take 1) (modelFor 1 "Book" "book") ∧
    PutInPlace reentry (reentry.take 3) (modelFor 0 "Author" "author") ∧
    [modelFor 1 "Book" "book", modelFor 0 "Author" "author"].Sublist
      (empty.run reentry).models := by
  have listedBook : modelFor 1 "Book" "book" ∈ (empty.run reentry).models := by
    rw [models_reentry]
    exact List.mem_cons_self
  have listedAuthor : modelFor 0 "Author" "author" ∈ (empty.run reentry).models := by
    rw [models_reentry]
    exact List.mem_cons_of_mem _ List.mem_cons_self
  have different : (modelFor 1 "Book" "book").tableName ≠
      (modelFor 0 "Author" "author").tableName := by
    decide
  have placedBook : PutInPlace reentry (reentry.take 1) (modelFor 1 "Book" "book") := by
    refine holdsSince_of_take ⟨reentry.drop 2, rfl⟩ nofun fun count after within => ?_
    obtain rfl | rfl | rfl : count = 2 ∨ count = 3 ∨ count = 4 := by
      simp only [reentry, List.take, List.length] at after within
      omega
    all_goals rfl
  have placedAuthor : PutInPlace reentry (reentry.take 3) (modelFor 0 "Author" "author") := by
    refine holdsSince_of_take ⟨[], rfl⟩ nofun fun count after within => ?_
    obtain rfl : count = 4 := by
      simp only [reentry, List.take, List.length] at after within
      omega
    rfl
  obtain ⟨putBook, putAuthor, _, _, atBook, atAuthor, _, _, _, ordered⟩ :=
    models_inOrder listedBook listedAuthor different
  obtain rfl := (atBook _).mp placedBook
  obtain rfl := (atAuthor _).mp placedAuthor
  exact ⟨⟨listedBook, listedAuthor, different⟩, placedBook, placedAuthor, ordered (by decide) rfl⟩

/-- A history in which a model is replaced after another one has been registered. -/
def replacement : List RegistryStep :=
  [.register (modelFor 0 "Draft" "author"), .register (modelFor 1 "Book" "book"),
    .register (modelFor 2 "Author" "author")]

/-- A model that replaces another one is listed before one that was put in place earlier. -/
theorem replacement_precedes :
    PutInPlace replacement (replacement.take 1) (modelFor 1 "Book" "book") ∧
    PutInPlace replacement (replacement.take 2) (modelFor 2 "Author" "author") ∧
    (replacement.take 1).length < (replacement.take 2).length ∧
    (empty.run replacement).models =
      [modelFor 2 "Author" "author", modelFor 1 "Book" "book"] ∧
    ¬[modelFor 1 "Book" "book", modelFor 2 "Author" "author"].Sublist
      (empty.run replacement).models := by
  refine ⟨holdsSince_of_take ⟨replacement.drop 2, rfl⟩ nofun fun count after within => ?_,
    holdsSince_of_take ⟨[], rfl⟩ nofun fun count after within => ?_, by decide, rfl, ?_⟩
  · obtain rfl | rfl : count = 2 ∨ count = 3 := by
      simp only [replacement, List.take, List.length] at after within
      omega
    all_goals rfl
  · obtain rfl : count = 3 := by
      simp only [replacement, List.take, List.length] at after within
      omega
    rfl
  · intro ordered
    have same := ordered.eq_of_length rfl
    cases same

end Registry
end BoundSql
