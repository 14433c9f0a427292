import BoundSql.Proofs.Sql.Placeholder
import BoundSql.Selection.Basic

/-!
# Slots of selections

The joins of a selection and its filter share one row of numbers: each part begins
where the one before it stopped.

The steps that make a selection name conditions.  The selection that a run of steps
leaves holds exactly the arguments they name, those of the joins and those of the
filter each in the order of the steps.  A step that fails names nothing, and
selecting targets begins anew.
-/

namespace BoundSql

namespace Selection

/-- The arguments of a selection: those of its joins, one join after the other, and those of its
filter. -/
def arguments (selection : Selection) : List Argument :=
  selection.joins.flatMap (fun join => join.on.arguments) ++ selection.conditions.arguments

/-- Joins are numbered one after the other, each from where the one before it stopped. -/
theorem joinsSql_eq_ok
    {next after : Int}
    {joins : List Join}
    {sql : Sql}
    {bound : List Argument}
    (made : (joinsSql next joins).result = .ok (sql, bound, after)) :
    bound = joins.flatMap (fun join => join.on.arguments) ∧
      sql.slots = numbered next bound.length ∧ after = next + bound.length := by
  induction joins generalizing next after sql bound with
  | nil =>
      cases made
      simp
  | cons join joins joinsNumbered =>
      rw [joinsSql] at made
      split at made
      · cases made
      · obtain ⟨on, onMade, made⟩ := Traced.result_bind_eq_ok.mp made
        obtain ⟨⟨others, later, last⟩, othersMade, finished⟩ :=
          Traced.result_bind_eq_ok.mp made
        rw [Fragment.result_traced] at onMade
        obtain ⟨onStart, onArguments, onSlots⟩ := Fragment.forFilter_eq_ok onMade
        obtain ⟨rfl, othersSlots, rfl⟩ := joinsNumbered othersMade
        cases finished
        refine ⟨by simp [onArguments], ?_, ?_⟩
        · simp [joinSql, onSlots, othersSlots, Fragment.nextIndex, onStart, numbered_add]
        · simp only [Fragment.nextIndex, onStart, List.length_append]
          omega

/-- The filter clause has the slots of the filter. -/
theorem slots_filterSql
    {conditions : Conditions}
    {start : Int}
    {filter : Fragment}
    (made : Fragment.forFilter conditions start = .ok filter) :
    (filterSql filter).slots = numbered start filter.arguments.length := by
  obtain ⟨starts, _, slots⟩ := Fragment.forFilter_eq_ok made
  unfold filterSql
  split
  · rename_i noParts
    rw [Fragment.arguments_eq_nil_of_parts (starts ▸ slots) (List.isEmpty_iff.mp noParts)]
    rfl
  · simpa using slots

/-- The statement of a selection binds the arguments of its joins and then those of its filter. -/
theorem statement_binds
    {selection : Selection}
    {statement : Statement}
    (made : selection.statement.result = .ok statement) :
    statement.BindsInOrder selection.arguments := by
  unfold Selection.statement at made
  split at made
  · cases made
  · obtain ⟨⟨joined, bound, next⟩, joinsMade, made⟩ := Traced.result_bind_eq_ok.mp made
    obtain ⟨filter, filterMade, finished⟩ := Traced.result_bind_eq_ok.mp made
    rw [Fragment.result_traced] at filterMade
    obtain ⟨rfl, joinedSlots, rfl⟩ := joinsSql_eq_ok joinsMade
    obtain ⟨_, filterArguments, _⟩ := Fragment.forFilter_eq_ok filterMade
    have filterSlots := slots_filterSql filterMade
    cases finished
    apply Statement.BindsInOrder.of_slots
    · rw [arguments, filterArguments]
    · rw [filterArguments] at filterSlots
      simp [arguments, joinedSlots, filterSlots, numbered_add]

end Selection

/-- The conditions that the steps of a selection name: those of its joins and those of its
filter. -/
structure SelectionSource where
  joined : Conditions
  filtered : Conditions

namespace SelectionSource

/-- The source of a selection without steps. -/
def empty : SelectionSource :=
  ⟨[], []⟩

/-- The arguments of a source, those of the joins first. -/
def arguments (source : SelectionSource) : List Argument :=
  source.joined.arguments ++ source.filtered.arguments

/-- Whether a source names the arguments that a selection holds. -/
def Describes (source : SelectionSource) (selection : Selection) : Prop :=
  selection.joins.flatMap (fun join => join.on.arguments) = source.joined.arguments ∧
    selection.conditions.arguments = source.filtered.arguments

theorem Describes.arguments_eq
    {source : SelectionSource}
    {selection : Selection}
    (describes : source.Describes selection) :
    selection.arguments = source.arguments := by
  rw [Selection.arguments, describes.1, describes.2]
  rfl

end SelectionSource

namespace SelectionStep

/-- The selection that a run of steps leaves, also when steps of it fail. -/
def run (steps : List SelectionStep) : Option Selection :=
  steps.foldl (fun begun step => (step.apply begun).2) none

/-- The source of a selection after one more step. A step that fails names nothing. -/
def extend (source : SelectionSource) : SelectionStep → SelectionSource
  | .select targets =>
      match Selection.ofTargets targets with
      | .ok _ => .empty
      | .error _ => source
  | .join kind _ on _ =>
      match on.eval, JoinKind.ofToken kind with
      | .ok on, .ok _ => ⟨source.joined ++ on, source.filtered⟩
      | _, _ => source
  | .restrict conditions =>
      match conditions.eval with
      | .ok conditions => ⟨source.joined, source.filtered ++ conditions⟩
      | .error _ => source

/-- The conditions that a run of steps names. -/
def source (steps : List SelectionStep) : SelectionSource :=
  steps.foldl extend .empty

/-- A selection of targets alone holds no arguments. -/
theorem describes_ofTargets
    {targets : List Target}
    {selection : Selection}
    (begun : Selection.ofTargets targets = .ok selection) :
    SelectionSource.empty.Describes selection := by
  unfold Selection.ofTargets at begun
  split at begun <;> cases begun <;> exact ⟨rfl, rfl⟩

/-- A step names the arguments that it adds to a selection. -/
theorem describes_apply
    {source : SelectionSource}
    {begun : Option Selection}
    (described : ∀ selection ∈ begun, source.Describes selection)
    (step : SelectionStep) :
    ∀ selection ∈ (step.apply begun).2, (extend source step).Describes selection := by
  cases step with
  | select targets =>
      rw [apply, extend]
      cases selected : Selection.ofTargets targets with
      | error error => exact described
      | ok selection =>
          intro other member
          cases member
          exact describes_ofTargets selected
  | join kind table on base =>
      rw [apply, extend]
      cases evaluated : on.eval with
      | error error => exact described
      | ok conditions =>
          cases begun with
          | none =>
              intro other member
              cases member
          | some selection =>
              obtain ⟨joined, filtered⟩ := described selection rfl
              simp only [change, Selection.join]
              cases JoinKind.ofToken kind with
              | error error =>
                  intro other member
                  cases member
                  exact ⟨joined, filtered⟩
              | ok kind =>
                  intro other member
                  cases member
                  refine ⟨?_, filtered⟩
                  simp [Selection.withBase, joined]
  | restrict conditions =>
      rw [apply, extend]
      cases evaluated : conditions.eval with
      | error error => exact described
      | ok conditions =>
          cases begun with
          | none =>
              intro other member
              cases member
          | some selection =>
              obtain ⟨joined, filtered⟩ := described selection rfl
              intro other member
              cases member
              refine ⟨joined, ?_⟩
              simp [Selection.restrict, filtered]

/-- A run of steps names the arguments of the selection that it leaves. -/
theorem describes_run
    {steps : List SelectionStep}
    {selection : Selection}
    (left : run steps = some selection) :
    (source steps).Describes selection := by
  suffices fromAny : ∀ (begun : Option Selection) (held : SelectionSource),
      (∀ selection ∈ begun, held.Describes selection) →
        ∀ selection ∈ steps.foldl (fun begun step => (step.apply begun).2) begun,
          (steps.foldl extend held).Describes selection by
    exact fromAny none .empty (by simp) selection left
  clear left
  induction steps with
  | nil => exact fun _ _ described => described
  | cons step steps described =>
      intro begun held describedBefore
      exact described _ _ (describes_apply describedBefore step)

end SelectionStep
end BoundSql
