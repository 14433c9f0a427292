import BoundSql.Proofs.Model.Reading
import BoundSql.Proofs.Outcome
import BoundSql.Selection.Rows

/-!
# Rows by name and by groups

A record of a result has one value for each column.  By name it is a row in which the
first of several columns of one name counts.  Cut into groups it is one row for each
list of names that the columns are made of.

An instance is made from what a row holds under the names of the fields, so rows that
agree on these names make the same instance.
-/

namespace BoundSql

/-- As many values as names make pairs. -/
theorem pairUp_eq_zip
    {names : List String}
    {values : List Value}
    (complete : values.length = names.length) :
    pairUp names values = .ok (names.zip values) := by
  simp [pairUp, complete]

/-- The names of pairs made of names and as many values. -/
theorem map_fst_zip_of_complete
    {names : List String}
    {values : List Value}
    (complete : values.length = names.length) :
    (names.zip values).map Prod.fst = names :=
  List.map_fst_zip (by omega)

namespace Row

/-- Of several pairs with one name the first one counts. -/
theorem lookup_ofFirst (pairs : List (String × Value)) (name : String) :
    (ofFirst pairs).lookup name = pairs.lookup name := by
  suffices behind : ∀ row : Row,
      (pairs.foldl (fun row pair => if row.any (·.1 == pair.1) then row else row ++ [pair])
        row).lookup name = (row.lookup name).or (pairs.lookup name) by
    have whole := behind []
    rw [List.lookup_nil, Option.none_or] at whole
    exact whole
  induction pairs with
  | nil => simp
  | cons pair pairs behind =>
      obtain ⟨first, value⟩ := pair
      intro row
      rw [List.foldl_cons, behind, List.lookup_cons]
      dsimp only
      rw [Entries.any_eq_isSome_lookup]
      by_cases asked : name = first
      · subst asked
        cases found : row.lookup name with
        | none => simp [List.lookup_append, found]
        | some previous => simp [found]
      · have other : (name == first) = false := beq_false_of_ne asked
        cases (row.lookup first).isSome with
        | true => simp [other]
        | false => simp [List.lookup_append, List.lookup_cons, other]

/-- Pairs with distinct names are a row as they are. -/
theorem ofLast_zip
    {names : List String}
    {values : List Value}
    (distinct : names.Nodup)
    (complete : values.length = names.length) :
    ofLast (names.zip values) = names.zip values := by
  apply Entries.ofPairs_of_nodup
  rw [map_fst_zip_of_complete complete]
  exact distinct

/-- Whether two rows hold the same under given names. -/
def AgreeOn (names : List String) (row other : Row) : Prop :=
  ∀ name ∈ names, row.lookup name = other.lookup name

end Row

/-- Rows that agree on the names of the fields make the same instance. -/
theorem Model.instanceOf_congr
    {model : Model}
    {row other : Row}
    (agree : Row.AgreeOn model.fieldNames row other) :
    model.instanceOf row = model.instanceOf other := by
  have same : ∀ field ∈ model.fields, field.valueIn? row = field.valueIn? other := by
    intro field member
    rw [Field.valueIn?, Field.valueIn?, agree field.name (List.mem_map_of_mem member)]
  have unfilled : Field.unfilled row model.fields = Field.unfilled other model.fields := by
    rw [Field.unfilled, Field.unfilled]
    congr 1
    apply List.filter_congr
    intro field member
    rw [same field member]
  have filled : Field.filled row model.fields = Field.filled other model.fields := by
    rw [Field.filled, Field.filled]
    apply List.filterMap_congr
    intro field member
    rw [same field member]
  rw [instanceOf, instanceOf, Field.fill, Field.fill, unfilled, filled]

/-- An instance is refused with the fields that have no value. -/
theorem Model.exists_of_instanceOf_eq_error
    {model : Model}
    {row : Row}
    {error : Error}
    (failed : model.instanceOf row = .error error) :
    ∃ fields, error = .validation fields := by
  unfold instanceOf Field.fill at failed
  split at failed
  · cases failed
  · cases failed
    exact ⟨_, rfl⟩

namespace Rows

/-- A record cut into a row for each of several lists of names. -/
def cut : List (List String) → List Value → List Row
  | [], _ => []
  | names :: groups, values =>
      Row.ofLast (names.zip (values.take names.length)) ::
        cut groups (values.drop names.length)

/-- Columns that are made of several lists of names are cut into them. -/
theorem cutRows_flatten
    {groups : List (List String)}
    {values : List Value}
    (complete : values.length = groups.flatten.length) :
    cutRows groups.flatten values (groups.map List.length) = .ok (cut groups values) := by
  induction groups generalizing values with
  | nil => rfl
  | cons names groups cutRest =>
      rw [List.flatten_cons, List.length_append] at complete
      have first : (values.take names.length).length = names.length := by
        rw [List.length_take]
        omega
      have rest : (values.drop names.length).length = groups.flatten.length := by
        rw [List.length_drop]
        omega
      rw [List.map_cons, List.flatten_cons, cutRows, List.take_left, List.drop_left,
        pairUp_eq_zip first, cutRest rest]
      rfl

/-- The row of a group is made from the values behind those of the groups before it. -/
theorem cut_getD
    (earlier : List (List String))
    (names : List String)
    (later : List (List String))
    (values : List Value) :
    (cut (earlier ++ names :: later) values).getD earlier.length [] =
      Row.ofLast (names.zip ((values.drop earlier.flatten.length).take names.length)) := by
  induction earlier generalizing values with
  | nil => simp [cut]
  | cons first earlier placed =>
      rw [List.cons_append, cut, List.length_cons, List.getD_cons_succ, placed, List.drop_drop,
        List.flatten_cons, List.length_append]

/-- Complete records are rows by name. -/
theorem mappings_eq_ok
    {rows : Rows}
    (complete : ∀ record ∈ rows.records, record.length = rows.columns.length) :
    rows.mappings = .ok (rows.records.map fun record => Row.ofFirst (rows.columns.zip record)) := by
  apply mapM_eq_ok_map
  intro record member
  rw [pairUp_eq_zip (complete record member)]
  rfl

/-- Complete records are cut into groups of names that together make the columns and are as wide as
the shapes have fields. -/
theorem groups_eq_ok_of_flatten
    {rows : Rows}
    {shapes : List Model}
    {groups : List (List String)}
    (columns : rows.columns = groups.flatten)
    (widthsEq : widths shapes = groups.map List.length)
    (complete : ∀ record ∈ rows.records, record.length = rows.columns.length) :
    rows.groups shapes = .ok (rows.records.map (cut groups)) := by
  have expected : (widths shapes).foldl (· + ·) 0 = rows.columns.length := by
    rw [columns, List.length_flatten, widthsEq, ← List.sum_eq_foldl]
  rw [Rows.groups, expected, widthsEq, columns]
  simp only [bne_self_eq_false, Bool.false_eq_true, if_false]
  apply mapM_eq_ok_map
  intro record member
  apply cutRows_flatten
  rw [complete record member, columns]

/-- Complete records are cut into groups when the columns are made of the fields of the shapes. -/
theorem groups_eq_ok
    {rows : Rows}
    {shapes : List Model}
    (columns : rows.columns = (shapes.map Model.fieldNames).flatten)
    (complete : ∀ record ∈ rows.records, record.length = rows.columns.length) :
    rows.groups shapes = .ok (rows.records.map (cut (shapes.map Model.fieldNames))) := by
  refine groups_eq_ok_of_flatten columns ?_ complete
  rw [widths, List.map_map]
  apply List.map_congr_left
  intro shape _
  simp [Model.fieldNames]

end Rows
end BoundSql
