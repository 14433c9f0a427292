import BoundSql.Proofs.Argument.RoundTrip
import BoundSql.Proofs.Condition.Composed
import BoundSql.Proofs.Sql.Recipe

/-!
# Binding plain values

Equalities of distinct fields with plain values make an insertion, and a filter
however they are joined.  Both are made without an error, and both bind the values
that stand for the given ones, in their order.
-/

namespace BoundSql

namespace Conditions

/-- The sequences that predicates are joined to: one by one or in groups, by connectives or side by
side, and with empty sequences anywhere. -/
inductive Joins : List Predicate → Conditions → Prop
  | none : Joins [] []
  | single (p : Predicate) : Joins [p] [.predicate p]
  | combined
      (combinator : Combinator)
      {first second : List Predicate}
      {a b : Conditions} :
      Joins first a → Joins second b → Joins (first ++ second) (combinator.apply a b)

namespace Joins

variable {predicates : List Predicate} {joined : Conditions}

theorem shaped (joins : Joins predicates joined) : joined.Shaped := by
  induction joins with
  | none => exact .empty
  | single p => exact .single p
  | combined combinator _ _ firstShaped secondShaped =>
      exact combinator.shaped_apply firstShaped secondShaped

theorem predicates_eq (joins : Joins predicates joined) : joined.predicates = predicates := by
  induction joins with
  | none => rfl
  | single p => rfl
  | combined combinator _ _ firstSame secondSame =>
      rw [combinator.predicates_apply, firstSame, secondSame]

/-- Joining keeps the arguments. -/
theorem arguments_eq
    {conditions : Conditions}
    (joins : Joins conditions.predicates joined) :
    joined.arguments = conditions.arguments := by
  rw [arguments, joins.predicates_eq, arguments]

end Joins

/-- Equalities are predicates side by side, with the fields and the encoded values of the pairs. -/
theorem equalities_eq_ok
    {pairs : List (String × Value)}
    {conditions : Conditions}
    (made : equalities pairs = .ok conditions) :
    ∃ predicates : List Predicate, conditions = predicates.map Item.predicate ∧
      predicates.map Predicate.field = pairs.map Prod.fst ∧
      (∀ p ∈ predicates, p.isColumn = false) ∧
      (pairs.map Prod.snd).mapM Argument.encode = .ok (predicates.map Predicate.argument) := by
  induction pairs generalizing conditions with
  | nil =>
      cases made
      exact ⟨[], rfl, rfl, by simp, rfl⟩
  | cons pair pairs restMade =>
      obtain ⟨item, others, first, rest, rfl⟩ := mapM_cons_eq_ok.mp made
      obtain ⟨p, madeFirst, finished⟩ := bind_eq_ok.mp first
      obtain ⟨field, bound, encodes⟩ := Predicate.ofValue_eq_ok madeFirst
      obtain ⟨predicates, rfl, fields, allBound, allEncode⟩ := restMade rest
      cases finished
      refine ⟨p :: predicates, rfl, by simp [field, fields], ?_, ?_⟩
      · intro q member
        obtain rfl | member := List.mem_cons.mp member
        · exact bound
        · exact allBound q member
      · exact mapM_cons_eq_ok.mpr ⟨_, _, encodes, allEncode, rfl⟩

/-- Predicates that compare with values have one argument each. -/
theorem arguments_of_predicates
    {predicates : List Predicate}
    (allBound : ∀ p ∈ predicates, p.isColumn = false) :
    arguments (predicates.map Item.predicate) = predicates.map Predicate.argument := by
  have listed : Conditions.predicates (predicates.map Item.predicate) = predicates := by
    simp [Conditions.predicates, List.filterMap_map, Function.comp_def, Item.predicate?]
  have kept : predicates.filter (fun p => !p.isColumn) = predicates :=
    List.filter_eq_self.mpr fun p member => by simp [allBound p member]
  rw [arguments, listed, kept]

/-- The arguments of equalities are the encoded values. -/
theorem arguments_of_equalities
    {pairs : List (String × Value)}
    {conditions : Conditions}
    (made : equalities pairs = .ok conditions) :
    (pairs.map Prod.snd).mapM Argument.encode = .ok conditions.arguments := by
  obtain ⟨predicates, rfl, _, allBound, allEncode⟩ := equalities_eq_ok made
  rw [arguments_of_predicates allBound, allEncode]

end Conditions

namespace Fragment

theorem insertable_of_bound
    {predicates : List Predicate}
    (position : Nat)
    (allBound : ∀ p ∈ predicates, p.isColumn = false) :
    insertable position (predicates.map Item.predicate) = .ok predicates := by
  induction predicates generalizing position with
  | nil => rfl
  | cons p predicates restAllowed =>
      have bound := allBound p List.mem_cons_self
      have rest := restAllowed (position + 1) fun q member =>
        allBound q (List.mem_cons_of_mem p member)
      rw [List.map_cons, insertable, bound, rest]
      rfl

/-- The insertion of predicates that compare with values. -/
def insertion (predicates : List Predicate) : Fragment where
  shape := .insertion
  parts := (List.range predicates.length).map fun n => [Piece.slot (n + 1 : Nat)]
  arguments := predicates.map Predicate.argument
  columns := predicates.map Predicate.field
  start := 1

/-- Some predicates that compare with values are an insertion. -/
theorem forInsert_of_bound
    {predicates : List Predicate}
    (nonempty : predicates ≠ [])
    (allBound : ∀ p ∈ predicates, p.isColumn = false) :
    forInsert (predicates.map Item.predicate) = .ok (insertion predicates) := by
  have some : predicates.isEmpty = false := by simpa using nonempty
  rw [forInsert, insertable_of_bound 0 allBound]
  exact bind_eq_ok.mpr ⟨_, rfl, by rw [some]; rfl⟩

end Fragment

/-- Plain values are encoded and decoded in their order. -/
theorem Argument.exists_decodeAll_of_plain
    {values : List Value}
    (plain : ∀ value ∈ values, value.Plain) :
    ∃ arguments bound, values.mapM encode = .ok arguments ∧ decodeAll arguments = .ok bound ∧
      List.Forall₂ Value.Canonical values bound := by
  induction values with
  | nil => exact ⟨[], [], rfl, rfl, .nil⟩
  | cons value values restDecoded =>
      obtain ⟨argument, first, encodes, decodes, canonical⟩ :=
        exists_decode_of_plain (plain value List.mem_cons_self)
      obtain ⟨arguments, bound, encodesRest, decodesRest, canonicalRest⟩ :=
        restDecoded fun other member => plain other (List.mem_cons_of_mem value member)
      refine ⟨argument :: arguments, first :: bound, ?_, ?_, .cons canonical canonicalRest⟩
      · exact mapM_cons_eq_ok.mpr ⟨_, _, encodes, encodesRest, rfl⟩
      · exact mapM_cons_eq_ok.mpr ⟨_, _, decodes, decodesRest, rfl⟩

/-- Equalities with plain values construct. -/
theorem Leaf.constructs_of_plain
    {field : String}
    {value : Value}
    (plain : value.Plain) :
    (Leaf.test field (.keyword (.comparison .eq)) value).Constructs := by
  obtain ⟨argument, _, encodes, _⟩ := Argument.exists_decode_of_plain plain
  exact ⟨_, bind_eq_ok.mpr ⟨argument, encodes, rfl⟩⟩

namespace Statement

/-- A statement that is made and binds given values, with a placeholder for each of them in every
dialect. -/
def Binds (made : Except Error Statement) (bound : List Value) : Prop :=
  ∃ statement, made = .ok statement ∧ statement.bound = .ok bound ∧
    statement.BindsInOrder statement.arguments

theorem BindsInOrder.binds
    {statement : Statement}
    {arguments : List Argument}
    {bound : List Value}
    (inOrder : statement.BindsInOrder arguments)
    (decodes : Argument.decodeAll arguments = .ok bound) :
    statement.bound = .ok bound ∧ statement.BindsInOrder statement.arguments := by
  have sameArguments := inOrder.arguments_eq
  subst sameArguments
  exact ⟨decodes, inOrder⟩

theorem insert_succeeds
    {pairs : List (String × Value)}
    {conditions : Conditions}
    {bound : List Value}
    (table : String)
    (made : Conditions.equalities pairs = .ok conditions)
    (nonempty : pairs ≠ [])
    (decodes : Argument.decodeAll conditions.arguments = .ok bound) :
    Binds (insert table conditions).result bound := by
  obtain ⟨predicates, rfl, fields, allBound, _⟩ := Conditions.equalities_eq_ok made
  have some : predicates ≠ [] := by
    rintro rfl
    exact nonempty (List.map_eq_nil_iff.mp fields.symm)
  have inserted : ∃ statement, (insert table (predicates.map Item.predicate)).result =
      .ok statement := by
    refine ⟨_, Traced.result_bind_eq_ok.mpr ⟨Fragment.insertion predicates, ?_, rfl⟩⟩
    rw [Fragment.result_traced, Fragment.forInsert_of_bound some allBound]
  obtain ⟨statement, inserted⟩ := inserted
  exact ⟨statement, inserted, (insert_binds inserted).binds decodes⟩

theorem filter_succeeds
    {conditions : Conditions}
    {bound : List Value}
    (table : String)
    (shaped : conditions.Shaped)
    (decodes : Argument.decodeAll conditions.arguments = .ok bound) :
    Binds (filter table conditions).result bound := by
  obtain ⟨fragment, fragmentMade, _, _⟩ := Fragment.exists_forFilter shaped (Int.le_refl 1)
  have filtered : ∃ statement, (filter table conditions).result = .ok statement := by
    simp only [filter, Traced.result_bind_eq_ok, Fragment.result_traced, fragmentMade]
    cases noParts : fragment.parts.isEmpty with
    | true => exact ⟨_, fragment, rfl, by rw [noParts]; rfl⟩
    | false => exact ⟨_, fragment, rfl, by rw [noParts]; rfl⟩
  obtain ⟨statement, filtered⟩ := filtered
  exact ⟨statement, filtered, (filter_binds filtered).binds decodes⟩

/-- Equalities of distinct fields with plain values are made.  Their insertion, if there are any,
and the filter of every sequence they are joined to bind the values that stand for the given
ones. -/
theorem exists_bound_of_plain
    {pairs : List (String × Value)}
    (distinct : (pairs.map Prod.fst).Nodup)
    (plain : ∀ pair ∈ pairs, pair.2.Plain) :
    ∃ conditions bound, (Expression.equalities pairs).eval = .ok conditions ∧
      List.Forall₂ Value.Canonical (pairs.map Prod.snd) bound ∧
      (pairs ≠ [] → ∀ table, Binds (insert table conditions).result bound) ∧
      ∀ joined, Conditions.Joins conditions.predicates joined →
        ∀ table, Binds (filter table joined).result bound := by
  have plainValues : ∀ value ∈ pairs.map Prod.snd, value.Plain := by
    intro value member
    obtain ⟨pair, given, rfl⟩ := List.mem_map.mp member
    exact plain pair given
  obtain ⟨conditions, made, _⟩ := Conditions.exists_equalities
    fun pair (member : pair ∈ pairs) => Leaf.constructs_of_plain (plain pair member)
  obtain ⟨arguments, bound, encodes, decodes, canonical⟩ :=
    Argument.exists_decodeAll_of_plain plainValues
  obtain rfl : conditions.arguments = arguments := by
    rw [Conditions.arguments_of_equalities made] at encodes
    exact Except.ok.inj encodes
  refine ⟨conditions, bound, ?_, canonical, fun nonempty table => ?_, fun joined joins table => ?_⟩
  · rw [Expression.eval, Entries.ofPairs_of_nodup pairs distinct, made]
  · exact insert_succeeds table made nonempty decodes
  · exact filter_succeeds table joins.shaped (joins.arguments_eq ▸ decodes)

/-- Nothing beside the text that it is encoded as, and numbers of several types. -/
def mixedPairs : List (String × Value) :=
  [("a", .null), ("b", .text "null"), ("c", .bool true), ("d", .decimal (.infinite true)),
    ("e", .float .nan)]

theorem exists_bound_of_plain_mixed :
    ∃ p q r s t : Predicate,
      (Expression.equalities mixedPairs).eval =
        .ok [.predicate p, .predicate q, .predicate r, .predicate s, .predicate t] ∧
      Binds
        (insert "t" [.predicate p, .predicate q, .predicate r, .predicate s, .predicate t]).result
        [.null, .text "null", .int 1, .float (.infinite true), .float .nan] ∧
      Binds
        (filter "t"
          ([.predicate p] ++ Conditions.connect .or [.predicate q]
            (Conditions.connect .and [.predicate r, .predicate s] [.predicate t]))).result
        [.null, .text "null", .int 1, .float (.infinite true), .float .nan] := by
  have distinct : (mixedPairs.map Prod.fst).Nodup := by decide
  have plain : ∀ pair ∈ mixedPairs, pair.2.Plain := by
    simp [mixedPairs, Value.Plain]
  obtain ⟨conditions, bound, evaluated, canonical, inserted, filtered⟩ :=
    exists_bound_of_plain distinct plain
  obtain _ | ⟨⟨⟩, _ | ⟨⟨⟩, _ | ⟨⟨⟩, _ | ⟨⟨⟩, _ | ⟨⟨⟩, ⟨⟩⟩⟩⟩⟩⟩ := canonical
  have listed : (Expression.equalities mixedPairs).eval =
      .ok [.predicate _, .predicate _, .predicate _, .predicate _, .predicate _] := rfl
  obtain rfl := Except.ok.inj (evaluated.symm.trans listed)
  refine ⟨_, _, _, _, _, evaluated, inserted (List.cons_ne_nil _ _) "t", ?_⟩
  apply filtered
  exact .combined .append (.single _)
    (.combined (.connect .or) (.single _)
      (.combined (.connect .and) (.combined .append (.single _) (.single _)) (.single _)))

end Statement
end BoundSql
