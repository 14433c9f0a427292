import BoundSql.Proofs.Sql.Binding

/-!
# Texts of writing statements

The text of an insertion and of an update of given columns.  When the conditions are
equalities, the statements that are made of them have these texts, so a statement
names the columns as the equalities do.
-/

namespace BoundSql

/-- A text that is a statement is its text in every dialect. -/
theorem Statement.text_ofText (dialect : Dialect) (text : String) :
    (ofText text).text dialect = text := by
  simp [ofText, Statement.text, Sql.ofText, Sql.render, Piece.render]

/-- In a dialect the separator stands between the texts of the parts. -/
theorem Sql.render_joinWith (dialect : Dialect) (separator : String) (parts : List Sql) :
    (joinWith separator parts).render dialect =
      separator.intercalate (parts.map (render dialect)) := by
  induction parts with
  | nil => simp [joinWith]
  | cons part parts joined =>
      cases parts with
      | nil => simp [joinWith]
      | cons next parts =>
          have first : joinWith separator (part :: next :: parts) =
              part ++ ([.text separator] ++ joinWith separator (next :: parts)) := by
            simp [joinWith]
          rw [first, render_append, render_append, joined]
          simp [Piece.render, String.append_assoc]

/-- The assignments of predicates that compare with values, each with a slot of its own. -/
theorem Fragment.assignments_eq
    {predicates : List Predicate}
    {next : Int}
    {position : Nat}
    {parts : List Sql}
    {bound : List Argument}
    (allBound : ∀ p ∈ predicates, p.isColumn = false)
    (assigned : assignments next position (predicates.map Item.predicate) = .ok (parts, bound)) :
    parts = List.zipWith (fun p index => [.text (p.field ++ "="), .slot index]) predicates
      (numbered next predicates.length) := by
  induction predicates generalizing next position parts bound with
  | nil =>
      cases assigned
      rfl
  | cons p predicates restAssigned =>
      obtain ⟨⟨sql, first⟩, bindsFirst, assigned⟩ := bind_eq_ok.mp assigned
      obtain ⟨⟨others, later⟩, bindsLater, finished⟩ := bind_eq_ok.mp assigned
      cases finished
      obtain ⟨column, _⟩ | ⟨_, rfl, rfl⟩ := bindPredicate_cases bindsFirst
      · exact absurd column (by simp [allBound p List.mem_cons_self])
      have rest := restAssigned (fun q member => allBound q (List.mem_cons_of_mem p member))
        bindsLater
      have numbers : numbered next (p :: predicates).length =
          next :: numbered (next + 1) predicates.length := by
        rw [List.length_cons, Nat.add_comm, numbered_add, numbered_one]
        rfl
      rw [rest, numbers, List.zipWith_cons_cons]
      rfl

/-- Text in a dialect that follows a literal one. -/
theorem Sql.render_framed (dialect : Dialect) (before : String) (sql more : Sql) :
    Sql.render dialect (.text before :: sql ++ more) =
      before ++ sql.render dialect ++ more.render dialect := by
  rw [List.cons_append, render_cons, render_append, ← String.append_assoc]
  rfl

/-- In a dialect an insertion has one placeholder for each predicate, numbered from one on. -/
theorem Fragment.render_insertion (dialect : Dialect) (predicates : List Predicate) :
    (insertion predicates).sql.render dialect =
      ", ".intercalate ((numbered 1 predicates.length).map dialect.slot) := by
  have slots : (insertion predicates).parts.map (Sql.render dialect) =
      (numbered 1 predicates.length).map dialect.slot := by
    rw [insertion, numbered, List.map_map, List.map_map]
    apply List.map_congr_left
    intro n _
    simp [Piece.render, Int.add_comm]
  rw [sql, Sql.render_joinWith, slots]
  rfl

namespace Statement

/-- The text that inserts values for named columns. -/
def insertText (dialect : Dialect) (table : String) (names : List String) : String :=
  "insert into " ++ table ++ " (" ++ ", ".intercalate names ++ ") values (" ++
    ", ".intercalate ((numbered 1 names.length).map dialect.slot) ++ ");"

/-- The text that sets named columns of the row with a key, whose slot is the last one. -/
def updateText (dialect : Dialect) (table key : String) (names : List String) : String :=
  "update " ++ table ++ " set " ++
    ", ".intercalate (List.zipWith (fun name index => name ++ "=" ++ dialect.slot index) names
      (numbered 1 names.length)) ++
    (" where " ++ key ++ "=" ++ dialect.slot (1 + names.length) ++ ";")

/-- An insertion names the fields of its predicates. -/
theorem text_of_insert
    {table : String}
    {predicates : List Predicate}
    {statement : Statement}
    (allBound : ∀ p ∈ predicates, p.isColumn = false)
    (made : (insert table (predicates.map Item.predicate)).result = .ok statement)
    (dialect : Dialect) :
    statement.text dialect = insertText dialect table (predicates.map Predicate.field) := by
  obtain ⟨fragment, fragmentMade, finished⟩ := Traced.result_bind_eq_ok.mp made
  have some : predicates ≠ [] := by
    rintro rfl
    cases fragmentMade
  rw [Fragment.result_traced, Fragment.forInsert_of_bound some allBound] at fragmentMade
  cases fragmentMade
  cases finished
  have last : Sql.render dialect [.text ");"] = ");" := by
    rw [Sql.render_cons, Sql.render_nil, String.append_empty]
    rfl
  rw [text, Sql.render_framed, Fragment.render_insertion, last]
  delta insertText
  rw [List.length_map]
  rfl

/-- An update sets the fields of its predicates. -/
theorem text_of_updateByKey
    {table key : String}
    {id : Value}
    {predicates : List Predicate}
    {statement : Statement}
    (allBound : ∀ p ∈ predicates, p.isColumn = false)
    (made : (updateByKey table key id (predicates.map Item.predicate)).result = .ok statement)
    (dialect : Dialect) :
    statement.text dialect = updateText dialect table key (predicates.map Predicate.field) := by
  obtain ⟨fragment, fragmentMade, made⟩ := Traced.result_bind_eq_ok.mp made
  obtain ⟨encoded, _, finished⟩ := Traced.result_bind_eq_ok.mp made
  rw [Fragment.result_traced] at fragmentMade
  obtain ⟨⟨parts, bound⟩, assigned, fragmentMade⟩ := bind_eq_ok.mp fragmentMade
  dsimp only at fragmentMade
  split at fragmentMade
  · cases fragmentMade
  · cases fragmentMade
    cases finished
    obtain ⟨sameArguments, _⟩ := Fragment.assignments_eq_ok assigned
    obtain rfl := Fragment.assignments_eq allBound assigned
    have count : bound.length = predicates.length := by
      rw [sameArguments, Conditions.arguments_of_predicates allBound, List.length_map]
    have parts : (List.zipWith (fun (p : Predicate) index =>
        ([.text (p.field ++ "="), .slot index] : Sql)) predicates
          (numbered 1 predicates.length)).map (Sql.render dialect) =
        List.zipWith (fun name index => name ++ "=" ++ dialect.slot index)
          (predicates.map Predicate.field)
          (numbered 1 (predicates.map Predicate.field).length) := by
      rw [List.map_zipWith, List.zipWith_map_left, List.length_map]
      simp [Piece.render, String.append_assoc]
    have last : Sql.render dialect [.text (" where " ++ key ++ "="), .slot (1 + bound.length),
        .text ";"] = " where " ++ key ++ "=" ++
          dialect.slot (1 + (predicates.map Predicate.field).length) ++ ";" := by
      rw [Sql.render_cons, Sql.render_cons, Sql.render_cons, Sql.render_nil, String.append_empty,
        count, List.length_map, ← String.append_assoc]
      rfl
    rw [text, Sql.render_framed, Fragment.sql, Sql.render_joinWith, parts, Fragment.nextIndex, last]
    rfl

end Statement
end BoundSql
