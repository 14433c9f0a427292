import BoundSql.Proofs.Argument.Encoding
import BoundSql.Proofs.Outcome
import BoundSql.Proofs.Session.Sent

/-!
# Values that are not encoded

A value is encoded before anything else is made of it, so what is given a value that is
not encoded fails with the error of encoding: a predicate, equalities side by side, and
the statements that find a row by its key.
-/

namespace BoundSql

variable {value : Value} {error : Error}

namespace Conditions

/-- A value that is not encoded makes no predicate, whatever the operator is. -/
theorem test_eq_error
    (fails : Argument.encode value = .error error)
    (field : String)
    (operator : Value) :
    test field operator value = .error error := by
  rw [test, Predicate.ofValue, fails]
  rfl

/-- Equalities fail with the error of the first value that is not encoded. -/
theorem equalities_eq_error
    {before : List (String × Value)}
    {conditions : Conditions}
    (made : equalities before = .ok conditions)
    (fails : Argument.encode value = .error error)
    (field : String)
    (after : List (String × Value)) :
    equalities (before ++ (field, value) :: after) = .error error := by
  refine mapM_eq_error.mpr ⟨before, (field, value), after, rfl, ⟨conditions, made⟩, ?_⟩
  dsimp only
  rw [Predicate.ofValue, fails]
  rfl

end Conditions

namespace Statement

/-- Behind the assignments, a key that is not encoded makes no statement. -/
theorem updateByKey_eq_error
    {conditions : Conditions}
    {assigned : Fragment}
    (assigns : Fragment.forUpdate conditions 1 = .ok assigned)
    (fails : Argument.encode value = .error error)
    (table key : String) :
    (updateByKey table key value conditions).result = .error error := by
  rw [updateByKey, Fragment.traced, assigns, fails]
  rfl

theorem deleteByKey_eq_error
    (fails : Argument.encode value = .error error)
    (table key : String) :
    deleteByKey table key value = .error error := by
  rw [deleteByKey, fails]
  rfl

end Statement

namespace Database

/-- A row is not updated by a key that is not encoded. -/
theorem updateByKey_eq_error
    {model : Model}
    {key : String}
    {values : Conditions}
    {assigned : Fragment}
    (identified : model.primaryKey = .ok key)
    (assigns : Fragment.forUpdate values 1 = .ok assigned)
    (fails : Argument.encode value = .error error)
    (database : Database)
    (replies : List Reply) :
    (database.updateByKey model value values).result replies = .error error := by
  rw [updateByKey, identified, Exchange.result_bind_ok _ rfl]
  apply Exchange.result_bind_error
  exact Statement.updateByKey_eq_error assigns fails model.tableName key

/-- An instance is not deleted by a key that is not encoded. -/
theorem delete_eq_error
    {self : Instance}
    {key : String}
    (identified : self.model.primaryKey = .ok key)
    (fails : Argument.encode (self.value key) = .error error)
    (database : Database)
    (replies : List Reply) :
    (database.delete self).result replies = .error error := by
  rw [delete, identified, Exchange.result_bind_ok _ rfl]
  apply Exchange.result_bind_error
  exact Statement.deleteByKey_eq_error fails self.model.tableName key

end Database

/-- Whether all that encodes a value fails with an error: a predicate, equalities behind those that
are made, and the update and the deletion of the row that has the value as its key. -/
structure Value.Spoils (value : Value) (error : Error) : Prop where
  test : ∀ field operator, Conditions.test field operator value = .error error
  equalities : ∀ before conditions field after, Conditions.equalities before = .ok conditions →
    Conditions.equalities (before ++ (field, value) :: after) = .error error
  updateByKey : ∀ (database : Database) (model : Model) key values assigned replies,
    model.primaryKey = .ok key → Fragment.forUpdate values 1 = .ok assigned →
    (database.updateByKey model value values).result replies = .error error
  delete : ∀ (database : Database) (self : Instance) key replies,
    self.model.primaryKey = .ok key → self.value key = value →
    (database.delete self).result replies = .error error

namespace Argument

/-- The error of encoding a value is that of all that encodes it. -/
theorem spoils_of_encode (fails : encode value = .error error) : value.Spoils error where
  test := Conditions.test_eq_error fails
  equalities _ _ field after made := Conditions.equalities_eq_error made fails field after
  updateByKey database _ _ _ _ replies identified assigns :=
    database.updateByKey_eq_error identified assigns fails replies
  delete database self key replies identified same := by
    rw [← same] at fails
    exact database.delete_eq_error identified fails replies

/-- A value with a literal is encoded, or it is refused with the error that names the type of its
innermost value, unless that one signals.  All that encodes a value fails with the error of
encoding. -/
theorem encode_refuses (written : value.hasLiteral = true) :
    ((∃ tag s, encode value = .ok (ofText tag s) ∧ tag ≠ .column) ∨
        encode value = .error value.refusal ↔ ¬value.innermost.Signals) ∧
      (encode value = .error value.refusal ↔ value.innermost.Formless) ∧
      (value.innermost.Signals → encode value = .error (.number .realOfSignallingNan)) ∧
      ∀ error, encode value = .error error → value.Spoils error := by
  obtain ⟨⟨argument, encodes⟩, formed, silent⟩ | ⟨refused, formless⟩ | ⟨fails, signals⟩ :=
    encode_cases written
  · obtain ⟨tag, s, rfl, notColumn⟩ := encode_eq_ok encodes
    refine ⟨iff_of_true (.inl ⟨tag, s, encodes, notColumn⟩) silent, ?_,
      fun signals => absurd signals silent, fun _ => spoils_of_encode⟩
    rw [encodes]
    exact iff_of_false nofun formed
  · have silent := formless.not_signals
    exact ⟨iff_of_true (.inr refused) silent, iff_of_true refused formless,
      fun signals => absurd signals silent, fun _ => spoils_of_encode⟩
  · have formed : ¬value.innermost.Formless := fun formless => formless.not_signals signals
    refine ⟨iff_of_false ?_ (not_not_intro signals), ?_, fun _ => fails, fun _ => spoils_of_encode⟩
    · rw [fails]
      rintro (⟨tag, s, encodes, _⟩ | refused)
      · cases encodes
      · cases refused
    · rw [fails]
      exact iff_of_false nofun formed

/-- An enumeration of the application whose members carry values of any type. -/
def anyMembers : Enumeration := ⟨"Any", .plain, true⟩

/-- Bytes carried by a member of a member are refused by the name of their type. -/
theorem encode_refuses_nested :
    (Value.member anyMembers "OUTER" (.member anyMembers "INNER" (.bytes [0]))).hasLiteral = true ∧
      encode (.member anyMembers "OUTER" (.member anyMembers "INNER" (.bytes [0]))) =
        .error (.coercion (.bytes [0]) (.text "bytes") .noEncoding) ∧
      (Value.member anyMembers "OUTER" (.member anyMembers "INNER" (.bytes [0]))).Spoils
        (.coercion (.bytes [0]) (.text "bytes") .noEncoding) := by
  have written : (Value.member anyMembers "OUTER"
      (.member anyMembers "INNER" (.bytes [0]))).hasLiteral = true := rfl
  have refused := (encode_refuses written).2.1.mpr (.bytes [0])
  exact ⟨written, refused, (encode_refuses written).2.2.2 _ refused⟩

/-- A decimal that signals is neither encoded nor refused by its type. -/
theorem encode_signalling :
    (Value.decimal (.nan false true 0)).hasLiteral = true ∧
      encode (.decimal (.nan false true 0)) = .error (.number .realOfSignallingNan) ∧
      ∀ value tag reason,
        encode (.decimal (.nan false true 0)) ≠ .error (.coercion value tag reason) := by
  have fails : encode (.decimal (.nan false true 0)) =
      .error (.number .realOfSignallingNan) := rfl
  refine ⟨rfl, fails, ?_⟩
  intro value tag reason
  rw [fails]
  exact nofun

end Argument
end BoundSql
