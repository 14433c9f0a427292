import BoundSql.Proofs.Sql.Text
import BoundSql.Session.Store

/-!
# Statements that are sent

What an exchange sends is the statements of its trace with their parameters.  An
exchange that succeeds is taken apart into its parts, each of which succeeds and sends
its share.  Running a statement on a database sends the text of the statement in the
dialect of the database, with the values that are bound.
-/

namespace BoundSql

/-- The statement that is executed, with its parameters, if one is. -/
def Happening.sent? : Happening → Option (String × List Value)
  | .executed statement parameters => some (statement, parameters)
  | _ => none

namespace Exchange

variable {α β : Type} {replies : List Reply}

/-- The result of an exchange for given replies. -/
def result (exchange : Exchange α) (replies : List Reply) : Except Error α :=
  (exchange replies).1.result

/-- The statements that an exchange sends for given replies. -/
def sent (exchange : Exchange α) (replies : List Reply) : List (String × List Value) :=
  (exchange replies).1.trace.filterMap Happening.sent?

/-- After a part that succeeds, the result of an exchange is that of the rest of it. -/
theorem result_bind_ok
    {first : Exchange α}
    {value : α}
    (next : α → Exchange β)
    (ok : first.result replies = .ok value) :
    (first >>= next).result replies = (next value).result (first replies).2 := by
  rw [result, bind_apply_ok next ok]
  rfl

/-- The result of an exchange whose first part fails is that failure. -/
theorem result_bind_error
    {first : Exchange α}
    {error : Error}
    (next : α → Exchange β)
    (failed : first.result replies = .error error) :
    (first >>= next).result replies = .error error := by
  rw [result, bind_apply_error next failed]

/-- After a part that succeeds, an exchange sends what the rest of it sends. -/
theorem sent_bind_ok
    {first : Exchange α}
    {value : α}
    (next : α → Exchange β)
    (ok : first.result replies = .ok value) :
    (first >>= next).sent replies =
      first.sent replies ++ (next value).sent (first replies).2 := by
  rw [sent, bind_apply_ok next ok, List.filterMap_append]
  rfl

/-- An exchange whose first part fails sends nothing after it. -/
theorem sent_bind_error
    {first : Exchange α}
    {error : Error}
    (next : α → Exchange β)
    (failed : first.result replies = .error error) :
    (first >>= next).sent replies = first.sent replies := by
  rw [sent, bind_apply_error next failed]
  rfl

/-- An exchange that succeeds is two parts that do, and it sends what they send. -/
theorem bind_succeeds
    {first : Exchange α}
    {next : α → Exchange β}
    {value : β}
    (succeeds : (first >>= next).result replies = .ok value) :
    ∃ middle rest, first.result replies = .ok middle ∧ (next middle).result rest = .ok value ∧
      (first >>= next).sent replies = first.sent replies ++ (next middle).sent rest := by
  cases outcome : first.result replies with
  | ok middle =>
      rw [result_bind_ok next outcome] at succeeds
      exact ⟨middle, (first replies).2, rfl, succeeds, sent_bind_ok next outcome⟩
  | error error =>
      rw [result_bind_error next outcome] at succeeds
      cases succeeds

/-- What computes a result without an exchange sends nothing. -/
theorem ofExcept_succeeds
    {outcome : Except Error α}
    {next : α → Exchange β}
    {value : β}
    (succeeds : (ofExcept outcome >>= next).result replies = .ok value) :
    ∃ middle, outcome = .ok middle ∧ (next middle).result replies = .ok value ∧
      (ofExcept outcome >>= next).sent replies = (next middle).sent replies := by
  cases outcome with
  | ok middle => exact ⟨middle, rfl, succeeds, rfl⟩
  | error error => cases succeeds

/-- Making a statement sends nothing. -/
theorem compile_succeeds
    {dialect : Dialect}
    {made : Traced Fragment Statement}
    {next : Statement → Exchange β}
    {value : β}
    (succeeds : (compile dialect made >>= next).result replies = .ok value) :
    ∃ statement rest, made.result = .ok statement ∧ (next statement).result rest = .ok value ∧
      (compile dialect made >>= next).sent replies = (next statement).sent rest := by
  obtain ⟨statement, rest, compiled, continued, share⟩ := bind_succeeds succeeds
  refine ⟨statement, rest, compiled, continued, ?_⟩
  have nothing : (compile dialect made).sent replies = [] := by
    change (made.trace.map _).filterMap Happening.sent? = []
    rw [List.filterMap_map, List.filterMap_eq_nil_iff]
    intro fragment _
    rfl
  rw [share, nothing, List.nil_append]

/-- A transaction sends what is sent within it. -/
theorem sent_within (binding : Binding) (body : Exchange α) :
    (within binding body).sent replies = body.sent replies := by
  cases binding with
  | connection => rfl
  | engine =>
      have last : ∀ outcome : Except Error α, (transactionEnd outcome).sent? = none := by
        intro outcome
        cases outcome <;> rfl
      rw [sent, trace_within_engine, List.filterMap_append, List.filterMap_cons_none rfl,
        List.filterMap_cons_none (last _), List.filterMap_nil, List.append_nil]
      rfl

/-- What is left of the replies does not depend on whom the connection belongs to. -/
theorem rest_within (binding : Binding) (body : Exchange α) :
    (within binding body replies).2 = (body replies).2 := by
  cases binding <;> rfl

end Exchange

namespace Database

variable {database : Database} {statement : Statement} {replies : List Reply}

/-- A statement is sent once, with the values that are bound, whatever is taken of what it
leaves. -/
theorem send_succeeds
    {α : Type}
    {take : Cursor → Except Error α}
    {value : α}
    (succeeds : (database.send statement take).result replies = .ok value) :
    ∃ bound, statement.bound = .ok bound ∧
      (database.send statement take).sent replies = [(statement.text database.dialect, bound)] := by
  have within := Exchange.result_within database.binding
    (Exchange.ofExcept statement.bound >>= fun parameters =>
      Exchange.send (statement.text database.dialect) parameters >>= fun cursor =>
        Exchange.ofExcept (take cursor)) replies
  obtain ⟨bound, decodes, continued, passed⟩ :=
    Exchange.ofExcept_succeeds (within.symm.trans succeeds)
  obtain ⟨cursor, rest, _, _, share⟩ := Exchange.bind_succeeds continued
  refine ⟨bound, decodes, ?_⟩
  have taken : (Exchange.ofExcept (take cursor)).sent rest = [] := rfl
  calc
    (database.send statement take).sent replies = _ :=
      (Exchange.sent_within database.binding _).trans passed
    _ = (Exchange.send (statement.text database.dialect) bound).sent replies ++
        (Exchange.ofExcept (take cursor)).sent rest := share
    _ = [(statement.text database.dialect, bound)] := by
      rw [taken, List.append_nil]
      rfl

/-- A statement that is reported and then sent is sent once, with the values that are bound. -/
theorem logged_send_succeeds
    {α : Type}
    {entry : LogEntry}
    {take : Cursor → Except Error α}
    {value : α}
    (succeeds : (Exchange.log entry >>= fun _ => database.send statement take).result replies =
      .ok value) :
    ∃ bound, statement.bound = .ok bound ∧
      (Exchange.log entry >>= fun _ => database.send statement take).sent replies =
        [(statement.text database.dialect, bound)] := by
  obtain ⟨_, rest, _, continued, share⟩ := Exchange.bind_succeeds succeeds
  obtain ⟨bound, decodes, sent⟩ := send_succeeds continued
  refine ⟨bound, decodes, ?_⟩
  have logged : (Exchange.log entry).sent replies = [] := rfl
  exact share.trans (by rw [logged, sent, List.nil_append])

/-- A statement that is run is sent once, with the values that are bound. -/
theorem execute_succeeds
    {count : Int}
    (succeeds : (database.execute statement).result replies = .ok count) :
    ∃ bound, statement.bound = .ok bound ∧
      (database.execute statement).sent replies = [(statement.text database.dialect, bound)] :=
  logged_send_succeeds succeeds

/-- A query whose result is read is sent once, with the values that are bound. -/
theorem fetch_succeeds
    {rows : Rows}
    (succeeds : (database.fetch statement).result replies = .ok rows) :
    ∃ bound, statement.bound = .ok bound ∧
      (database.fetch statement).sent replies = [(statement.text database.dialect, bound)] :=
  logged_send_succeeds succeeds

end Database
end BoundSql
