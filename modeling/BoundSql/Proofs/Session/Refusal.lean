import BoundSql.Proofs.Session.Transaction

/-!
# Refused calls

A call is refused when what is given makes no statement: its conditions do not compile, an
operator is none, a model has no table, or a value has no form under its tag.  A refused
call has taken no effect.  No statement has reached the connection and no transaction has
been committed, whatever the call would have done.

What can be refused comes before the first statement in every call but the one that
creates the tables of several models.  The arguments of a statement are decoded inside
its transaction, before the statement is sent, and a statement without arguments is not
refused any more.  After a statement only rows are left to go wrong.
-/

namespace BoundSql

/-- Whether something takes effect: a statement reaches the connection, or a transaction is
committed. -/
def Happening.takesEffect : Happening → Bool
  | .executed _ _ | .committed => true
  | .logged _ | .begun | .rolledBack | .disposed => false

theorem Happening.not_takesEffect_of_not_isTraffic
    {happening : Happening}
    (noTraffic : happening.isTraffic = false) :
    happening.takesEffect = false := by
  cases happening <;> first | rfl | cases noTraffic

namespace Exchange

variable {α β : Type} {first : Exchange α} {next : α → Exchange β}

/-- Whether an exchange takes no effect when it is refused. -/
def RefusedEarly (exchange : Exchange α) : Prop :=
  ∀ replies error, exchange.result replies = .error error → error.isRefusal →
    ∀ happening ∈ (exchange replies).1.trace, happening.takesEffect = false

theorem Quiet.not_takesEffect (quiet : first.Quiet) (replies : List Reply) :
    ∀ happening ∈ (first replies).1.trace, happening.takesEffect = false :=
  fun happening member =>
    Happening.not_takesEffect_of_not_isTraffic ((quiet replies).2 happening member)

theorem Unrefused.refusedEarly (unrefused : first.Unrefused) : first.RefusedEarly := by
  intro replies error failed refusal
  exact absurd refusal (Error.not_isRefusal (unrefused replies error failed))

/-- An exchange is refused where one of its two parts is. -/
theorem refused_bind
    {replies : List Reply}
    {error : Error}
    (failed : (first >>= next).result replies = .error error) :
    (first.result replies = .error error ∧
      ((first >>= next) replies).1.trace = (first replies).1.trace) ∨
    ∃ value, first.result replies = .ok value ∧
      (next value).result (first replies).2 = .error error := by
  cases outcome : (first replies).1.result with
  | error failure =>
      rw [result, bind_apply_error next outcome] at failed
      cases failed
      exact .inl ⟨outcome, congrArg (fun done => done.1.trace) (bind_apply_error next outcome)⟩
  | ok value =>
      rw [result_bind_ok next outcome] at failed
      exact .inr ⟨value, outcome, failed⟩

/-- What is quiet may be refused before anything that takes no effect when it is refused. -/
theorem Quiet.refusedEarly_bind
    (quiet : first.Quiet)
    (early : ∀ value, (next value).RefusedEarly) :
    (first >>= next).RefusedEarly := by
  intro replies error failed refusal
  obtain ⟨_, trace_eq⟩ | ⟨value, ok, failedNext⟩ := refused_bind failed
  · rw [trace_eq]
    exact quiet.not_takesEffect replies
  · apply forall_trace_bind (quiet.not_takesEffect replies)
    intro other otherwise
    cases ok.symm.trans otherwise
    exact early value _ error failedNext refusal

/-- What is not refused may follow on anything that takes no effect when it is refused. -/
theorem RefusedEarly.bind
    (early : first.RefusedEarly)
    (unrefused : ∀ replies value, first.result replies = .ok value → (next value).Unrefused) :
    (first >>= next).RefusedEarly := by
  intro replies error failed refusal
  obtain ⟨failedFirst, trace_eq⟩ | ⟨value, ok, failedNext⟩ := refused_bind failed
  · rw [trace_eq]
    exact early replies error failedFirst refusal
  · exact absurd refusal (Error.not_isRefusal (unrefused replies value ok _ error failedNext))

/-- What is not refused may follow on what is not refused. -/
theorem Unrefused.bind
    (unrefused : first.Unrefused)
    (unrefusedNext : ∀ replies value, first.result replies = .ok value → (next value).Unrefused) :
    (first >>= next).Unrefused := by
  intro replies error failed
  obtain ⟨failedFirst, _⟩ | ⟨value, ok, failedNext⟩ := refused_bind failed
  · exact unrefused replies error failedFirst
  · exact unrefusedNext replies value ok _ error failedNext

end Exchange

namespace Database

open Exchange

variable {database : Database} {statement : Statement} {α : Type} {take : Cursor → Except Error α}

/-- Arguments that are not decoded take no effect. -/
theorem send_not_takesEffect_of_undecoded
    {error : Error}
    (undecoded : statement.bound = .error error)
    (replies : List Reply) :
    ∀ happening ∈ (database.send statement take replies).1.trace,
      happening.takesEffect = false := by
  rw [send, undecoded]
  cases database.binding with
  | connection => exact List.forall_mem_nil _
  | engine => exact List.forall_mem_cons.mpr ⟨rfl, List.forall_mem_singleton.mpr rfl⟩

/-- When the arguments are decoded, only the connection can fail. -/
theorem failsWith_send_of_decoded
    {parameters : List Value}
    (decoded : statement.bound = .ok parameters)
    (takes : ∀ reply : Reply, ∀ cursor, reply.cursor = .ok cursor →
      FailsWith Error.isDriver (take cursor))
    (replies : List Reply) :
    FailsWith Error.isDriver ((database.send statement take).result replies) := by
  rw [result, send, result_within, sending_apply decoded]
  intro error failed
  rcases bind_eq_error.mp failed with refused | ⟨cursor, left, unread⟩
  · exact Reply.failsWith_cursor _ error refused
  · exact takes _ cursor left error unread

theorem refusedEarly_send
    (takes : ∀ reply : Reply, ∀ cursor, reply.cursor = .ok cursor →
      FailsWith Error.isDriver (take cursor)) :
    (database.send statement take).RefusedEarly := by
  intro replies error failed refusal
  cases decoded : statement.bound with
  | error failure => exact send_not_takesEffect_of_undecoded decoded replies
  | ok parameters =>
      have driver := failsWith_send_of_decoded decoded takes replies error failed
      exact absurd refusal (Error.not_isRefusal (Error.isNoRefusal_of_isDriver driver))

theorem refusedEarly_execute (statement : Statement) :
    (database.execute statement).RefusedEarly :=
  (quiet_log _).refusedEarly_bind fun _ => refusedEarly_send fun _ _ _ => .ok _

theorem refusedEarly_fetch (statement : Statement) :
    (database.fetch statement).RefusedEarly :=
  (quiet_log _).refusedEarly_bind fun _ => refusedEarly_send fun _ _ left =>
    Reply.failsWith_rows left

/-- A statement without arguments is not refused. -/
theorem unrefused_execute_ofText (text : String) :
    (database.execute (Statement.ofText text)).Unrefused := by
  have logged : ∀ entry, (log entry).Unrefused := fun _ _ => .ok ()
  refine (logged _).bind fun _ _ _ => ?_
  intro replies
  exact (failsWith_send_of_decoded rfl (fun _ _ _ => .ok _) replies).mono
    Error.isNoRefusal_of_isDriver

end Database

namespace Exchange

/-- What is true of an exchange that may be refused at a time. -/
def RefusedAt {α : Type} (exchange : Exchange α) : RefusalTime → Prop
  | .never => exchange.Unrefused
  | .early => exchange.RefusedEarly
  | .late => True

/-- What is composed so that it may be refused at a time is not refused at others. -/
theorem Composed.refusedAt
    {database : Database}
    {time : RefusalTime}
    {α : Type}
    {exchange : Exchange α}
    (composed : Composed database time exchange) :
    exchange.RefusedAt time := by
  induction composed with
  | settled _ unrefused => exact unrefused
  | quiet quiet => exact fun replies _ _ _ => quiet.not_takesEffect replies
  | executeText text => exact Database.unrefused_execute_ofText text
  | execute statement => exact Database.refusedEarly_execute statement
  | fetch statement => exact Database.refusedEarly_fetch statement
  | prepare quiet _ early => exact quiet.refusedEarly_bind early
  | @finish _ _ time _ _ _ _ atTime unrefused =>
      cases time with
      | never => exact Unrefused.bind atTime unrefused
      | early => exact RefusedEarly.bind atTime unrefused
      | late => trivial
  | follow => trivial
  | early _ unrefused => exact Unrefused.refusedEarly unrefused
  | late => trivial

end Exchange

namespace SessionState

/-- When a call other than the creation of several tables is refused, no statement of it has reached
the connection and nothing has been committed. -/
theorem refused_step
    {state : SessionState}
    {call : Call}
    {replies : List Reply}
    {error : Error}
    (single : call.isMigrateAll = false)
    (failed : (state.step call replies).1.result = .error error)
    (refusal : error.isRefusal) :
    ∀ happening ∈ (state.step call replies).1.trace, happening.takesEffect = false := by
  have composed := call.composed_run state
  rw [Call.refusalTime, single, if_neg Bool.false_ne_true] at composed
  exact composed.refusedAt replies error (map_eq_error.mp failed) refusal

/-- A model without a key. -/
def keylessModel : Model :=
  ⟨0, "Note", none, [⟨"text", .scalar .text, .plain, none⟩]⟩

/-- An assignment of a text under the tag of whole numbers. -/
def unparsedAssignment : Expression :=
  .entries .list [.given (.predicate ⟨"age", .text "old", .integer, .eq⟩)]

theorem refused_step_keyless :
    (∃ error, ((step ⟨⟨.engine, .sqlite, .empty⟩, []⟩ (.migrate keylessModel true) []).1.result =
      .error error ∧ error.isRefusal) ∧
      ∀ happening ∈ (step ⟨⟨.engine, .sqlite, .empty⟩, []⟩ (.migrate keylessModel true) []).1.trace,
        happening.takesEffect = false) ∧
    ∃ error, ((step ⟨⟨.engine, .sqlite, .empty⟩, []⟩ (.create keylessModel unparsedAssignment)
        []).1.result = .error error ∧ error.isRefusal) ∧
      ∀ happening ∈ (step ⟨⟨.engine, .sqlite, .empty⟩, []⟩
        (.create keylessModel unparsedAssignment) []).1.trace, happening.takesEffect = false :=
  ⟨⟨_, ⟨rfl, rfl⟩, refused_step rfl rfl rfl⟩, ⟨_, ⟨rfl, rfl⟩, refused_step rfl rfl rfl⟩⟩

end SessionState
end BoundSql
