import BoundSql.Log
import BoundSql.Sql.Statement
import BoundSql.Selection.Rows

/-!
# Exchanges with a connection

What happens when statements go to a connection. An exchange takes the replies
of the connection one after the other, one for each statement that reaches it,
and leaves a trace of everything that happened, whether it fails or not.

On an engine an exchange takes place in a transaction, which is committed when it
succeeds and rolled back when it fails. On a connection of its own the
transaction is up to the owner of the connection.
-/

namespace BoundSql

/-- What a connection says to a statement. -/
inductive Reply
  | result (rowCount : Int) (rows : Rows)
  | refusal (text : String)
  /-- The statement is run, but its rows cannot be read. -/
  | unreadable (rowCount : Int) (text : String)

/-- What there is of a statement that has been run: the number of rows that it affects, and its
rows, which are yet to be read. -/
structure Cursor where
  rowCount : Int
  rows : Except Error Rows

namespace Reply

/-- The reply of a connection that has nothing more to say. -/
def ordinary : Reply :=
  .result 1 ⟨[], []⟩

/-- What a reply leaves of a statement, unless it refuses it. -/
def cursor : Reply → Except Error Cursor
  | .result rowCount rows => .ok ⟨rowCount, .ok rows⟩
  | .refusal text => .error (.driver text)
  | .unreadable rowCount text => .ok ⟨rowCount, .error (.driver text)⟩

end Reply

/-- What can happen during an exchange. -/
inductive Happening
  | logged (entry : LogEntry)
  | begun
  | executed (statement : String) (parameters : List Value)
  | committed
  | rolledBack
  | disposed

/-- What was reported, if something was. -/
def Happening.entry? : Happening → Option LogEntry
  | .logged entry => some entry
  | _ => none

/-- Whom the connection belongs to. -/
inductive Binding
  | engine
  | connection
  deriving DecidableEq, Repr

/-- A computation that exchanges statements for replies. -/
def Exchange (α : Type) : Type :=
  List Reply → Traced Happening α × List Reply

namespace Exchange

variable {α β : Type}

/-- A computation without an exchange. -/
def ofTraced (computation : Traced Happening α) : Exchange α :=
  fun replies => (computation, replies)

/-- A result without an exchange. -/
def ofExcept (result : Except Error α) : Exchange α :=
  ofTraced (.ofExcept result)

/-- Let something happen. -/
def note (happening : Happening) : Exchange Unit :=
  ofTraced (.note happening)

/-- Report something. -/
def log (entry : LogEntry) : Exchange Unit :=
  note (.logged entry)

/-- Go on with the value of an exchange, unless it failed. -/
def andThen (first : Exchange α) (next : α → Exchange β) : Exchange β :=
  fun replies =>
    let (done, rest) := first replies
    match done.result with
    | .ok value =>
        let (more, rest) := next value rest
        (⟨done.trace ++ more.trace, more.result⟩, rest)
    | .error error => (⟨done.trace, .error error⟩, rest)

instance : Monad Exchange where
  pure value := ofExcept (.ok value)
  bind := andThen

/-- An exchange and what happens at its end, which is chosen by its result. -/
def endingWith (last : Except Error α → Happening) (body : Exchange α) : Exchange α :=
  fun replies =>
    let (done, rest) := body replies
    (⟨done.trace ++ [last done.result], done.result⟩, rest)

/-- How a transaction ends. -/
def transactionEnd : Except Error α → Happening
  | .ok _ => .committed
  | .error _ => .rolledBack

/-- An exchange on a connection, within a transaction if the connection comes from an engine. -/
def within (binding : Binding) (body : Exchange α) : Exchange α :=
  match binding with
  | .engine => do
      note .begun
      endingWith transactionEnd body
  | .connection => body

/-- Send a statement and take the reply. -/
def send (statement : String) (parameters : List Value) : Exchange Cursor :=
  fun replies =>
    (⟨[.executed statement parameters], (replies.headD .ordinary).cursor⟩, replies.tail)

/-- Make a statement, and report the fragments it is made of. -/
def compile (dialect : Dialect) (statement : Traced Fragment Statement) : Exchange Statement :=
  ofTraced (statement.mapTrace fun fragment => .logged (.compiled dialect fragment))

/-- An exchange goes on with the value and the replies that the first part of it leaves. -/
theorem bind_apply_ok {first : Exchange α} {replies : List Reply} {value : α}
    (next : α → Exchange β)
    (ok : (first replies).1.result = .ok value) :
    (first >>= next) replies =
      (⟨(first replies).1.trace ++ (next value (first replies).2).1.trace,
        (next value (first replies).2).1.result⟩, (next value (first replies).2).2) := by
  simp only [bind, andThen, ok]

/-- An exchange ends where a part of it fails. -/
theorem bind_apply_error {first : Exchange α} {replies : List Reply} {error : Error}
    (next : α → Exchange β)
    (failed : (first replies).1.result = .error error) :
    (first >>= next) replies =
      (⟨(first replies).1.trace, .error error⟩, (first replies).2) := by
  simp only [bind, andThen, failed]

/-- On an engine whatever happens stands between the beginning of a transaction and its end. -/
theorem trace_within_engine (body : Exchange α) (replies : List Reply) :
    (within .engine body replies).1.trace =
      .begun :: (body replies).1.trace ++ [transactionEnd (body replies).1.result] := rfl

@[simp] theorem result_within (binding : Binding) (body : Exchange α) (replies : List Reply) :
    (within binding body replies).1.result = (body replies).1.result := by
  cases binding <;> rfl

@[simp] theorem within_connection (body : Exchange α) : within .connection body = body := rfl

end Exchange
end BoundSql
