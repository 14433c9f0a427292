import BoundSql.Proofs.Session.Composition
import BoundSql.Proofs.Session.Runs

/-!
# Transactions

On an engine every statement has a transaction of its own.  It is begun before the
arguments of the statement are decoded, so arguments that do not decode leave a
transaction without a statement.  It is committed when the arguments are decoded, the
statement is run and, in a query, its rows are read, and rolled back when one of these
fails.

Statements that are run one after the other have one transaction after the other.  A
transaction that is rolled back is the last one.  So the transactions are determined by
the statements and by the replies of the connection, and each of them is committed or
rolled back by what it is about.  On a connection of its own there are no transactions.
-/

namespace BoundSql

/-- Whether something is the beginning or the end of a transaction. -/
def Happening.isTransactional : Happening → Bool
  | .begun | .committed | .rolledBack => true
  | .executed _ _ | .logged _ | .disposed => false

theorem Happening.not_isTransactional_of_not_isTraffic
    {happening : Happening}
    (noTraffic : happening.isTraffic = false) :
    happening.isTransactional = false := by
  cases happening <;> first | rfl | cases noTraffic

/-- A statement that is run in a transaction of its own. -/
structure Transaction where
  run : Run
  /-- What the connection replies to the statement, if it reaches the connection. -/
  reply : Reply

namespace Transaction

/-- How a transaction comes out: the arguments are decoded, the statement is run, and the rows of a
query are read. -/
def outcome (transaction : Transaction) : Except Error Unit := do
  let _ ← transaction.run.statement.bound
  let cursor ← transaction.reply.cursor
  transaction.run.read cursor

/-- The statement with its parameters, if its arguments are decoded. -/
def executed (dialect : Dialect) (transaction : Transaction) : List Happening :=
  match transaction.run.statement.bound with
  | .ok parameters => [.executed (transaction.run.statement.text dialect) parameters]
  | .error _ => []

/-- What happens in a transaction: it begins, the statement is executed, and the transaction is
committed if it comes out well, and rolled back if not. -/
def happenings (dialect : Dialect) (transaction : Transaction) : List Happening :=
  .begun :: transaction.executed dialect ++ [Exchange.transactionEnd transaction.outcome]

/-- A transaction whose arguments are not decoded fails with their error. -/
theorem outcome_of_undecoded
    {transaction : Transaction}
    {error : Error}
    (undecoded : transaction.run.statement.bound = .error error) :
    transaction.outcome = .error error := by
  rw [outcome, undecoded]
  rfl

/-- A transaction whose arguments are not decoded has no statement and is rolled back. -/
theorem happenings_of_undecoded
    {transaction : Transaction}
    {error : Error}
    (undecoded : transaction.run.statement.bound = .error error)
    (dialect : Dialect) :
    transaction.happenings dialect = [.begun, .rolledBack] := by
  rw [happenings, executed, outcome_of_undecoded undecoded, undecoded]
  rfl

/-- All that happens in a transaction passes between the database and the connection. -/
theorem filter_happenings (dialect : Dialect) (transaction : Transaction) :
    (transaction.happenings dialect).filter Happening.isTraffic =
      transaction.happenings dialect := by
  unfold happenings executed
  cases transaction.run.statement.bound <;> cases transaction.outcome <;> rfl

/-- A transaction fails only because arguments are not decoded or because of the connection. -/
theorem failsWith_outcome (transaction : Transaction) :
    FailsWith Error.isExecutionFault transaction.outcome := by
  refine transaction.run.statement.failsWith_bound.bind fun _ => ?_
  intro error failed
  rcases bind_eq_error.mp failed with refused | ⟨cursor, left, unread⟩
  · exact Error.isExecutionFault_of_isDriver (transaction.reply.failsWith_cursor error refused)
  · cases isRun : transaction.run with
    | command statement =>
        rw [isRun] at unread
        cases unread
    | query statement =>
        rw [isRun] at unread
        exact Error.isExecutionFault_of_isDriver
          (Reply.failsWith_rows left error (map_eq_error.mp unread))

end Transaction

namespace Run

variable {runs : List Run} {replies : List Reply} {run : Run} {transaction : Transaction}

/-- The transactions of runs, one after the other.  Each takes the next reply of the connection, and
one that fails is the last one. -/
def transactions : List Run → List Reply → List Transaction
  | [], _ => []
  | run :: runs, replies =>
      let transaction : Transaction := ⟨run, replies.headD .ordinary⟩
      match transaction.outcome with
      | .ok _ => transaction :: transactions runs replies.tail
      | .error _ => [transaction]

theorem transactions_cons_of_ok
    (ok : (Transaction.mk run (replies.headD .ordinary)).outcome = .ok ())
    (runs : List Run) :
    transactions (run :: runs) replies =
      ⟨run, replies.headD .ordinary⟩ :: transactions runs replies.tail := by
  simp only [transactions, ok]

theorem transactions_cons_of_error
    {error : Error}
    (failed : (Transaction.mk run (replies.headD .ordinary)).outcome = .error error)
    (runs : List Run) :
    transactions (run :: runs) replies = [⟨run, replies.headD .ordinary⟩] := by
  simp only [transactions, failed]

theorem transactions_singleton (run : Run) (replies : List Reply) :
    transactions [run] replies = [⟨run, replies.headD .ordinary⟩] := by
  cases ended : (Transaction.mk run (replies.headD .ordinary)).outcome with
  | ok => exact transactions_cons_of_ok ended []
  | error error => exact transactions_cons_of_error ended []

/-- Every transaction but the last one is committed. -/
theorem outcome_of_mem_dropLast (member : transaction ∈ (transactions runs replies).dropLast) :
    transaction.outcome = .ok () := by
  induction runs generalizing replies with
  | nil => cases member
  | cons run runs committed =>
      cases ended : (Transaction.mk run (replies.headD .ordinary)).outcome with
      | error error =>
          rw [transactions_cons_of_error ended] at member
          cases member
      | ok =>
          rw [transactions_cons_of_ok ended] at member
          cases others : transactions runs replies.tail with
          | nil =>
              rw [others] at member
              cases member
          | cons other rest =>
              rw [others, List.dropLast_cons_of_ne_nil (List.cons_ne_nil other rest), ← others]
                at member
              rcases List.mem_cons.mp member with rfl | member
              · exact ended
              · exact committed member

/-- Behind runs whose transactions are all committed come the transactions of further runs. -/
theorem transactions_append_of_ok
    (committed : ∀ transaction ∈ transactions runs replies, transaction.outcome = .ok ())
    (others : List Run) :
    transactions (runs ++ others) replies =
      transactions runs replies ++ transactions others (replies.drop runs.length) := by
  induction runs generalizing replies with
  | nil => rfl
  | cons run runs appended =>
      cases ended : (Transaction.mk run (replies.headD .ordinary)).outcome with
      | error error =>
          rw [transactions_cons_of_error ended] at committed
          cases ended.symm.trans (committed _ (List.mem_singleton_self _))
      | ok =>
          rw [transactions_cons_of_ok ended] at committed ⊢
          rw [List.cons_append, transactions_cons_of_ok ended, List.cons_append,
            appended (List.forall_mem_cons.mp committed).2, List.length_cons, List.drop_tail]

/-- Behind a transaction that fails there is none. -/
theorem transactions_append_of_error
    {error : Error}
    (member : transaction ∈ transactions runs replies)
    (failed : transaction.outcome = .error error)
    (others : List Run) :
    transactions (runs ++ others) replies = transactions runs replies := by
  induction runs generalizing replies with
  | nil => cases member
  | cons run runs appended =>
      cases ended : (Transaction.mk run (replies.headD .ordinary)).outcome with
      | error error =>
          rw [List.cons_append, transactions_cons_of_error ended, transactions_cons_of_error ended]
      | ok =>
          rw [transactions_cons_of_ok ended] at member ⊢
          rw [List.cons_append, transactions_cons_of_ok ended]
          rcases List.mem_cons.mp member with rfl | member
          · cases ended.symm.trans failed
          · rw [appended member]

end Run

/-- Whether what is done with given replies is the transactions of runs: they are all that passes
between the database and the connection, and one that fails fails the whole. -/
structure Transacts {α : Type}
    (dialect : Dialect)
    (runs : List Run)
    (replies : List Reply)
    (done : Traced Happening α) : Prop where
  traffic_eq : done.trace.filter Happening.isTraffic =
    (Run.transactions runs replies).flatMap (Transaction.happenings dialect)
  fails : ∀ transaction ∈ Run.transactions runs replies, ∀ error,
    transaction.outcome = .error error → done.result = .error error

namespace Transacts

variable {α β : Type} {dialect : Dialect} {runs others : List Run} {replies : List Reply}
  {done : Traced Happening α}

/-- Changing the value that is returned changes no transaction. -/
theorem map
    (transacts : Transacts dialect runs replies done)
    (change : α → β) :
    Transacts dialect runs replies ⟨done.trace, done.result.map change⟩ where
  traffic_eq := transacts.traffic_eq
  fails transaction member error failed :=
    map_eq_error.mpr (transacts.fails transaction member error failed)

/-- When the whole succeeds, or fails otherwise than a transaction can, every transaction is
committed. -/
theorem committed
    (transacts : Transacts dialect runs replies done)
    (otherwise : ∀ error, done.result = .error error → error.isExecutionFault = false) :
    ∀ transaction ∈ Run.transactions runs replies, transaction.outcome = .ok () := by
  intro transaction member
  cases outcome : transaction.outcome with
  | ok => rfl
  | error error =>
      have fault := transaction.failsWith_outcome error outcome
      rw [otherwise error (transacts.fails transaction member error outcome)] at fault
      cases fault

variable {first : Exchange α} {next : α → Exchange β}

/-- Where the first part fails, its transactions are all there are. -/
theorem bind_error
    {error : Error}
    (transacts : Transacts dialect runs replies (first replies).1)
    (next : α → Exchange β)
    (failed : first.result replies = .error error) :
    Transacts dialect runs replies ((first >>= next) replies).1 := by
  rw [Exchange.bind_apply_error next failed]
  refine ⟨transacts.traffic_eq, fun transaction member failure rolledBack => ?_⟩
  cases failed.symm.trans (transacts.fails transaction member failure rolledBack)
  rfl

/-- Behind a part that succeeds come the transactions of the next one. -/
theorem bind_ok
    {value : α}
    (transacts : Transacts dialect runs replies (first replies).1)
    (succeeded : first.result replies = .ok value)
    (transactsNext : Transacts dialect others (replies.drop runs.length)
      (next value (first replies).2).1) :
    Transacts dialect (runs ++ others) replies ((first >>= next) replies).1 := by
  have committed : ∀ transaction ∈ Run.transactions runs replies, transaction.outcome = .ok () :=
    transacts.committed fun error failed => nomatch succeeded.symm.trans failed
  have appended := Run.transactions_append_of_ok committed others
  rw [Exchange.bind_apply_ok next succeeded]
  constructor
  · rw [List.filter_append, transacts.traffic_eq, transactsNext.traffic_eq, appended,
      List.flatMap_append]
  · rw [appended]
    intro transaction member error failed
    rcases List.mem_append.mp member with member | member
    · cases failed.symm.trans (committed transaction member)
    · exact transactsNext.fails transaction member error failed

end Transacts

namespace Exchange

variable {α β : Type} {dialect : Dialect} {runs others : List Run} {first : Exchange α}
  {next : α → Exchange β}

/-- Whether an exchange performs runs: what it does with any replies is their transactions, and when
it succeeds it has taken as many replies as there are runs. -/
def Performs (dialect : Dialect) (runs : List Run) (exchange : Exchange α) : Prop :=
  ∀ replies, Transacts dialect runs replies (exchange replies).1 ∧
    ∀ value, exchange.result replies = .ok value → (exchange replies).2 = replies.drop runs.length

/-- A quiet exchange begins and ends no transaction. -/
theorem Quiet.not_isTransactional (quiet : first.Quiet) (replies : List Reply) :
    ∀ happening ∈ (first replies).1.trace, happening.isTransactional = false :=
  fun happening member =>
    Happening.not_isTransactional_of_not_isTraffic ((quiet replies).2 happening member)

/-- A quiet exchange performs nothing. -/
theorem Quiet.performs (quiet : first.Quiet) : first.Performs dialect [] := by
  intro replies
  obtain ⟨untaken, silent⟩ := quiet replies
  refine ⟨⟨?_, nofun⟩, fun _ _ => untaken⟩
  refine List.filter_eq_nil_iff.mpr fun happening member => ?_
  rw [silent happening member]
  exact Bool.false_ne_true

/-- Runs are performed one after the other, unless a transaction of the first part is the last
one. -/
theorem Performs.bind
    (performs : first.Performs dialect runs)
    (performsNext : ∀ value, (next value).Performs dialect others)
    (stops : ∀ replies error, first.result replies = .error error →
      Run.transactions (runs ++ others) replies = Run.transactions runs replies) :
    (first >>= next).Performs dialect (runs ++ others) := by
  intro replies
  obtain ⟨transacts, rest⟩ := performs replies
  cases outcome : first.result replies with
  | error error =>
      -- The runs of the second part do not come to a transaction any more.
      have same := stops replies error outcome
      have transactsFirst := transacts.bind_error next outcome
      refine ⟨⟨?_, ?_⟩, ?_⟩
      · rw [same]
        exact transactsFirst.traffic_eq
      · rw [same]
        exact transactsFirst.fails
      · rw [result_bind_error next outcome]
        exact nofun
  | ok value =>
      obtain ⟨transactsNext, restNext⟩ := performsNext value (first replies).2
      have taken := rest value outcome
      refine ⟨transacts.bind_ok outcome (taken ▸ transactsNext), fun other succeeds => ?_⟩
      rw [result_bind_ok next outcome] at succeeds
      rw [bind_apply_ok next outcome, restNext other succeeds, taken, List.drop_drop,
        List.length_append]

/-- What leaves the connection alone at the end performs nothing more. -/
theorem Performs.finish
    (performs : first.Performs dialect runs)
    (quietNext : ∀ value, (next value).Quiet) :
    (first >>= next).Performs dialect runs := by
  have performsBoth : (first >>= next).Performs dialect (runs ++ []) :=
    performs.bind (fun value => (quietNext value).performs) fun replies _ _ => by
      rw [List.append_nil]
  rw [List.append_nil] at performsBoth
  exact performsBoth

/-- What leaves the connection alone before comes to a result, and nothing is performed if that is
refused. -/
theorem Performs.prepare
    {computed : Except Error α}
    {runsNext : α → List Run}
    (quiet : first.Quiet)
    (comes : ∀ replies, first.result replies = computed)
    (performsNext : ∀ value, (next value).Performs dialect (runsNext value)) :
    (first >>= next).Performs dialect (Run.after computed runsNext) := by
  intro replies
  have transacts : Transacts dialect [] replies (first replies).1 := (quiet.performs replies).1
  have untaken := (quiet replies).1
  have outcome := comes replies
  cases computed with
  | error error =>
      refine ⟨transacts.bind_error next outcome, ?_⟩
      rw [result_bind_error next outcome]
      exact nofun
  | ok value =>
      obtain ⟨transactsNext, restNext⟩ := performsNext value replies
      refine ⟨transacts.bind_ok outcome ?_, ?_⟩
      · rw [untaken]
        exact transactsNext
      · rw [result_bind_ok next outcome, bind_apply_ok next outcome, untaken]
        exact restNext

/-- What goes on with a result performs what that calls for. -/
theorem Performs.compute
    {computed : Except Error α}
    {runsNext : α → List Run}
    (performsNext : ∀ value, (next value).Performs dialect (runsNext value)) :
    (ofExcept computed >>= next).Performs dialect (Run.after computed runsNext) :=
  .prepare (quiet_ofExcept computed) (fun _ => rfl) performsNext

/-- What goes on with a statement that is made performs what that calls for. -/
theorem Performs.compile
    {made : Traced Fragment Statement}
    {next : Statement → Exchange β}
    {runsNext : Statement → List Run}
    (performsNext : ∀ statement, (next statement).Performs dialect (runsNext statement)) :
    (Exchange.compile dialect made >>= next).Performs dialect (Run.after made.result runsNext) :=
  .prepare (quiet_compile dialect made) (fun _ => rfl) performsNext

/-- Whether an exchange performs runs and fails only when the transaction of one of them does. -/
structure Executes (dialect : Dialect) (runs : List Run) (exchange : Exchange α) : Prop where
  performs : exchange.Performs dialect runs
  failed : ∀ replies error, exchange.result replies = .error error →
    ∃ transaction ∈ Run.transactions runs replies, transaction.outcome = .error error

namespace Executes

/-- A report executes nothing. -/
theorem log (entry : LogEntry) : (Exchange.log entry).Executes dialect [] :=
  ⟨(quiet_log entry).performs, fun _ _ failed => nomatch failed⟩

/-- Behind runs that are executed, others are performed. -/
theorem performs_bind
    (executes : first.Executes dialect runs)
    (performsNext : ∀ value, (next value).Performs dialect others) :
    (first >>= next).Performs dialect (runs ++ others) := by
  refine executes.performs.bind performsNext fun replies error failed => ?_
  obtain ⟨transaction, member, rolledBack⟩ := executes.failed replies error failed
  exact Run.transactions_append_of_error member rolledBack others

/-- Runs are executed one after the other. -/
theorem bind
    (executes : first.Executes dialect runs)
    (executesNext : ∀ value, (next value).Executes dialect others) :
    (first >>= next).Executes dialect (runs ++ others) where
  performs := executes.performs_bind fun value => (executesNext value).performs
  failed replies error failed := by
    cases outcome : first.result replies with
    | error failure =>
        rw [result_bind_error next outcome] at failed
        obtain rfl := Except.error.inj failed
        obtain ⟨transaction, member, rolledBack⟩ := executes.failed replies failure outcome
        rw [Run.transactions_append_of_error member rolledBack]
        exact ⟨transaction, member, rolledBack⟩
    | ok value =>
        obtain ⟨transacts, rest⟩ := executes.performs replies
        have committed := transacts.committed fun error failed => nomatch outcome.symm.trans failed
        rw [result_bind_ok next outcome, rest value outcome] at failed
        obtain ⟨transaction, member, rolledBack⟩ := (executesNext value).failed _ error failed
        rw [Run.transactions_append_of_ok committed]
        exact ⟨transaction, List.mem_append_right _ member, rolledBack⟩

end Executes

/-- An exchange within a transaction, with what it leaves. -/
theorem within_engine_apply (body : Exchange α) (replies : List Reply) :
    within .engine body replies =
      (⟨.begun :: (body replies).1.trace ++ [transactionEnd (body replies).1.result],
        (body replies).1.result⟩, (body replies).2) := rfl

/-- How a transaction ends does not depend on the value. -/
theorem transactionEnd_map (result : Except Error α) (change : α → β) :
    transactionEnd (result.map change) = transactionEnd result := by
  cases result <;> rfl

end Exchange

namespace Database

variable {database : Database} {statement : Statement} {replies : List Reply} {α : Type}
  {take : Cursor → Except Error α}

/-- A statement whose arguments are decoded is sent, and something is taken of the reply. -/
theorem sending_apply
    {parameters : List Value}
    (decoded : statement.bound = .ok parameters) :
    (do let parameters ← Exchange.ofExcept statement.bound
        let cursor ← Exchange.send (statement.text database.dialect) parameters
        Exchange.ofExcept (take cursor) : Exchange α) replies =
      (⟨[.executed (statement.text database.dialect) parameters],
        (replies.headD .ordinary).cursor >>= take⟩, replies.tail) := by
  rw [decoded]
  change (Exchange.send _ parameters >>= fun cursor => Exchange.ofExcept (take cursor)) replies = _
  cases outcome : (replies.headD .ordinary).cursor with
  | ok cursor =>
      rw [Exchange.bind_apply_ok _ (show (Exchange.send _ parameters replies).1.result = _ from
        outcome)]
      rfl
  | error error =>
      rw [Exchange.bind_apply_error _ (show (Exchange.send _ parameters replies).1.result = _ from
        outcome)]
      rfl

/-- On an engine, arguments that are not decoded roll back a transaction without a statement. -/
theorem send_apply_of_undecoded
    {error : Error}
    (engine : database.binding = .engine)
    (undecoded : statement.bound = .error error) :
    database.send statement take replies = (⟨[.begun, .rolledBack], .error error⟩, replies) := by
  rw [send, engine, undecoded]
  rfl

/-- On an engine, a statement whose arguments are decoded is sent, and what is taken of the reply
decides how the transaction ends. -/
theorem send_apply_of_decoded
    {parameters : List Value}
    (engine : database.binding = .engine)
    (decoded : statement.bound = .ok parameters) :
    database.send statement take replies =
      (⟨[.begun, .executed (statement.text database.dialect) parameters,
          Exchange.transactionEnd ((replies.headD .ordinary).cursor >>= take)],
        (replies.headD .ordinary).cursor >>= take⟩, replies.tail) := by
  rw [send, engine, Exchange.within_engine_apply, sending_apply decoded]
  rfl

/-- Sending a statement that succeeds takes one reply. -/
theorem rest_send_of_ok
    {value : α}
    (succeeds : (database.send statement take).result replies = .ok value) :
    (database.send statement take replies).2 = replies.drop 1 := by
  cases decoded : statement.bound with
  | error error =>
      rw [Exchange.result, send, Exchange.result_within, decoded] at succeeds
      cases succeeds
  | ok parameters => rw [send, Exchange.rest_within, sending_apply decoded, List.drop_one]

/-- On an engine, sending a statement is one transaction, whose outcome is that of the exchange. -/
theorem send_eq_transaction
    {run : Run}
    (engine : database.binding = .engine)
    (reads : ∀ cursor, run.read cursor = (take cursor).map fun _ => ())
    (replies : List Reply) :
    (database.send run.statement take replies).1.trace =
        Transaction.happenings database.dialect ⟨run, replies.headD .ordinary⟩ ∧
      Transaction.outcome ⟨run, replies.headD .ordinary⟩ =
        ((database.send run.statement take).result replies).map fun _ => () := by
  cases decoded : run.statement.bound with
  | error error =>
      rw [Exchange.result, send_apply_of_undecoded engine decoded,
        Transaction.happenings_of_undecoded decoded, Transaction.outcome_of_undecoded decoded]
      exact ⟨rfl, rfl⟩
  | ok parameters =>
      have outcome : Transaction.outcome ⟨run, replies.headD .ordinary⟩ =
          ((replies.headD .ordinary).cursor >>= take).map fun _ => () := by
        rw [Transaction.outcome, decoded, map_bind]
        simp only [← reads]
        rfl
      rw [Exchange.result, send_apply_of_decoded engine decoded, Transaction.happenings,
        Transaction.executed, decoded, outcome, Exchange.transactionEnd_map]
      exact ⟨rfl, rfl⟩

/-- On an engine a statement is sent in a transaction, which takes of the reply what the database
takes. -/
theorem executes_send
    (run : Run)
    (engine : database.binding = .engine)
    (reads : ∀ cursor, run.read cursor = (take cursor).map fun _ => ()) :
    (database.send run.statement take).Executes database.dialect [run] := by
  refine ⟨fun replies => ⟨⟨?_, ?_⟩, fun value succeeds => ?_⟩, fun replies error failed => ?_⟩
  · rw [Run.transactions_singleton, List.flatMap_singleton,
      (send_eq_transaction engine reads replies).1, Transaction.filter_happenings]
  · rw [Run.transactions_singleton]
    intro transaction member error failed
    rw [List.mem_singleton.mp member, (send_eq_transaction engine reads replies).2] at failed
    exact map_eq_error.mp failed
  · exact rest_send_of_ok succeeds
  · rw [Run.transactions_singleton]
    refine ⟨_, List.mem_singleton_self _, ?_⟩
    rw [(send_eq_transaction engine reads replies).2]
    exact map_eq_error.mpr failed

/-- On a connection of its own a statement is sent without a transaction. -/
theorem send_not_isTransactional
    (connection : database.binding = .connection)
    (replies : List Reply) :
    ∀ happening ∈ (database.send statement take replies).1.trace,
      happening.isTransactional = false := by
  rw [send, connection, Exchange.within_connection]
  cases decoded : statement.bound with
  | error error => exact nofun
  | ok parameters =>
      rw [← decoded, sending_apply decoded]
      exact List.forall_mem_singleton.mpr rfl

theorem execute_not_isTransactional
    (connection : database.binding = .connection)
    (statement : Statement)
    (replies : List Reply) :
    ∀ happening ∈ (database.execute statement replies).1.trace,
      happening.isTransactional = false :=
  List.forall_mem_cons.mpr ⟨rfl, send_not_isTransactional connection replies⟩

theorem fetch_not_isTransactional
    (connection : database.binding = .connection)
    (statement : Statement)
    (replies : List Reply) :
    ∀ happening ∈ (database.fetch statement replies).1.trace, happening.isTransactional = false :=
  List.forall_mem_cons.mpr ⟨rfl, send_not_isTransactional connection replies⟩

/-- On an engine a command is executed in a transaction. -/
theorem executes_execute (engine : database.binding = .engine) (statement : Statement) :
    (database.execute statement).Executes database.dialect [.command statement] :=
  (Exchange.Executes.log _).bind fun _ =>
    executes_send (.command statement) engine fun _ => rfl

/-- On an engine a query is executed in a transaction, in which its rows are read. -/
theorem executes_fetch (engine : database.binding = .engine) (statement : Statement) :
    (database.fetch statement).Executes database.dialect [.query statement] :=
  (Exchange.Executes.log _).bind fun _ =>
    executes_send (.query statement) engine fun _ => rfl

end Database

/-- On a connection of its own, what is composed of quiet parts and of running statements begins and
ends no transaction. -/
theorem Exchange.Composed.not_isTransactional
    {database : Database}
    {time : RefusalTime}
    {α : Type}
    {exchange : Exchange α}
    (composed : Composed database time exchange)
    (connection : database.binding = .connection)
    (replies : List Reply) :
    ∀ happening ∈ (exchange replies).1.trace, happening.isTransactional = false := by
  induction composed generalizing replies with
  | settled quiet => exact quiet.not_isTransactional replies
  | quiet quiet => exact quiet.not_isTransactional replies
  | executeText text => exact Database.execute_not_isTransactional connection _ replies
  | execute statement => exact Database.execute_not_isTransactional connection statement replies
  | fetch statement => exact Database.fetch_not_isTransactional connection statement replies
  | prepare quiet _ ofNext =>
      exact forall_trace_bind (quiet.not_isTransactional replies) fun value _ => ofNext value _
  | finish _ _ ofFirst ofNext =>
      exact forall_trace_bind (ofFirst replies) fun value ok => ofNext replies value ok _
  | follow _ _ ofFirst ofNext =>
      exact forall_trace_bind (ofFirst replies) fun value _ => ofNext value _
  | early _ silent => exact silent replies
  | late _ silent => exact silent replies

end BoundSql
