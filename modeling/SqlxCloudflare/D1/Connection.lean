import SqlxCloudflare.D1.Batch
import SqlxCloudflare.D1.Fetch
import SqlxCloudflare.Do.Connection
import SqlxCloudflare.Server

/-!
# SqlxCloudflare.D1.Connection

Everything sqlx asks of a connection, of the D1 driver: the executor's methods,
the batches, and what only has to answer.  There is no transaction here that is
not a batch.

`perform` is one operation, awaited before the next.  `service` is the same
operation in the two parts its future has: what its first poll does, which is
all there is to a query that cannot be prepared, and the request it sends
(`perform_eq_alone`).
-/

namespace SqlxCloudflare

open Executor Fallible

/-! ## what cannot be done -/

namespace D1

/-- The error for something sqlx asks of a driver that D1 cannot do. -/
def unsupported (message : String) : Error := .protocol s!"D1: {message}"

def noTransactions : String :=
  "D1 has no interactive transactions; send the statements together with " ++
    "`D1Connection::execute_batch`, which D1 runs atomically"

end D1

/-- A "prepared" D1 statement: the SQL and nothing else. -/
structure D1Statement where
  sql : String
deriving DecidableEq, Repr

variable {DB P : Type}

namespace D1TransactionManager

def begin : Except Error Unit := .error (D1.unsupported D1.noTransactions)

-- Unreachable in practice: `begin` never succeeds.
def commit : Except Error Unit := .error (D1.unsupported D1.noTransactions)

def rollback : Except Error Unit := .error (D1.unsupported D1.noTransactions)

end D1TransactionManager

namespace D1

namespace Executor

def prepareWith (sql : String) (_parameters : List TypeInfo) : Except Error D1Statement := .ok ⟨sql⟩

/-- Always fails: D1 cannot describe a statement without running it. -/
def describe (_sql : String) : Except Error Unit :=
  .error (unsupported "statements cannot be described")

section

variable [JsDebug]

/-- A stream of the one result. -/
def executeMany (db : D1Database DB P) (statements : D1Statements DB P) (query : Query) :
    EStateM Error DB (List QueryResult) := do
  let result ← execute db statements query
  return [result]

/-- The call of a method, awaited. -/
def call (db : D1Database DB P) (statements : D1Statements DB P) (method : Method)
    (query : Query) : EStateM Error DB Answer :=
  match method with
  | .execute => .executed <$> execute db statements query
  | .executeMany => .executedMany <$> executeMany db statements query
  | .fetchMany => .rows <$> fetchMany db statements query
  | .fetchOptional => .row <$> fetchOptional db statements query

/-- What is left of a call once its statement is prepared. -/
def callPrepared (statements : D1Statements DB P) (method : Method) (statement : P) :
    EStateM Error DB Answer :=
  match method with
  | .execute => .executed <$> run statements statement
  | .executeMany => (fun result => .executedMany [result]) <$> run statements statement
  | .fetchMany => .rows <$> fetch statements statement none
  | .fetchOptional => (fun rows => .row rows.head?) <$> fetch statements statement (some 1)

theorem call_eq (db : D1Database DB P) (statements : D1Statements DB P) (method : Method)
    (query : Query) : call db statements method query =
      lift (prepare db query) >>= callPrepared statements method := by
  cases method <;>
    simp only [call, execute, executeMany, fetchMany, fetchOptional, map_bind, bind_pure_comp,
      Functor.map_map] <;> rfl

end

end Executor

/-! ## a connection's operations -/

/-- What only has to answer, without the database. -/
def answer : Formality → Except Error (Option D1Statement)
  | .close | .ping | .flush => return none
  -- what it drops is rolled back by a no-op
  | .begin => do
    D1TransactionManager.begin
    return none
  | .commit => do
    D1TransactionManager.commit
    return none
  | .rollback => do
    D1TransactionManager.rollback
    return none
  | .describe sql => do
    Executor.describe sql
    return none
  | .prepareWith sql parameters => some <$> Executor.prepareWith sql parameters

/-- An operation on a connection. -/
inductive Operation where
  | call (method : Method) (query : Query)
  | executeBatch (queries : List Query)
  | fetchBatch (queries : List Query)
  | formality (formality : Formality)

/-- What an operation answers. -/
inductive Reply where
  | answer (result : Except Error Answer)
  | results (results : Except Error (List QueryResult))
  | items (items : List (Except Error (BatchResult Row)))
  | statement (result : Except Error (Option D1Statement))

end D1

namespace D1Connection

section

variable [JsDebug]

/-- One operation, awaited. -/
def perform (connection : D1Connection DB P) (statements : D1Statements DB P)
    (op : D1.Operation) (s : DB) : D1.Reply × DB :=
  match op with
  | .call method query =>
    let result := D1.Executor.call connection.db statements method query s
    (.answer (outcome result), stateOf result)
  | .executeBatch queries =>
    let result := connection.executeBatch queries s
    (.results (outcome result), stateOf result)
  | .fetchBatch queries =>
    let (items, s) := connection.fetchBatch queries s
    (.items items, s)
  | .formality formality => (.statement (D1.answer formality), s)

/-! ## the two parts of an operation -/

/-- A batch: its statements are prepared first, and sent together. -/
def batchService (connection : D1Connection DB P) (queries : List Query)
    (reply : Except Error (List (BatchResult Row)) → D1.Reply) : Server.Poll D1.Reply DB :=
  if queries.isEmpty then .ready (reply (.ok []))
  else
    match connection.prepared queries with
    | .error error => .ready (reply (.error error))
    | .ok statements => .sends fun s =>
      let result := D1.batch connection.db statements s
      (reply (outcome result), stateOf result)

/-- The entries of a batch, as a stream. -/
def itemsOf : Except Error (List (BatchResult Row)) → D1.Reply
  | .ok results => .items (results.map .ok)
  | .error error => .items [.error error]

/-- The result of each statement of a batch. -/
def resultsOf (results : Except Error (List (BatchResult Row))) : D1.Reply :=
  .results (results.map (List.map fun result => result.intoParts.2))

/-- What the first poll of an operation's future does. -/
def service (connection : D1Connection DB P) (statements : D1Statements DB P) :
    D1.Operation → Server.Poll D1.Reply DB
  | .call method query =>
    match D1.Executor.prepare connection.db query with
    | .error error => .ready (.answer (.error error))
    | .ok statement => .sends fun s =>
      let result := D1.Executor.callPrepared statements method statement s
      (.answer (outcome result), stateOf result)
  | .executeBatch queries => connection.batchService queries resultsOf
  | .fetchBatch queries => connection.batchService queries itemsOf
  | .formality formality => .ready (.statement (D1.answer formality))

/-- A batch is its two parts. -/
theorem alone_batchService (connection : D1Connection DB P) (queries : List Query)
    (reply : Except Error (List (BatchResult Row)) → D1.Reply) (s : DB) :
    (connection.batchService queries reply).alone s =
      (reply (outcome (connection.runBatch queries s)),
        stateOf (connection.runBatch queries s)) := by
  cases queries with
  | nil => rfl
  | cons query queries =>
      rw [batchService]
      cases hprepared : connection.prepared (query :: queries) with
      | error error =>
          rw [runBatch_of_prepared_error hprepared]
          rfl
      | ok statements =>
          rw [runBatch_of_prepared hprepared (List.cons_ne_nil _ _)]
          rfl

/-- **An operation is its two parts**: awaited, it is its first poll and then,
if that sent a request, what serving it comes to. -/
theorem perform_eq_alone (connection : D1Connection DB P) (statements : D1Statements DB P) :
    connection.perform statements = Server.alone (connection.service statements) := by
  funext op s
  cases op with
  | call method query =>
      simp only [perform, Server.alone, service, D1.Executor.call_eq]
      cases hprepare : D1.Executor.prepare connection.db query with
      | error error =>
          rw [run_bind_of_error (run_lift_error _ _)]
          rfl
      | ok statement =>
          rw [run_bind_of_ok (run_lift_ok _ _)]
          rfl
  | executeBatch queries =>
      refine Eq.trans ?_ (alone_batchService connection queries resultsOf s).symm
      simp only [perform, executeBatch, outcome_map, stateOf_map]
      rfl
  | fetchBatch queries =>
      refine Eq.trans ?_ (alone_batchService connection queries itemsOf s).symm
      rw [perform, fetchBatch]
      cases connection.runBatch queries s <;> rfl
  | formality formality => rfl

end

end D1Connection

end SqlxCloudflare
