import SqlxCloudflare.Do.Batch
import SqlxCloudflare.Do.Requests

/-!
# SqlxCloudflare.Do.Connection

Everything sqlx asks of a connection: the executor's methods, the batches and
transactions, and what only has to answer -- the `TransactionManager`, which
refuses every transaction that is not a callback, `Connection`'s own methods,
and statements, which are their SQL and nothing else.

`perform` is one operation of a program that has the connection to itself, and
`session` a program.
-/

namespace SqlxCloudflare

open Executor Fallible

/-! ## what cannot be done -/

/-- The error for something sqlx asks of a driver that Durable Object storage
cannot do. -/
def unsupported (message : String) : Error := .protocol s!"Durable Object storage: {message}"

def noTransactions : String :=
  "Durable Object storage cannot begin a transaction here; run the statements inside " ++
    "`DoConnection::transaction`, which takes them as a callback"

variable {DB : Type}

namespace DoTransactionManager

def begin : EStateM Error DB Unit := throw (unsupported noTransactions)

-- Unreachable in practice: `begin` never succeeds.
def commit : EStateM Error DB Unit := throw (unsupported noTransactions)

def rollback : EStateM Error DB Unit := throw (unsupported noTransactions)

/-- Called when a transaction is dropped, also one that failed to begin: it must
be a quiet no-op. -/
def startRollback : EStateM Error DB Unit := pure ()

end DoTransactionManager

/-- A "prepared" statement: the SQL and nothing else. -/
structure DoStatement where
  sql : String
deriving DecidableEq, Repr

namespace Executor

def prepareWith (sql : String) (_parameters : List TypeInfo) : EStateM Error DB DoStatement :=
  pure ⟨sql⟩

/-- Always fails: `sql.exec` cannot describe a statement without running it. -/
def describe (_sql : String) : EStateM Error DB Unit :=
  throw (unsupported "statements cannot be described")

end Executor

/-! ## a connection's operations -/

/-- What only has to answer. -/
inductive Formality where
  | close | ping | flush
  | begin | commit | rollback
  | describe (sql : String)
  | prepareWith (sql : String) (parameters : List TypeInfo)

namespace Formality

/-- `Connection::begin`: a transaction that failed to begin is dropped, and
rolled back as it is. -/
def connectionBegin : EStateM Error DB Unit := fun db =>
  match DoTransactionManager.begin db with
  | .ok () db => .ok () db
  | .error error db =>
    match DoTransactionManager.startRollback db with
    | .ok () db | .error _ db => .error error db

def answer : Formality → EStateM Error DB (Option DoStatement)
  | .close | .ping | .flush => pure none
  | .begin => do
    connectionBegin
    return none
  | .commit => do
    DoTransactionManager.commit
    return none
  | .rollback => do
    DoTransactionManager.rollback
    return none
  | .describe sql => do
    Executor.describe sql
    return none
  | .prepareWith sql parameters => some <$> Executor.prepareWith sql parameters

/-- None of them touches the database. -/
theorem stateOf_answer (formality : Formality) (db : DB) : stateOf (formality.answer db) = db := by
  cases formality <;> rfl

end Formality

/-- An operation on a connection. -/
inductive Operation (T E : Type) where
  | call (method : Method) (query : Query)
  | executeBatch (queries : List Query)
  | fetchBatch (queries : List Query)
  | transaction (callback : Callback T E)
  | formality (formality : Formality)

/-- What an operation answers. -/
inductive Reply (T E : Type) where
  | answer (result : Except Error Answer)
  | results (results : Except Error (List QueryResult))
  | items (items : List (Except Error (BatchResult Row)))
  | value (result : Except E T)
  | statement (result : Except Error (Option DoStatement))

section

variable {T E : Type} [FromError E] [JsDebug]

namespace DoConnection

/-- One operation, awaited: what it replies, unless it panics. -/
def perform (connection : DoConnection DB) : Operation T E → EStateM Panic DB (Reply T E)
  | .call method query => .answer <$> attempt (call connection.sql method query)
  | .executeBatch queries => .results <$> attempt (connection.executeBatch queries)
  | .fetchBatch queries => .items <$> connection.fetchBatch queries
  | .transaction callback => .value <$> attempt (connection.transaction callback.run)
  | .formality formality => .statement <$> attempt (returning formality.answer)

/-- A program's operations, one after another. -/
def session (connection : DoConnection DB) (ops : List (Operation T E)) :
    EStateM Panic DB (List (Reply T E)) := ops.mapM connection.perform

end DoConnection

end

end SqlxCloudflare
