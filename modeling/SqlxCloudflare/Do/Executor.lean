import SqlxCloudflare.Core.Query
import SqlxCloudflare.Do.Js

/-!
# SqlxCloudflare.Do.Executor

The executor methods of `impl_executor!`, written once for the two executors,
a connection and an open transaction: each only needs its `sql` handle.

`sql.exec` is synchronous, so each future finishes on its first poll and holds
nothing across an `await`: a method is a function on the database as it is
when the future is polled.
-/

namespace SqlxCloudflare

open Fallible

namespace Executor

variable {DB : Type} [JsDebug]

/-- Reports `rows_affected` and `last_insert_rowid` but no rows. -/
def execute (sql : SqlStorage DB) (query : Query) : EStateM (Stop Error) DB QueryResult := do
  let (text, arguments) ← lift (returns (take query))
  run sql text (argumentsOf arguments)

/-- A stream of the one item `execute` returns. -/
def executeMany (sql : SqlStorage DB) (query : Query) :
    EStateM (Stop Error) DB (List QueryResult) := do
  let result ← execute sql query
  return [result]

/-- Yields the rows only. -/
def fetchMany (sql : SqlStorage DB) (query : Query) : EStateM Error DB (List Row) := do
  let (text, arguments) ← lift (take query)
  let (rows, _) ← fetch sql text (argumentsOf arguments) none
  return rows

def fetchOptional (sql : SqlStorage DB) (query : Query) : EStateM Error DB (Option Row) := do
  let (text, arguments) ← lift (take query)
  let (rows, _) ← fetch sql text (argumentsOf arguments) (some 1)
  return rows.head?

/-! ## one method of the four -/

/-- The executor's methods. -/
inductive Method where
  | execute
  | executeMany
  | fetchMany
  | fetchOptional
deriving DecidableEq, Repr

/-- What a method answers. -/
inductive Answer where
  | executed (result : QueryResult)
  | executedMany (results : List QueryResult)
  | rows (rows : List Row)
  | row (row : Option Row)

/-- The call of a method, once its future is polled. -/
def call (sql : SqlStorage DB) (method : Method) (query : Query) :
    EStateM (Stop Error) DB Answer :=
  match method with
  | .execute => .executed <$> execute sql query
  | .executeMany => .executedMany <$> executeMany sql query
  | .fetchMany => .rows <$> returning (fetchMany sql query)
  | .fetchOptional => .row <$> returning (fetchOptional sql query)

end Executor

end SqlxCloudflare
