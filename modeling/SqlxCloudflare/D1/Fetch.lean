import SqlxCloudflare.Core.Limited
import SqlxCloudflare.D1.Js

/-!
# SqlxCloudflare.D1.Fetch

One statement run on its own: `js::fetch` and `js::run`, and the executor's
methods over them.

What a prepared statement does is a parameter, `D1Statements`.  `raw()` is
called with `{ columnNames: true }`, which a fresh object always takes, and
answers with an array of arrays of which the first holds the column names.
-/

namespace SqlxCloudflare

open Fallible

/-! ## a statement's methods -/

/-- What a call that returns a promise comes to, once it is awaited. -/
inductive Promised (α : Type) where
  | throws (error : JsValue)
  | rejects (error : JsValue)
  | resolves (value : α)

/-- The methods of the prepared statements `P`. -/
structure D1Statements (DB P : Type) where
  /-- `raw({ columnNames: true })`. -/
  raw : P → DB → Promised JsValue × DB
  run : P → DB → Promised D1Result × DB

/-- Statements that all answer `result`. -/
def D1Statements.answering (result : JsValue) : D1Statements Unit Unit where
  raw _ s := (.resolves result, s)
  run _ s := (.throws .undefined, s)

namespace D1

/-! ## `fetch` -/

section

variable [JsDebug]

/-- One row, which must be an array, converted. -/
def readRow (row : JsValue) : Except Error (List Value) := do
  let row ← array row.asArray
  row.mapM fromJs

/-- The array `raw()` resolved with; anything else is an error. -/
def rawArray (result : JsValue) : Except Error (List JsValue) :=
  match result.asArray with
  | some result => .ok result
  | none => .error (.protocol "D1 `raw()` did not return an array")

/-- The rows `raw()` resolved with, at most `limit` of them. -/
def readRaw (limit : Option ℕ) (result : JsValue) : Except Error (List Row) := do
  let result ← rawArray result
  match result with
  -- No first row means no column names either; there is nothing to return.
  | [] => return []
  | names :: result =>
    let names ← array names.asArray
    let names ← columnNames names
    let rows ← (limited limit result).mapM readRow
    Row.fromResult names rows

variable {DB P α : Type}

/-- A call that returns a promise, awaited. -/
def await (call : DB → Promised α × DB) : EStateM Error DB α := fun s =>
  match call s with
  | (.throws error, s) | (.rejects error, s) => .error (databaseError error) s
  | (.resolves value, s) => .ok value s

/-- Runs `statement` and returns its rows, at most `limit` of them. -/
def fetch (statements : D1Statements DB P) (statement : P) (limit : Option ℕ) :
    EStateM Error DB (List Row) := do
  let result ← await (statements.raw statement)
  lift (readRaw limit result)

/-- Runs `statement` for its effect, and returns what D1 says it did. -/
def run (statements : D1Statements DB P) (statement : P) : EStateM Error DB QueryResult := do
  let result ← await (statements.run statement)
  lift (queryResult result)

theorem readsRows_readRow : ReadsRows readRow := by
  intro row values
  cases row with
  | array cells =>
      rw [readRow, JsValue.asArray, array, ok_bind]
      simp
  | _ => simp [readRow, JsValue.asArray, array, error_bind]

/-- The rows after the one with the column names. -/
theorem readRaw_cons (limit : Option ℕ) (names : JsValue) (rows : List JsValue) :
    readRaw limit (.array (names :: rows)) =
      (array names.asArray >>= columnNames) >>= fun names =>
        readLimited readRow limit names rows := by
  change (array names.asArray >>= fun names => columnNames names >>= fun names =>
    readLimited readRow limit names rows) = _
  cases array names.asArray with
  | error error => rfl
  | ok names => rfl

theorem await_of_resolves {call : DB → Promised α × DB} {value : α} {s s' : DB}
    (h : call s = (.resolves value, s')) : await call s = .ok value s' := by
  rw [await, h]

theorem fetch_of_resolves {statements : D1Statements DB P} {statement : P} {result : JsValue}
    {s s' : DB} (h : statements.raw statement s = (.resolves result, s')) (limit : Option ℕ) :
    fetch statements statement limit s = lift (readRaw limit result) s' := by
  rw [fetch, run_bind_of_ok (await_of_resolves h)]

theorem run_of_resolves {statements : D1Statements DB P} {statement : P} {result : D1Result}
    {s s' : DB} (h : statements.run statement s = (.resolves result, s')) :
    run statements statement s = lift (queryResult result) s' := by
  rw [run, run_bind_of_ok (await_of_resolves h)]

end

/-! ## the executor -/

namespace Executor

variable {DB P : Type} [JsDebug]

/-- `query` prepared, with its arguments bound. -/
def prepare (db : D1Database DB P) (query : Query) : Except Error P := do
  let arguments ← query.arguments.mapError .encode
  D1.prepare db query.sql (argumentsOf arguments)

/-- Reports `rows_affected` and `last_insert_rowid` but no rows. -/
def execute (db : D1Database DB P) (statements : D1Statements DB P) (query : Query) :
    EStateM Error DB QueryResult := do
  let statement ← lift (prepare db query)
  run statements statement

/-- Yields the rows only. -/
def fetchMany (db : D1Database DB P) (statements : D1Statements DB P) (query : Query) :
    EStateM Error DB (List Row) := do
  let statement ← lift (prepare db query)
  fetch statements statement none

def fetchOptional (db : D1Database DB P) (statements : D1Statements DB P) (query : Query) :
    EStateM Error DB (Option Row) := do
  let statement ← lift (prepare db query)
  let rows ← fetch statements statement (some 1)
  return rows.head?

end Executor

end D1

end SqlxCloudflare
