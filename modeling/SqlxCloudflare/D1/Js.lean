import SqlxCloudflare.Core.Query
import SqlxCloudflare.Core.Result

/-!
# SqlxCloudflare.D1.Js

The D1 driver's conversion point, `js.rs`, as far as a batch needs it: what
`batch()` answers with, and its conversion.

D1 is a parameter, `D1Database`, over an arbitrary type of databases and of
prepared statements.  Of the objects it answers with, the driver sees their
keys and what `Reflect.get` gives for one.

* `exists_rows_iff`, `exists_entry_iff` -- which results can be converted:
  the getters answer, and every value read is one `from_js` accepts.
-/

namespace SqlxCloudflare

open Fallible Ieee

/-! ## what D1 answers with -/

/-- A JavaScript object: its own keys, in the order JavaScript keeps them, and
what `Reflect.get` gives for a key. -/
structure JsObject where
  ownKeys : List String
  get : String → Except JsValue JsValue

/-- `Object.keys`. -/
def JsObject.keys (object : JsObject) : List JsValue := object.ownKeys.map .string

/-- The result of one statement: its getters, which may throw.  Its rows are
objects. -/
structure D1Result where
  results : Except JsValue (Option (List JsObject))
  metadata : Except JsValue JsObject

/-- What a call of `batch()` comes to; a value it resolves with may not be an
array, which is `none`. -/
inductive BatchAnswer where
  | throws (error : JsValue)
  | rejects (error : JsValue)
  | resolves (results : Option (List D1Result))

/-- A D1 database `DB`, with prepared statements `P`. -/
structure D1Database (DB P : Type) where
  prepare : String → Except JsValue P
  bind : P → List JsValue → Except JsValue P
  /-- What a statement does to the database. -/
  apply : P → DB → DB
  batch : List P → DB → BatchAnswer × DB

namespace D1

section

variable {DB P : Type} [JsDebug]

/-! ## statements -/

/-- `sql` prepared on `db`, with `arguments` bound in placeholder order. -/
def prepare (db : D1Database DB P) (sql : String) (arguments : List Value) : Except Error P := do
  let statement ← (db.prepare sql).mapError databaseError
  if arguments.isEmpty then
    return statement
  else
    let values ← toJsArray arguments
    (db.bind statement values).mapError databaseError

/-! ## results -/

def protocolError (error : JsValue) : Error :=
  .protocol s!"unexpected response from D1: {JsDebug.debug error}"

/-- The elements of an array; anything else is an error. -/
def array {α : Type} (elements : Option (List α)) : Except Error (List α) :=
  match elements with
  | some elements => .ok elements
  | none => .error (.protocol "D1 returned a row that is not an array")

/-- The column names, which must all be strings. -/
def columnNames (names : List JsValue) : Except Error (List String) :=
  stringNames "D1 returned a column name that is not a string" names

/-- One value of a row. -/
def valueAt (object : JsObject) (name : String) : Except Error Value := do
  let value ← (object.get name).mapError protocolError
  fromJs value

/-- A batch statement's rows, which D1 returns as objects: the column names are
the first row's keys, and every row is read by those names. -/
def rows (result : D1Result) : Except Error (List Row) := do
  let objects ← result.results.mapError protocolError
  match objects with
  | none | some [] => return []
  | some (first :: rest) =>
    let names ← columnNames first.keys
    let values ← (first :: rest).mapM fun object => names.mapM (valueAt object)
    Row.fromResult names values

/-- D1's counts are whole, non-negative and far below 2^53. -/
def wholeNumberU64 (value : F64) : U64 := asU64 value

/-- A rowid D1 reports is a whole number it could represent exactly. -/
def wholeNumberI64 (value : F64) : I64 := asI64 value

/-- A number of the metadata, if there is one. -/
def number (object : JsObject) (key : String) : Option F64 :=
  match object.get key with
  | .ok value => value.asF64
  | .error _ => none

def queryResult (result : D1Result) : Except Error QueryResult := do
  let object ← result.metadata.mapError protocolError
  return {
    rowsAffected :=
      (number object "changes").elim ⟨0, IntRange.zero_le_zero, U64.zero_le_max⟩ wholeNumberU64
    lastInsertRowid := (number object "last_row_id").map wholeNumberI64 }

/-- The entry a batch returns for one statement. -/
def entry (result : D1Result) : Except Error (BatchResult Row) := do
  let rows ← rows result
  let result ← queryResult result
  return ⟨rows, result⟩

/-! ## the batch -/

/-- The call of `batch()`, awaited. -/
def settle (db : D1Database DB P) (statements : List P) :
    EStateM Error DB (Option (List D1Result)) := fun s =>
  match db.batch statements s with
  | (.throws error, s) | (.rejects error, s) => .error (databaseError error) s
  | (.resolves results, s) => .ok results s

/-- Runs `statements` as one D1 batch, and returns what each did and the rows
it returned. -/
def batch (db : D1Database DB P) (statements : List P) :
    EStateM Error DB (List (BatchResult Row)) := do
  let results ← settle db statements
  let results ← lift (array results)
  lift (results.mapM entry)

end

/-! ## which results can be converted -/

theorem columnNames_keys (object : JsObject) : columnNames object.keys = .ok object.ownKeys :=
  stringNames_map_string _ object.ownKeys

theorem exists_valueAt_iff [JsDebug] (object : JsObject) (name : String) :
    (∃ v, valueAt object name = .ok v) ↔
      ∃ value, object.get name = .ok value ∧ Convertible value := by
  constructor
  · rintro ⟨v, h⟩
    obtain ⟨value, hget, hv⟩ := bind_eq_ok_iff.mp h
    exact ⟨value, mapError_eq_ok_iff.mp hget, (exists_fromJs_iff value).mp ⟨v, hv⟩⟩
  · rintro ⟨value, hget, hconvertible⟩
    obtain ⟨v, hv⟩ := (exists_fromJs_iff value).mpr hconvertible
    exact ⟨v, bind_eq_ok_iff.mpr ⟨value, mapError_eq_ok_iff.mpr hget, hv⟩⟩

end D1

/-- Every value the driver reads of the rows: the getter gives one, of a type
that can be converted. -/
def D1Result.RowsReadable (result : D1Result) : Prop :=
  ∃ objects, result.results = .ok objects ∧
    ∀ first rest, objects = some (first :: rest) →
      ∀ object ∈ first :: rest, ∀ name ∈ first.ownKeys,
        ∃ value, object.get name = .ok value ∧ Convertible value

/-- The rows and the metadata can be read. -/
def D1Result.Readable (result : D1Result) : Prop :=
  result.RowsReadable ∧ ∃ object, result.metadata = .ok object

namespace D1

variable [JsDebug]

theorem exists_values_iff (names : List String) (objects : List JsObject) :
    (∃ values, objects.mapM (fun object => names.mapM (valueAt object)) = .ok values) ↔
      ∀ object ∈ objects, ∀ name ∈ names,
        ∃ value, object.get name = .ok value ∧ Convertible value := by
  simp only [exists_mapM_eq_ok_iff, exists_valueAt_iff]

/-- Rows under the first one's keys always have as many values as there are
columns, so only a value can stop them. -/
theorem exists_rows_iff (result : D1Result) :
    (∃ r, rows result = .ok r) ↔ result.RowsReadable := by
  cases hresults : result.results with
  | error error => simp [rows, D1Result.RowsReadable, hresults, Except.mapError, error_bind]
  | ok objects =>
      match objects with
      | none => simp [rows, D1Result.RowsReadable, hresults, Except.mapError, ok_bind, pure,
          Except.pure]
      | some [] => simp [rows, D1Result.RowsReadable, hresults, Except.mapError, ok_bind, pure,
          Except.pure]
      | some (first :: rest) =>
          have hrows : rows result = (first :: rest).mapM (fun object =>
              first.ownKeys.mapM (valueAt object)) >>= Row.fromResult first.ownKeys := by
            simp only [rows, hresults, Except.mapError, ok_bind, columnNames_keys]
          have hvalues := exists_values_iff first.ownKeys (first :: rest)
          rw [hrows]
          constructor
          · rintro ⟨r, h⟩
            obtain ⟨values, hread, _⟩ := bind_eq_ok_iff.mp h
            refine ⟨_, hresults, fun first' rest' heq => ?_⟩
            cases heq
            exact hvalues.mp ⟨values, hread⟩
          · rintro ⟨objects, heq, hall⟩
            rw [hresults] at heq
            cases heq
            obtain ⟨values, hread⟩ := hvalues.mpr (hall first rest rfl)
            have hlengths : ∀ row ∈ values, row.length = first.ownKeys.length := by
              intro row hrow
              obtain ⟨object, _, hobject⟩ := exists_mem_of_mapM_eq_ok hread hrow
              exact length_of_mapM_eq_ok hobject
            obtain ⟨r, hr⟩ := Row.exists_fromResult_iff.mpr hlengths
            exact ⟨r, bind_eq_ok_iff.mpr ⟨values, hread, hr⟩⟩

theorem exists_queryResult_iff (result : D1Result) :
    (∃ r, queryResult result = .ok r) ↔ ∃ object, result.metadata = .ok object := by
  cases hmetadata : result.metadata <;>
    simp [queryResult, hmetadata, Except.mapError, error_bind, ok_bind, pure, Except.pure]

theorem exists_entry_iff (result : D1Result) :
    (∃ r, entry result = .ok r) ↔ result.Readable := by
  rw [D1Result.Readable, ← exists_rows_iff, ← exists_queryResult_iff]
  constructor
  · rintro ⟨r, h⟩
    obtain ⟨rs, hrows, h⟩ := bind_eq_ok_iff.mp h
    obtain ⟨q, hquery, _⟩ := bind_eq_ok_iff.mp h
    exact ⟨⟨rs, hrows⟩, q, hquery⟩
  · rintro ⟨⟨rs, hrows⟩, q, hquery⟩
    exact ⟨⟨rs, q⟩, bind_eq_ok_iff.mpr ⟨rs, hrows, bind_eq_ok_iff.mpr ⟨q, hquery, rfl⟩⟩⟩

end D1

end SqlxCloudflare
