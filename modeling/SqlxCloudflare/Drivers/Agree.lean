import SqlxCloudflare.D1.Fetch
import SqlxCloudflare.Do.Reading

/-!
# SqlxCloudflare.Drivers.Agree

One result, read by both drivers.  D1 hands over an array of arrays, with the
column names first and a BLOB as an array of byte values; Durable Object
storage hands over a cursor, with the names beside it and a BLOB as an
`ArrayBuffer`.  `drivers_agree` says that the rows are the same, or the error
is, whatever the limit.
-/

namespace SqlxCloudflare

open Fallible

/-! ## the values as they are delivered -/

/-- A SQLite value as a JavaScript one, with a BLOB as `blob` has it.  An
integer crosses as the double nearest to it. -/
def delivered (blob : List UInt8 → JsValue) : Value → JsValue
  | .null => .null
  | .integer n => .number (I64.asF64 n)
  | .real x => .number x
  | .text text => .string text
  | .blob bytes => blob bytes

/-- A row as D1 delivers it. -/
def D1.rowOf (row : List Value) : JsValue :=
  .array (row.map (delivered fun bytes => .array (bytes.map .ofByte)))

/-- What `raw()` resolves with. -/
def D1.rawOf (names : List String) (rows : List (List Value)) : JsValue :=
  .array (.array (names.map .string) :: rows.map D1.rowOf)

/-- A row as Durable Object storage delivers it. -/
def rowOf (row : List Value) : JsValue := .array (row.map (delivered .arrayBuffer))

/-- A cursor over the rows, which leaves `final` when it is read to its end. -/
structure Cursor.Delivers {DB : Type} (cursor : Cursor DB) (names : List String)
    (rows : List (List Value)) (final : DB) : Prop where
  columnNames : cursor.columnNames = names.map .string
  toEnd : cursor.raw.toEnd = .ok (rows.map rowOf) final

section

variable [JsDebug]

/-- A value is read the same way however its bytes were delivered. -/
theorem fromJs_delivered (value : Value) :
    fromJs (delivered (fun bytes => .array (bytes.map .ofByte)) value) =
      fromJs (delivered .arrayBuffer value) := by
  cases value with
  | blob bytes => simp only [delivered, fromJs, bytesFromNumbers_map_ofByte, ok_bind, pure,
      Except.pure]
  | null | integer _ | real _ | text _ => rfl

theorem readRow_rowOf (row : List Value) : D1.readRow (D1.rowOf row) = readRow (rowOf row) := by
  have hcells : D1.readRow (D1.rowOf row) =
      (row.map (delivered fun bytes => .array (bytes.map .ofByte))).mapM fromJs := rfl
  have hcells' : readRow (rowOf row) = (row.map (delivered .arrayBuffer)).mapM fromJs := rfl
  rw [hcells, hcells', List.mapM_map, List.mapM_map]
  exact congrArg row.mapM (funext fromJs_delivered)

/-- Reading the same rows, at most `limit` of them, comes to the same. -/
theorem readLimited_rowOf (limit : Option ℕ) (names : List String) (rows : List (List Value)) :
    readLimited D1.readRow limit names (rows.map D1.rowOf) =
      readLimited readRow limit names (rows.map rowOf) := by
  have hrows : (limited limit (rows.map D1.rowOf)).mapM D1.readRow =
      (limited limit (rows.map rowOf)).mapM readRow := by
    rw [limited_map, limited_map, List.mapM_map, List.mapM_map]
    exact congrArg (limited limit rows).mapM (funext readRow_rowOf)
  rw [readLimited, readLimited, hrows]

/-! ## both drivers -/

/-- **The two drivers read one result the same way**: the same rows, with the
same columns, or the same error. -/
theorem drivers_agree {DB DB' P : Type} {statements : D1Statements DB P} {statement : P}
    {s s' : DB} {storage : SqlStorage DB'} {sql : String} {arguments : List Value}
    {parameters : List JsValue} {db final : DB'} {cursor : Cursor DB'} {names : List String}
    {rows : List (List Value)}
    (hraw : statements.raw statement s = (.resolves (D1.rawOf names rows), s'))
    (hbind : toJsArray arguments = .ok parameters)
    (hexec : storage.exec sql parameters db = .ok cursor)
    (hcursor : cursor.Delivers names rows final) (limit : Option ℕ) :
    outcome (D1.fetch statements statement limit s) =
      (outcome (fetch storage sql arguments limit db)).map Prod.fst := by
  have hnames : columnNames cursor.columnNames = .ok names := by
    rw [hcursor.columnNames, columnNames, stringNames_map_string]
  rw [D1.fetch_of_resolves hraw, outcome_lift, D1.rawOf, D1.readRaw_cons,
    outcome_fetch_of_toEnd hbind hexec hcursor.toEnd, hnames, ok_bind]
  have hnames' : (D1.array (JsValue.array (names.map .string)).asArray >>= D1.columnNames) =
      .ok names := stringNames_map_string _ names
  rw [hnames', ok_bind, readLimited_rowOf]
  cases readLimited readRow limit names (rows.map rowOf) with
  | ok rs => rfl
  | error error => rfl

end

/-! ## a result with a BLOB -/

/-- A cursor over the rows of a statement that writes nothing. -/
def cursorOf (names : List String) (rows : List (List Value)) : Cursor Unit where
  columnNames := names.map .string
  raw := (rows.map rowOf).foldr (RawIterator.yields ()) (.last () ())
  rowsWritten := .zero false

theorem delivers_cursorOf (names : List String) (rows : List (List Value)) :
    (cursorOf names rows).Delivers names rows () := by
  refine ⟨rfl, ?_⟩
  rw [cursorOf]
  induction rows with
  | nil => rfl
  | cons row rows ih => rw [List.map_cons, List.foldr_cons, RawIterator.toEnd, ih]

theorem drivers_agree_blob :
    letI := JsDebug.describing
    outcome (D1.fetch (.answering (D1.rawOf ["k", "v"] [[.text "a", .blob [1, 255]]])) () none ()) =
      (outcome (fetch ⟨fun _ _ _ => .ok (cursorOf ["k", "v"] [[.text "a", .blob [1, 255]]])⟩
        "SELECT k, v FROM t" [] none ())).map Prod.fst := by
  let := JsDebug.describing
  have hbind : toJsArray [] = .ok [] := rfl
  have hraw :
      (D1Statements.answering (D1.rawOf ["k", "v"] [[.text "a", .blob [1, 255]]])).raw () () =
      (.resolves (D1.rawOf ["k", "v"] [[.text "a", .blob [1, 255]]]), ()) := rfl
  exact drivers_agree hraw hbind rfl (delivers_cursorOf _ _) none

end SqlxCloudflare
