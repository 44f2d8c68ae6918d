import SqlxCloudflare.Core.Arguments
import SqlxCloudflare.Core.Result

/-!
# SqlxCloudflare.Do.Js

The Durable Object driver's conversion point, `js.rs`: `fetch` runs a statement
and reads its cursor to the end, `execute` adds what SQLite counted.

Durable Object storage is a parameter, `SqlStorage`, over an arbitrary type of
databases: what `sql.exec` does is the platform's.  Nothing here is
asynchronous, so a call is a function on the database, and one that fails
keeps what was already done -- an `EStateM`.

* `SqlStorage.Completes`, `SqlStorage.Throws` -- what a statement comes to when
  its cursor is read to the end;
* `fetch_of_completes`, `fetch_of_exec_error` and the lemmas beside them --
  `fetch`, from what its statement comes to.
-/

namespace SqlxCloudflare

open Fallible

/-! ## storage -/

/-- The iterator `cursor.raw()` returns: the database as the statement has left
it so far, and what the next `next()` does. -/
inductive RawIterator (DB : Type) where
  /-- It has answered `done`, or thrown. -/
  | ended (db : DB)
  /-- It answers `done`, and the statement leaves `final`. -/
  | last (db final : DB)
  /-- It throws, and the statement leaves `final`. -/
  | throws (db : DB) (error : JsValue) (final : DB)
  | yields (db : DB) (row : JsValue) (rest : RawIterator DB)

/-- The cursor `sql.exec` returns. -/
structure Cursor (DB : Type) where
  columnNames : List JsValue
  raw : RawIterator DB
  /-- The rows the statement has written once its cursor was read to the end. -/
  rowsWritten : Ieee.F64

/-- Durable Object SQL storage: what `sql.exec` does with a statement and its
parameters.  It throws, and leaves the database it says, or returns a cursor,
whose iterator says what has been done so far. -/
structure SqlStorage (DB : Type) where
  exec : String → List JsValue → DB → Except (JsValue × DB) (Cursor DB)

variable {DB : Type}

namespace RawIterator

/-- The database as the statement has left it so far. -/
def db : RawIterator DB → DB
  | .ended db | .last db _ | .throws db _ _ | .yields db _ _ => db

/-- What the iterator comes to, read to its end: the rows it yields or what it
throws, and the database the statement leaves. -/
def toEnd : RawIterator DB → EStateM.Result JsValue DB (List JsValue)
  | .ended db => .ok [] db
  | .last _ final => .ok [] final
  | .throws _ error final => .error error final
  | .yields _ row rest =>
    match rest.toEnd with
    | .ok rows final => .ok (row :: rows) final
    | .error error final => .error error final

end RawIterator

/-! ## `fetch` -/

section

variable [JsDebug]

/-- The call of `sql.exec`. -/
def SqlStorage.call (storage : SqlStorage DB) (sql : String) (parameters : List JsValue) :
    EStateM Error DB (Cursor DB) := fun db =>
  match storage.exec sql parameters db with
  | .ok cursor => .ok cursor cursor.raw.db
  | .error (error, db) => .error (databaseError error) db

def exec (storage : SqlStorage DB) (sql : String) (arguments : List Value) :
    EStateM Error DB (Cursor DB) := do
  let arguments ← lift (toJsArray arguments)
  storage.call sql arguments

/-- The column names, which must all be strings. -/
def columnNames (names : List JsValue) : Except Error (List String) :=
  stringNames "Durable Object storage returned a column name that is not a string" names

/-- One row, which must be an array, converted. -/
def readRow (row : JsValue) : Except Error (List Value) :=
  match row.asArray with
  | some row => row.mapM fromJs
  | none => .error (.protocol "Durable Object storage returned a row that is not an array")

/-- Whether one more row is converted, after `taken` of them. -/
def wants (limit : Option ℕ) (taken : ℕ) : Bool :=
  match limit with
  | none => true
  | some limit => taken < limit

/-- The loop of `fetch`: every row is read out of the cursor, and only the
first `limit` are converted. -/
def readRows (limit : Option ℕ) (rows : List (List Value)) :
    EStateM Error (RawIterator DB) (List (List Value))
  | .ended db => .ok rows (.ended db)
  | .last _ final => .ok rows (.ended final)
  | .throws _ error final => .error (databaseError error) (.ended final)
  | .yields _ row rest =>
    if wants limit rows.length then
      match readRow row with
      | .ok row => readRows limit (rows ++ [row]) rest
      | .error error => .error error rest
    else readRows limit rows rest

/-- What `fetch` does with the cursor; its state is the cursor's iterator. -/
def readCursor (cursor : Cursor DB) (limit : Option ℕ) :
    EStateM Error (RawIterator DB) (List Row × U64) := do
  let names ← lift (columnNames cursor.columnNames)
  let rows ← readRows limit []
  let rows ← lift (Row.fromResult names rows)
  return (rows, asU64 cursor.rowsWritten)

/-- The same on the database, which is wherever the iterator was left. -/
def drain (cursor : Cursor DB) (limit : Option ℕ) : EStateM Error DB (List Row × U64) := fun _ =>
  match readCursor cursor limit cursor.raw with
  | .ok result iterator => .ok result iterator.db
  | .error error iterator => .error error iterator.db

/-- Runs `sql` with `arguments` bound in placeholder order, and returns its
rows -- at most `limit` of them -- and the rows it wrote. -/
def fetch (storage : SqlStorage DB) (sql : String) (arguments : List Value)
    (limit : Option ℕ) : EStateM Error DB (List Row × U64) := do
  let cursor ← exec storage sql arguments
  drain cursor limit

/-! ## `execute` -/

/-- The query for the counts SQLite keeps. -/
def countsSql : String := "SELECT changes(), last_insert_rowid()"

/-- What the row of counts reports. -/
def queryResult (counts : List Row) : Except (Stop Error) QueryResult :=
  match counts with
  | [] => .error (.err (.protocol "`SELECT changes(), last_insert_rowid()` returned no row"))
  | counts :: _ => do
    let changes ← counts.valueAt 0
    let changes ← returns (changes.int.mapError .decode)
    let rowid ← counts.valueAt 1
    let rowid ← returns (rowid.int.mapError .decode)
    match IntRange.tryFrom 0 (2 ^ 64 - 1) changes.val with
    | some changes => return ⟨changes, some rowid⟩
    | none => .error (.err (.decode "out of range integral type conversion attempted"))

/-- Runs `sql`, and returns its rows -- at most `limit` of them -- and what it
did.  The counts are asked for only after a statement that wrote. -/
def execute (storage : SqlStorage DB) (sql : String) (arguments : List Value)
    (limit : Option ℕ) : EStateM (Stop Error) DB (List Row × QueryResult) := do
  let (rows, rowsWritten) ← returning (fetch storage sql arguments limit)
  if rowsWritten.val = 0 then
    return (rows, .default)
  else
    let (counts, _) ← returning (fetch storage countsSql [] none)
    let result ← lift (queryResult counts)
    return (rows, result)

/-- Runs `sql` for its effect, and returns what it did. -/
def run (storage : SqlStorage DB) (sql : String) (arguments : List Value) :
    EStateM (Stop Error) DB QueryResult :=
  Prod.snd <$> execute storage sql arguments (some 0)

end

/-! ## reading a cursor to its end -/

/-- The rows `readRows` converts, of those an iterator has left. -/
def wanted (limit : Option ℕ) (taken : ℕ) (rows : List JsValue) : List JsValue :=
  match limit with
  | none => rows
  | some limit => rows.take (limit - taken)

theorem wanted_cons_of_wants {limit : Option ℕ} {taken : ℕ} (h : wants limit taken = true)
    (row : JsValue) (rows : List JsValue) :
    wanted limit taken (row :: rows) = row :: wanted limit (taken + 1) rows := by
  cases limit with
  | none => rfl
  | some limit =>
      have hlt : taken < limit := by simpa [wants] using h
      have hsucc : limit - taken = limit - (taken + 1) + 1 := by omega
      rw [wanted, hsucc, List.take_succ_cons]
      rfl

theorem wanted_of_not_wants {limit : Option ℕ} {taken : ℕ} (h : ¬wants limit taken = true)
    (rows : List JsValue) : wanted limit taken rows = [] := by
  cases limit with
  | none => simp [wants] at h
  | some limit =>
      have hle : limit ≤ taken := by simpa [wants] using h
      rw [wanted, Nat.sub_eq_zero_of_le hle, List.take_zero]

theorem wanted_nil (limit : Option ℕ) (taken : ℕ) : wanted limit taken [] = [] := by
  cases limit with
  | none => rfl
  | some limit => exact List.take_nil

section

variable [JsDebug]

/-- The loop over an iterator that ends well: the rows wanted are converted,
and the iterator is left at its end. -/
theorem readRows_of_toEnd {limit : Option ℕ} {iterator : RawIterator DB} {values : List JsValue}
    {final : DB} (hend : iterator.toEnd = .ok values final) {rows new : List (List Value)}
    (hnew : (wanted limit rows.length values).mapM readRow = .ok new) :
    readRows limit rows iterator = .ok (rows ++ new) (.ended final) := by
  induction iterator generalizing rows new values with
  | ended db | last _ db =>
      cases hend
      rw [wanted_nil, List.mapM_nil] at hnew
      cases hnew
      rw [List.append_nil]
      rfl
  | throws db error final' => cases hend
  | yields db row rest ih =>
      rw [RawIterator.toEnd] at hend
      cases hrest : rest.toEnd with
      | error error final' =>
          rw [hrest] at hend
          cases hend
      | ok values' final' =>
          rw [hrest] at hend
          cases hend
          rw [readRows]
          by_cases hwants : wants limit rows.length = true
          · rw [wanted_cons_of_wants hwants, List.mapM_cons] at hnew
            obtain ⟨row', hrow, hnew⟩ := bind_eq_ok_iff.mp hnew
            obtain ⟨new', hnew', hcons⟩ := bind_eq_ok_iff.mp hnew
            cases hcons
            have hlength : (rows ++ [row']).length = rows.length + 1 := List.length_append
            rw [← hlength] at hnew'
            have htail := ih hrest hnew'
            rw [List.append_assoc] at htail
            rw [if_pos hwants]
            simp only [hrow]
            exact htail
          · rw [wanted_of_not_wants hwants] at hnew
            cases hnew
            rw [if_neg hwants]
            exact ih hrest (by rw [wanted_of_not_wants hwants]; rfl)

/-- The loop over an iterator that throws, when no row is converted. -/
theorem readRows_zero_of_toEnd_error {iterator : RawIterator DB} {error : JsValue} {final : DB}
    (hend : iterator.toEnd = .error error final) :
    readRows (some 0) [] iterator = .error (databaseError error) (.ended final) := by
  induction iterator with
  | ended db => cases hend
  | last db final' => cases hend
  | throws db error' final' =>
      cases hend
      rfl
  | yields db row rest ih =>
      rw [RawIterator.toEnd] at hend
      cases hrest : rest.toEnd with
      | ok values final' =>
          rw [hrest] at hend
          cases hend
      | error error' final' =>
          rw [hrest] at hend
          cases hend
          exact ih hrest

end

/-! ## what a statement comes to -/

/-- The statement is run without throwing, to the end of its cursor: the
cursor, the rows it yields, and the database it leaves. -/
structure SqlStorage.Completes (storage : SqlStorage DB) (sql : String)
    (parameters : List JsValue) (db : DB) (cursor : Cursor DB) (rows : List JsValue)
    (final : DB) : Prop where
  exec : storage.exec sql parameters db = .ok cursor
  toEnd : cursor.raw.toEnd = .ok rows final

/-- The statement throws, at once or while its cursor is read, and leaves
`final`. -/
inductive SqlStorage.Throws (storage : SqlStorage DB) (sql : String)
    (parameters : List JsValue) (db : DB) (error : JsValue) (final : DB) : Prop where
  | exec (h : storage.exec sql parameters db = .error (error, final))
  | next (cursor : Cursor DB) (h : storage.exec sql parameters db = .ok cursor)
      (hend : cursor.raw.toEnd = .error error final)

section

variable [JsDebug] {storage : SqlStorage DB} {sql : String} {arguments : List Value}
  {parameters : List JsValue} {db final : DB} {cursor : Cursor DB} {values : List JsValue}

variable {iterator left : RawIterator DB} {limit : Option ℕ} {names : List String} {error : Error}

/-- The column names are read first. -/
theorem readCursor_of_columnNames_error (hnames : columnNames cursor.columnNames = .error error) :
    readCursor cursor limit iterator = .error error iterator := by
  rw [readCursor, hnames, run_bind_of_error (run_lift_error _ _)]

theorem readCursor_of_readRows_error (hnames : columnNames cursor.columnNames = .ok names)
    (hrows : readRows limit [] iterator = .error error left) :
    readCursor cursor limit iterator = .error error left := by
  rw [readCursor, hnames, run_bind_of_ok (run_lift_ok _ _), run_bind_of_error hrows]

/-- After the loop the cursor is not stepped. -/
theorem readCursor_of_readRows (hnames : columnNames cursor.columnNames = .ok names)
    {rows : List (List Value)} (hrows : readRows limit [] iterator = .ok rows left) :
    readCursor cursor limit iterator =
      match Row.fromResult names rows with
      | .ok rows => .ok (rows, asU64 cursor.rowsWritten) left
      | .error error => .error error left := by
  rw [readCursor, hnames, run_bind_of_ok (run_lift_ok _ _), run_bind_of_ok hrows]
  cases Row.fromResult names rows with
  | error error => rw [run_bind_of_error (run_lift_error _ _)]
  | ok rows => rw [run_bind_of_ok (run_lift_ok _ _), run_pure]

theorem exec_of_ok (hbind : toJsArray arguments = .ok parameters)
    (h : storage.exec sql parameters db = .ok cursor) :
    exec storage sql arguments db = .ok cursor cursor.raw.db := by
  rw [exec, hbind, run_bind_of_ok (run_lift_ok _ _), SqlStorage.call, h]

theorem exec_of_error (hbind : toJsArray arguments = .ok parameters) {error : JsValue}
    (h : storage.exec sql parameters db = .error (error, final)) :
    exec storage sql arguments db = .error (databaseError error) final := by
  rw [exec, hbind, run_bind_of_ok (run_lift_ok _ _), SqlStorage.call, h]

theorem fetch_of_readCursor (hbind : toJsArray arguments = .ok parameters)
    (h : storage.exec sql parameters db = .ok cursor) {result : List Row × U64}
    (hcursor : readCursor cursor limit cursor.raw = .ok result left) :
    fetch storage sql arguments limit db = .ok result left.db := by
  rw [fetch, run_bind_of_ok (exec_of_ok hbind h), drain, hcursor]

theorem fetch_of_readCursor_error (hbind : toJsArray arguments = .ok parameters)
    (h : storage.exec sql parameters db = .ok cursor)
    (hcursor : readCursor cursor limit cursor.raw = .error error left) :
    fetch storage sql arguments limit db = .error error left.db := by
  rw [fetch, run_bind_of_ok (exec_of_ok hbind h), drain, hcursor]

/-- A parameter that cannot be sent: nothing is run. -/
theorem fetch_of_toJsArray_error {error : Error} (hbind : toJsArray arguments = .error error)
    (limit : Option ℕ) : fetch storage sql arguments limit db = .error error db := by
  refine run_bind_of_error ?_
  rw [exec, hbind, run_bind_of_error (run_lift_error _ _)]

/-- A statement that throws at once. -/
theorem fetch_of_exec_error (hbind : toJsArray arguments = .ok parameters) {error : JsValue}
    (h : storage.exec sql parameters db = .error (error, final)) (limit : Option ℕ) :
    fetch storage sql arguments limit db = .error (databaseError error) final :=
  run_bind_of_error (exec_of_error hbind h)

/-- A statement whose column names are not all strings: its cursor is not
read. -/
theorem fetch_of_columnNames_error (hbind : toJsArray arguments = .ok parameters)
    (h : storage.exec sql parameters db = .ok cursor) {error : Error}
    (hnames : columnNames cursor.columnNames = .error error) (limit : Option ℕ) :
    fetch storage sql arguments limit db = .error error cursor.raw.db :=
  fetch_of_readCursor_error hbind h (readCursor_of_columnNames_error hnames)

/-- A statement that completes, when its column names are strings and the rows
wanted can be converted. -/
theorem fetch_of_completes (hbind : toJsArray arguments = .ok parameters)
    (h : storage.Completes sql parameters db cursor values final) {limit : Option ℕ}
    {names : List String} (hnames : columnNames cursor.columnNames = .ok names)
    {new : List (List Value)} (hnew : (wanted limit 0 values).mapM readRow = .ok new)
    {rows : List Row} (hrows : Row.fromResult names new = .ok rows) :
    fetch storage sql arguments limit db = .ok (rows, asU64 cursor.rowsWritten) final := by
  have hread : readRows limit [] cursor.raw = .ok new (.ended final) :=
    readRows_of_toEnd h.toEnd hnew
  have hcursor : readCursor cursor limit cursor.raw =
      .ok (rows, asU64 cursor.rowsWritten) (.ended final) := by
    rw [readCursor_of_readRows hnames hread, hrows]
  exact fetch_of_readCursor hbind h.exec hcursor

/-- A statement that throws while its cursor is read, when no row is
converted. -/
theorem fetch_zero_of_toEnd_error (hbind : toJsArray arguments = .ok parameters)
    (h : storage.exec sql parameters db = .ok cursor) {names : List String}
    (hnames : columnNames cursor.columnNames = .ok names) {error : JsValue}
    (hend : cursor.raw.toEnd = .error error final) :
    fetch storage sql arguments (some 0) db = .error (databaseError error) final := by
  have hcursor : readCursor cursor (some 0) cursor.raw =
      .error (databaseError error) (.ended final) :=
    readCursor_of_readRows_error hnames (readRows_zero_of_toEnd_error hend)
  exact fetch_of_readCursor_error hbind h hcursor

end

end SqlxCloudflare
