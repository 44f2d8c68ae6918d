import SqlxCloudflare.Core.Stored
import SqlxCloudflare.Do.Executor

/-!
# SqlxCloudflare.Do.Sqlite

What the driver relies on of the SQLite behind `sql.exec`, as assumptions on
the storage parameter, and a storage of one table that meets them.

* `SqlStorage.Restores` -- a statement that throws has no effect;
* `SqlStorage.Counts` -- the two counts SQLite keeps, and the query for them;
* `SqlStorage.CountsColumns` -- of these only that the query has two columns,
  without which the driver panics;
* `fetch_counts`, `queryResult_of_reportable` -- what the driver makes of that
  query's answer, which it can only report within ±(2^53 − 1);
* `Memory` -- the storage of one table.
-/

namespace SqlxCloudflare

open Ieee Fallible

variable {DB : Type}

/-! ## assumptions -/

/-- A statement that throws has no effect. -/
def SqlStorage.Restores (storage : SqlStorage DB) : Prop :=
  ∀ sql parameters db error final, storage.Throws sql parameters db error final → final = db

/-- The counts SQLite keeps with a database.  The query for them answers one
row of two integers, each crossing as the nearest double, and changes
nothing. -/
structure SqlStorage.Counts (storage : SqlStorage DB) where
  changes : DB → I64
  lastInsertRowid : DB → I64
  query : ∀ db, ∃ cursor first second,
    storage.Completes countsSql [] db cursor
      [.array [.number (I64.asF64 (changes db)), .number (I64.asF64 (lastInsertRowid db))]] db ∧
    cursor.columnNames = [.string first, .string second]

/-- The query for the counts has the two columns it selects, if it answers. -/
def SqlStorage.CountsColumns (storage : SqlStorage DB) : Prop :=
  ∀ db cursor, storage.exec countsSql [] db = .ok cursor → cursor.columnNames.length = 2

theorem SqlStorage.Counts.columns {storage : SqlStorage DB} (c : storage.Counts) :
    storage.CountsColumns := by
  intro db cursor hexec
  obtain ⟨cursor', first, second, hcompletes, hnames⟩ := c.query db
  rw [hcompletes.exec] at hexec
  cases hexec
  rw [hnames]
  rfl

/-! ## the counts, as the driver reads them -/

/-- The counts the driver can report: a count of changes, and a rowid, that
survive crossing as doubles. -/
def Reportable (changes rowid : I64) : Prop := 0 ≤ changes.val ∧ Safe changes.val ∧ Safe rowid.val

instance (changes rowid : I64) : Decidable (Reportable changes rowid) :=
  inferInstanceAs (Decidable (_ ∧ _))

/-- What the driver reports for them. -/
def Reportable.result {changes rowid : I64} (h : Reportable changes rowid) : QueryResult :=
  ⟨⟨changes.val, h.1, by have := changes.le_hi; omega⟩, some rowid⟩

section

variable [JsDebug] {storage : SqlStorage DB}

/-- The second statement of `execute`: the two counts, as stored integers are
read. -/
theorem fetch_counts (c : storage.Counts) (db : DB) :
    ∃ row n, fetch storage countsSql [] none db = .ok ([row], n) db ∧
      row.values = [storedAs (c.changes db), storedAs (c.lastInsertRowid db)] := by
  obtain ⟨cursor, first, second, hcompletes, hnames⟩ := c.query db
  have hcolumns : columnNames cursor.columnNames = .ok [first, second] := by
    rw [hnames]
    rfl
  have hrow : readRow (.array [.number (I64.asF64 (c.changes db)),
      .number (I64.asF64 (c.lastInsertRowid db))]) =
        .ok [storedAs (c.changes db), storedAs (c.lastInsertRowid db)] :=
    mapM_eq_ok_iff.mpr (.cons (fromJs_asF64 _) (.cons (fromJs_asF64 _) .nil))
  have hrows : (wanted none 0 [.array [.number (I64.asF64 (c.changes db)),
      .number (I64.asF64 (c.lastInsertRowid db))]]).mapM readRow =
        .ok [[storedAs (c.changes db), storedAs (c.lastInsertRowid db)]] :=
    mapM_eq_ok_iff.mpr (.cons hrow .nil)
  have hbind : toJsArray [] = .ok [] := rfl
  exact ⟨_, _, fetch_of_completes hbind hcompletes hcolumns hrows rfl, rfl⟩

end

/-- Counts within the safe range are reported as they are. -/
theorem queryResult_of_reportable {row : Row} {changes rowid : I64}
    (hrow : row.values = [storedAs changes, storedAs rowid]) (h : Reportable changes rowid) :
    queryResult [row] = .ok h.result := by
  have hchanges : row.valueAt 0 = .ok (storedAs changes) := by
    rw [Row.valueAt, hrow]
    rfl
  have hrowid : row.valueAt 1 = .ok (storedAs rowid) := by
    rw [Row.valueAt, hrow]
    rfl
  have hfits : IntRange.tryFrom 0 (2 ^ 64 - 1) changes.val = some h.result.rowsAffected :=
    IntRange.tryFrom_val h.result.rowsAffected
  simp only [queryResult, ok_bind, hchanges, hrowid, int_storedAs, if_pos h.2.1, if_pos h.2.2,
    Except.mapError, returns_ok, hfits]
  rfl

/-- Any others are an error, of decoding. -/
theorem queryResult_of_not_reportable {row : Row} {changes rowid : I64}
    (hrow : row.values = [storedAs changes, storedAs rowid]) (h : ¬Reportable changes rowid) :
    ∃ source, queryResult [row] = .error (.err (.decode source)) := by
  have hchanges : row.valueAt 0 = .ok (storedAs changes) := by
    rw [Row.valueAt, hrow]
    rfl
  have hrowid : row.valueAt 1 = .ok (storedAs rowid) := by
    rw [Row.valueAt, hrow]
    rfl
  simp only [queryResult, ok_bind, hchanges, hrowid, int_storedAs]
  by_cases hsafe : Safe changes.val
  · by_cases hsafe' : Safe rowid.val
    · have hnegative : IntRange.tryFrom 0 (2 ^ 64 - 1) changes.val = none := by
        cases hfits : IntRange.tryFrom 0 (2 ^ 64 - 1) changes.val with
        | none => rfl
        | some n =>
            have hval := IntRange.val_of_tryFrom hfits
            exact absurd ⟨hval ▸ n.lo_le, hsafe, hsafe'⟩ h
      simp only [if_pos hsafe, if_pos hsafe', Except.mapError, returns_ok, ok_bind, hnegative]
      exact ⟨_, rfl⟩
    · simp only [if_pos hsafe, if_neg hsafe', Except.mapError, returns_ok, ok_bind, returns_error,
        error_bind]
      exact ⟨_, rfl⟩
  · simp only [if_neg hsafe, Except.mapError, returns_error, error_bind]
    exact ⟨_, rfl⟩

/-! ## a storage of one table -/

/-- A database of a table `t (id INTEGER PRIMARY KEY)` and others without rows,
with SQLite's counts. -/
structure Memory where
  rows : List I64
  tables : List String
  changes : I64
  lastInsertRowid : I64
deriving DecidableEq

namespace Memory

def one : I64 := ⟨1, by norm_num, by norm_num⟩

def two : I64 := ⟨2, by norm_num, by norm_num⟩

def three : I64 := ⟨3, by norm_num, by norm_num⟩

/-- The statements it runs. -/
inductive Statement where
  | insert (id : I64)
  /-- The row is the one bound, and is returned. -/
  | insertReturning
  | createTable (name : String)
  | select
  | counts

/-- The statements that insert. -/
def Statement.inserts : Statement → Bool
  | .insert _ | .insertReturning => true
  | .createTable _ | .select | .counts => false

/-- The texts it knows, and the statements they are. -/
def statements : List (String × Statement) :=
  [("INSERT INTO t VALUES (1)", .insert one),
    ("INSERT INTO t VALUES (2)", .insert two),
    ("INSERT INTO t VALUES (9007199254740992)", .insert ⟨2 ^ 53, by norm_num, by norm_num⟩),
    ("INSERT INTO t VALUES (?) RETURNING id", .insertReturning),
    ("CREATE TABLE u (id INTEGER)", .createTable "u"),
    ("SELECT id FROM t", .select),
    (countsSql, .counts)]

/-- A cursor over `rows`, whose statement has been run by `exec` already. -/
def reads (names : List String) (rows : List JsValue) (written : ℤ) (db : Memory) :
    Cursor Memory :=
  ⟨names.map .string, rows.foldr (.yields db) (.last db db), Binary.ofInt binary64 written⟩

/-- A cursor without rows. -/
def written (rows : ℤ) (db : Memory) : Cursor Memory := reads [] [] rows db

def empty : Memory :=
  ⟨[], [], ⟨0, I64.min_le_zero, I64.zero_le_max⟩, ⟨0, I64.min_le_zero, I64.zero_le_max⟩⟩

/-- A row more. -/
def inserted (db : Memory) (id : I64) : Memory :=
  ⟨db.rows ++ [id], db.tables, one, id⟩

/-- What inserting a row is reported as. -/
def insertResult (id : I64) : QueryResult := ⟨⟨1, by norm_num, by norm_num⟩, some id⟩

/-- A row as it is delivered. -/
def row (id : I64) : JsValue := .array [.number (I64.asF64 id)]

/-- The integer that is bound. -/
def bound : List JsValue → Option I64
  | [.number x] =>
    match Value.fromNumber x with
    | .integer id => some id
    | _ => none
  | _ => none

/-- Inserts a row, whose statement returns `rows`. -/
def insert (db : Memory) (id : I64) (names : List String) (rows : List JsValue) :
    Except (JsValue × Memory) (Cursor Memory) :=
  if id ∈ db.rows then
    .error (.error "UNIQUE constraint failed: t.id: SQLITE_CONSTRAINT" .undefined, db)
  else .ok (reads names rows 1 (db.inserted id))

/-- What a statement does. -/
def step (db : Memory) (parameters : List JsValue) :
    Statement → Except (JsValue × Memory) (Cursor Memory)
  | .insert id => db.insert id [] []
  | .insertReturning =>
    match bound parameters with
    | some id => db.insert id ["id"] [row id]
    | none => .error (.error "datatype mismatch: SQLITE_MISMATCH" .undefined, db)
  -- The row written is the schema table's: no count changes.
  | .createTable name => .ok (written 1 { db with tables := db.tables ++ [name] })
  | .select => .ok (reads ["id"] (db.rows.map row) 0 db)
  | .counts => .ok (reads ["changes()", "last_insert_rowid()"]
      [.array [.number (I64.asF64 db.changes), .number (I64.asF64 db.lastInsertRowid)]] 0 db)

def storage : SqlStorage Memory where
  exec sql parameters db :=
    match statements.lookup sql with
    | some statement => step db parameters statement
    | none => .error (.error "syntax error: SQLITE_ERROR" .undefined, db)

/-- A query of the statement `sql`, with nothing bound. -/
def query (sql : String) : Query := ⟨sql, .ok none⟩

section

variable {names : List String} {rows : List JsValue} {n : ℤ} {sql : String}
  {parameters : List JsValue} {db final : Memory} {cursor : Cursor Memory}

/-- Its cursors do not throw. -/
theorem toEnd_reads (names : List String) (rows : List JsValue) (n : ℤ) (db : Memory) :
    (reads names rows n db).raw.toEnd = .ok rows db := by
  induction rows with
  | nil => rfl
  | cons row rows ih =>
      rw [reads] at ih ⊢
      rw [List.foldr_cons, RawIterator.toEnd, ih]

theorem insert_eq_ok {id : I64} (h : db.insert id names rows = .ok cursor) :
    cursor = reads names rows 1 (db.inserted id) := by
  rw [insert] at h
  split at h
  · cases h
  · cases h
    rfl

theorem insert_eq_error {id : I64} {error : JsValue}
    (h : db.insert id names rows = .error (error, final)) : final = db := by
  rw [insert] at h
  split at h
  · cases h
    rfl
  · cases h

/-- What a statement that does not throw is: an insert, or one that changes
neither a row nor a count. -/
inductive Stepped (db : Memory) : Statement → Cursor Memory → Prop where
  | inserted {statement : Statement} (id : I64) (names : List String) (rows : List JsValue)
      (hinserts : statement.inserts = true)
      (hrows : ∀ row ∈ rows, row = Memory.row id ∧ names.length = 1) :
      Stepped db statement (reads names rows 1 (db.inserted id))
  | created (name : String) :
      Stepped db (.createTable name) (written 1 { db with tables := db.tables ++ [name] })
  | selected : Stepped db .select (reads ["id"] (db.rows.map row) 0 db)
  | counted : Stepped db .counts (reads ["changes()", "last_insert_rowid()"]
      [.array [.number (I64.asF64 db.changes), .number (I64.asF64 db.lastInsertRowid)]] 0 db)

theorem stepped_of_step {statement : Statement} (h : step db parameters statement = .ok cursor) :
    Stepped db statement cursor := by
  cases statement with
  | insert id =>
      rw [insert_eq_ok h]
      exact .inserted id [] [] rfl fun row hrow => by cases hrow
  | insertReturning =>
      rw [step] at h
      split at h
      · next id hbound =>
          rw [insert_eq_ok h]
          refine .inserted id ["id"] [row id] rfl fun r hr => ?_
          exact ⟨List.mem_singleton.mp hr, rfl⟩
      · cases h
  | createTable name =>
      cases h
      exact .created name
  | select =>
      cases h
      exact .selected
  | counts =>
      cases h
      exact .counted

theorem step_eq_error {statement : Statement} {error : JsValue}
    (h : step db parameters statement = .error (error, final)) : final = db := by
  cases statement with
  | insert id => exact insert_eq_error h
  | insertReturning =>
      rw [step] at h
      split at h
      · exact insert_eq_error h
      · cases h
        rfl
  | createTable _ | select | counts => cases h

theorem toEnd_of_stepped {statement : Statement} (h : Stepped db statement cursor) :
    ∃ rows final, cursor.raw.toEnd = .ok rows final := by
  cases h with
  | inserted _ _ _ _ _ | created _ | selected | counted => exact ⟨_, _, toEnd_reads _ _ _ _⟩

/-- A statement that is run: one of those it knows. -/
theorem exec_eq_ok (h : storage.exec sql parameters db = .ok cursor) :
    ∃ statement, statements.lookup sql = some statement ∧ Stepped db statement cursor := by
  cases hlookup : statements.lookup sql with
  | none =>
      simp only [storage, hlookup] at h
      cases h
  | some statement =>
      simp only [storage, hlookup] at h
      exact ⟨statement, rfl, stepped_of_step h⟩

theorem restores : storage.Restores := by
  intro sql parameters db error final h
  cases h with
  | exec h =>
      simp only [storage] at h
      split at h
      · exact step_eq_error h
      · cases h
        rfl
  | next cursor h hend =>
      obtain ⟨statement, _, hstepped⟩ := exec_eq_ok h
      obtain ⟨rows, final', hok⟩ := toEnd_of_stepped hstepped
      rw [hok] at hend
      cases hend

theorem completes_of_step {statement : Statement} {rows : List JsValue}
    (hsql : statements.lookup sql = some statement) (parameters : List JsValue)
    (hstep : step db parameters statement = .ok cursor)
    (hend : cursor.raw.toEnd = .ok rows final) :
    storage.Completes sql parameters db cursor rows final :=
  ⟨by simp only [storage, hsql, hstep], hend⟩

/-- What a statement that completes leaves: a row more, and the counts of that;
or no count of its own. -/
theorem completes_cases {rows : List JsValue}
    (h : storage.Completes sql parameters db cursor rows final) :
    ∃ statement, statements.lookup sql = some statement ∧
      (statement.inserts = true ∧ (∃ id, final = db.inserted id) ∧
          cursor.rowsWritten = Binary.ofInt binary64 1 ∨
        ¬statement.inserts = true ∧ final.changes = db.changes) := by
  obtain ⟨statement, hsql, hstepped⟩ := exec_eq_ok h.exec
  have hend := h.toEnd
  refine ⟨statement, hsql, ?_⟩
  cases hstepped with
  | inserted id names rows hinserts hrows =>
      rw [toEnd_reads] at hend
      cases hend
      exact .inl ⟨hinserts, ⟨id, rfl⟩, rfl⟩
  | created name =>
      rw [written, toEnd_reads] at hend
      cases hend
      exact .inr ⟨by simp [Statement.inserts], rfl⟩
  | selected | counted =>
      rw [toEnd_reads] at hend
      cases hend
      exact .inr ⟨by simp [Statement.inserts], rfl⟩

end

/-- Its counts. -/
def counts : storage.Counts where
  changes := Memory.changes
  lastInsertRowid := Memory.lastInsertRowid
  query _ := ⟨_, "changes()", "last_insert_rowid()", ⟨rfl, rfl⟩, rfl⟩

end Memory

end SqlxCloudflare
