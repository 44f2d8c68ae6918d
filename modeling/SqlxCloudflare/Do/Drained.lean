import SqlxCloudflare.Do.Counts

/-!
# SqlxCloudflare.Do.Drained

How far `fetch` steps the cursor it was given.  The loop goes on past `limit`,
to the end of the cursor, but an error of the driver's own leaves it: a column
name that is not a string before the first step, and a row that cannot be
converted wherever it is met.  `isEnded_readRows_iff` says which rows those
are, and `fetch_drains_iff` when the cursor is run to its end.
-/

namespace SqlxCloudflare

open Fallible

variable {DB : Type}

/-! ## what is left of an iterator -/

namespace RawIterator

/-- An iterator as `cursor.raw()` returns it: rows, and after the last of them
`done` or an error. -/
def Fresh : RawIterator DB → Prop
  | .ended _ => False
  | .last _ _ | .throws _ _ _ => True
  | .yields _ _ rest => rest.Fresh

/-- The rows an iterator has left. -/
def rows : RawIterator DB → List JsValue
  | .ended _ | .last _ _ | .throws _ _ _ => []
  | .yields _ row rest => row :: rest.rows

/-- Whether an iterator has answered `done`, or thrown. -/
def isEnded : RawIterator DB → Bool
  | .ended _ => true
  | .last _ _ | .throws _ _ _ | .yields _ _ _ => false

theorem isEnded_eq_false {iterator : RawIterator DB} (h : iterator.Fresh) :
    iterator.isEnded = false := by
  cases iterator with
  | ended db => exact h.elim
  | last _ _ | throws _ _ _ | yields _ _ _ => rfl

/-- What the statement leaves does not depend on the rows read before. -/
theorem stateOf_toEnd_yields (db : DB) (row : JsValue) (rest : RawIterator DB) :
    stateOf (RawIterator.yields db row rest).toEnd = stateOf rest.toEnd := by
  rw [toEnd]
  cases rest.toEnd with
  | ok rows final => rfl
  | error error final => rfl

end RawIterator

/-! ## rows that can be converted -/

/-- A row that can be converted: an array of values that can. -/
def ReadableRow (row : JsValue) : Prop :=
  ∃ cells, row = .array cells ∧ ∀ cell ∈ cells, Convertible cell

section

variable [JsDebug]

theorem exists_readRow_iff (row : JsValue) :
    (∃ values, readRow row = .ok values) ↔ ReadableRow row := by
  cases row with
  | array cells =>
      have hcells : (∃ values, readRow (.array cells) = .ok values) ↔
          ∀ cell ∈ cells, Convertible cell := by
        simp only [readRow, JsValue.asArray, exists_mapM_eq_ok_iff, exists_fromJs_iff]
      rw [hcells]
      simp [ReadableRow]
  | _ => simp [readRow, JsValue.asArray, ReadableRow]

/-! ## the loop -/

/-- The loop runs the iterator to its end when every row it converts can be
converted, and only then. -/
theorem isEnded_readRows_iff {iterator : RawIterator DB} (hfresh : iterator.Fresh)
    (limit : Option ℕ) (rows : List (List Value)) :
    (stateOf (readRows limit rows iterator)).isEnded = true ↔
      ∀ row ∈ wanted limit rows.length iterator.rows, ReadableRow row := by
  induction iterator generalizing rows with
  | ended db => exact hfresh.elim
  | last db final => simp [readRows, stateOf, RawIterator.isEnded, RawIterator.rows, wanted_nil]
  | throws db error final =>
      simp [readRows, stateOf, RawIterator.isEnded, RawIterator.rows, wanted_nil]
  | yields db row rest ih =>
      have hrest : rest.Fresh := hfresh
      rw [readRows, RawIterator.rows]
      by_cases hwants : wants limit rows.length = true
      · rw [if_pos hwants, wanted_cons_of_wants hwants, List.forall_mem_cons,
          ← exists_readRow_iff row]
        cases hrow : readRow row with
        | ok values =>
            have hlength : (rows ++ [values]).length = rows.length + 1 := List.length_append
            have htail := ih hrest (rows ++ [values])
            rw [hlength] at htail
            simpa using htail
        -- The iterator is left where the row was met.
        | error error => simp [stateOf, RawIterator.isEnded_eq_false hrest]
      · rw [if_neg hwants, ih hrest, wanted_of_not_wants hwants, wanted_of_not_wants hwants]

/-- Run to its end, the iterator leaves what the statement leaves. -/
theorem db_readRows_of_isEnded {iterator : RawIterator DB} (hfresh : iterator.Fresh)
    {limit : Option ℕ} {rows : List (List Value)}
    (h : (stateOf (readRows limit rows iterator)).isEnded = true) :
    (stateOf (readRows limit rows iterator)).db = stateOf iterator.toEnd := by
  induction iterator generalizing rows with
  | ended db => exact hfresh.elim
  | last db final => rfl
  | throws db error final => rfl
  | yields db row rest ih =>
      have hrest : rest.Fresh := hfresh
      rw [RawIterator.stateOf_toEnd_yields]
      rw [readRows] at h ⊢
      by_cases hwants : wants limit rows.length = true
      · rw [if_pos hwants] at h ⊢
        cases hrow : readRow row with
        | ok values =>
            simp only [hrow] at h ⊢
            exact ih hrest h
        | error error => simp [hrow, stateOf, RawIterator.isEnded_eq_false hrest] at h
      · rw [if_neg hwants] at h ⊢
        exact ih hrest h

/-! ## `fetch` -/

/-- What `fetch` does after the loop does not step the cursor. -/
theorem stateOf_readCursor_of_stringNames {cursor : Cursor DB} (h : cursor.StringNames)
    (limit : Option ℕ) :
    stateOf (readCursor cursor limit cursor.raw) = stateOf (readRows limit [] cursor.raw) := by
  obtain ⟨names, hnames⟩ := h
  cases hrows : readRows limit [] cursor.raw with
  | error error iterator => rw [readCursor_of_readRows_error hnames hrows, stateOf, stateOf]
  | ok rows iterator =>
      rw [readCursor_of_readRows hnames hrows]
      cases Row.fromResult names rows with
      | error error => rw [stateOf, stateOf]
      | ok rs => rw [stateOf, stateOf]

theorem stateOf_readCursor_of_not_stringNames {cursor : Cursor DB} (h : ¬cursor.StringNames)
    (limit : Option ℕ) : stateOf (readCursor cursor limit cursor.raw) = cursor.raw := by
  cases hnames : columnNames cursor.columnNames with
  | ok names => exact absurd ⟨names, hnames⟩ h
  | error error => rw [readCursor_of_columnNames_error hnames, stateOf]

/-- The database is wherever the cursor was left. -/
theorem stateOf_fetch {storage : SqlStorage DB} {sql : String} {arguments : List Value}
    {parameters : List JsValue} {db : DB} {cursor : Cursor DB}
    (hbind : toJsArray arguments = .ok parameters)
    (hexec : storage.exec sql parameters db = .ok cursor) (limit : Option ℕ) :
    stateOf (fetch storage sql arguments limit db) =
      (stateOf (readCursor cursor limit cursor.raw)).db := by
  cases hcursor : readCursor cursor limit cursor.raw with
  | ok result left => rw [fetch_of_readCursor hbind hexec hcursor, stateOf, stateOf]
  | error error left => rw [fetch_of_readCursor_error hbind hexec hcursor, stateOf, stateOf]

/-- **When the cursor is run to its end.**  It is left half done exactly by a
column name that is not a string, and by a row among those converted that is
not an array of values that can be. -/
theorem fetch_drains_iff {storage : SqlStorage DB} {sql : String} {arguments : List Value}
    {parameters : List JsValue} {db : DB} {cursor : Cursor DB}
    (hbind : toJsArray arguments = .ok parameters)
    (hexec : storage.exec sql parameters db = .ok cursor) (hfresh : cursor.raw.Fresh)
    (limit : Option ℕ) :
    stateOf (fetch storage sql arguments limit db) =
      (stateOf (readCursor cursor limit cursor.raw)).db ∧
    ((stateOf (readCursor cursor limit cursor.raw)).isEnded = true ↔
      cursor.StringNames ∧ ∀ row ∈ wanted limit 0 cursor.raw.rows, ReadableRow row) ∧
    ((stateOf (readCursor cursor limit cursor.raw)).isEnded = true →
      stateOf (fetch storage sql arguments limit db) = stateOf cursor.raw.toEnd) := by
  rw [stateOf_fetch hbind hexec]
  by_cases hnames : cursor.StringNames
  · rw [stateOf_readCursor_of_stringNames hnames, isEnded_readRows_iff hfresh]
    refine ⟨rfl, by simp [hnames], fun h => ?_⟩
    exact db_readRows_of_isEnded hfresh ((isEnded_readRows_iff hfresh limit []).mpr h)
  · rw [stateOf_readCursor_of_not_stringNames hnames, RawIterator.isEnded_eq_false hfresh]
    simp [hnames]

end

/-! ## a statement that finishes as its cursor is drained -/

/-- The cursor of an `INSERT ... RETURNING` that returns `cell` for the row it
inserts: the row is there once the cursor has answered `done`. -/
def cursorReturning (cell : JsValue) (db : List ℕ) : Cursor (List ℕ) where
  columnNames := [.string "id"]
  raw := .yields db (.array [cell]) (.last db (db ++ [1]))
  rowsWritten := Ieee.Binary.ofInt Ieee.binary64 1

/-- A storage that runs this one statement. -/
def insertReturning (cell : JsValue) : SqlStorage (List ℕ) where
  exec _ _ db := .ok (cursorReturning cell db)

/-- The row is inserted when what it returns can be read. -/
theorem fetch_drains_number :
    letI := JsDebug.describing
    stateOf (fetch (insertReturning (.ofByte 1)) "INSERT INTO t VALUES (1) RETURNING id" []
      none []) = [1] := by
  let := JsDebug.describing
  have hbind : toJsArray [] = .ok [] := rfl
  have hexec : (insertReturning (.ofByte 1)).exec "INSERT INTO t VALUES (1) RETURNING id" [] [] =
      .ok (cursorReturning (.ofByte 1) []) := rfl
  have hreadable : ReadableRow (.array [.ofByte 1]) :=
    ⟨_, rfl, by simp [JsValue.ofByte, Convertible]⟩
  obtain ⟨_, hended, hleft⟩ := fetch_drains_iff hbind hexec trivial none
  exact hleft (hended.mpr ⟨⟨["id"], rfl⟩, by simpa [wanted, cursorReturning, RawIterator.rows]⟩)

/-- With a `BigInt` in the row the driver stops there, and the row is not. -/
theorem not_fetch_drains :
    letI := JsDebug.describing
    ¬∀ (storage : SqlStorage (List ℕ)) (db : List ℕ) (cursor : Cursor (List ℕ)) (limit : Option ℕ),
      storage.exec "INSERT INTO t VALUES (1) RETURNING id" [] db = .ok cursor →
        cursor.raw.Fresh →
          (stateOf (readCursor cursor limit cursor.raw)).isEnded = true ∧
            stateOf (fetch storage "INSERT INTO t VALUES (1) RETURNING id" [] limit db) =
              stateOf cursor.raw.toEnd := by
  let := JsDebug.describing
  intro h
  have hended := (h (insertReturning (.other "BigInt(1)")) [] _ none rfl trivial).1
  cases hended

end SqlxCloudflare
