import SqlxCloudflare.Do.Drained

/-!
# SqlxCloudflare.Do.Tabular

A storage that answers in the shape it documents (`SqlStorage.Tabular`): names
that are strings, rows that are arrays of values that can be read, one for each
name.  On one, `fetch` fails only where its statement throws.

The abstract view of a query is `SqlStorage.apply`: its statement is run to the
end, or has no effect.

* `fetch_cases` -- a statement that is sent throws, or completes.
-/

namespace SqlxCloudflare

open Fallible

variable {DB : Type}

/-! ## the shape of an answer -/

/-- A cursor as it is documented: its column names are strings, and its rows
are arrays of one value for each, of the types SQLite's values cross as. -/
structure Cursor.Tabular (cursor : Cursor DB) : Prop where
  names : ∃ names : List String, cursor.columnNames = names.map .string
  cells : ∀ row ∈ cursor.raw.rows, ∃ cells, row = .array cells ∧
    cells.length = cursor.columnNames.length ∧ ∀ cell ∈ cells, Convertible cell

/-- Every cursor of the storage is one. -/
def SqlStorage.Tabular (storage : SqlStorage DB) : Prop :=
  ∀ {sql parameters db cursor}, storage.exec sql parameters db = .ok cursor → cursor.Tabular

/-! ## the abstract statement -/

/-- The database a statement leaves when it is run to its end without
throwing. -/
def SqlStorage.completed (storage : SqlStorage DB) (sql : String) (parameters : List JsValue)
    (db : DB) : Option DB :=
  match storage.exec sql parameters db with
  | .error _ => none
  | .ok cursor =>
    match cursor.raw.toEnd with
    | .ok _ final => some final
    | .error _ _ => none

/-- A query, run to its end or without effect. -/
def SqlStorage.apply (storage : SqlStorage DB) (query : Query) (db : DB) : DB :=
  (query.sent.bind fun parameters => storage.completed query.sql parameters db).getD db

section

variable {storage : SqlStorage DB} {sql : String} {parameters : List JsValue} {db final : DB}
  {cursor : Cursor DB} {rows : List JsValue} {query : Query}

theorem completed_of_completes (h : storage.Completes sql parameters db cursor rows final) :
    storage.completed sql parameters db = some final := by
  simp only [SqlStorage.completed, h.exec, h.toEnd]

theorem completed_of_throws {error : JsValue}
    (h : storage.Throws sql parameters db error final) :
    storage.completed sql parameters db = none := by
  cases h with
  | exec h => simp only [SqlStorage.completed, h]
  | next cursor h hend => simp only [SqlStorage.completed, h, hend]

theorem apply_of_completes (hsent : query.sent = some parameters)
    (h : storage.Completes query.sql parameters db cursor rows final) :
    storage.apply query db = final := by
  rw [SqlStorage.apply, hsent, Option.bind_some, completed_of_completes h, Option.getD_some]

theorem apply_of_throws (hsent : query.sent = some parameters) {error : JsValue}
    (h : storage.Throws query.sql parameters db error final) : storage.apply query db = db := by
  rw [SqlStorage.apply, hsent, Option.bind_some, completed_of_throws h, Option.getD_none]

theorem apply_of_not_sent (hsent : query.sent = none) : storage.apply query db = db := by
  rw [SqlStorage.apply, hsent, Option.bind_none, Option.getD_none]

end

/-! ## reading a tabular cursor -/

section

variable [JsDebug] {iterator : RawIterator DB} {limit : Option ℕ} {final : DB}

omit [JsDebug] in
theorem rows_of_toEnd {values : List JsValue} (h : iterator.toEnd = .ok values final) :
    values = iterator.rows := by
  induction iterator generalizing values with
  | ended db | last _ db =>
      cases h
      rfl
  | throws db error final' => cases h
  | yields db row rest ih =>
      rw [RawIterator.toEnd] at h
      cases hrest : rest.toEnd with
      | ok values' final' =>
          rw [hrest] at h
          cases h
          rw [ih hrest, RawIterator.rows]
      | error error final' =>
          rw [hrest] at h
          cases h

/-- The loop over rows that can all be read stops only where the cursor
throws. -/
theorem readRows_of_toEnd_error {error : JsValue} (hend : iterator.toEnd = .error error final)
    (hrows : ∀ row ∈ iterator.rows, ReadableRow row) (taken : List (List Value)) :
    readRows limit taken iterator = .error (databaseError error) (.ended final) := by
  induction iterator generalizing taken with
  | ended db => cases hend
  | last db final' => cases hend
  | throws db error' final' =>
      cases hend
      rfl
  | yields db row rest ih =>
      rw [RawIterator.toEnd] at hend
      cases hrest : rest.toEnd with
      | ok values final' =>
          rw [hrest] at hend
          cases hend
      | error error' final' =>
          rw [hrest] at hend
          cases hend
          have hlater : ∀ row ∈ rest.rows, ReadableRow row :=
            fun row hrow => hrows row (List.mem_cons_of_mem _ hrow)
          rw [readRows]
          split
          · obtain ⟨values, hrow⟩ := (exists_readRow_iff row).mpr (hrows row List.mem_cons_self)
            simp only [hrow]
            exact ih hrest hlater _
          · exact ih hrest hlater _

/-- A tabular cursor has names, and rows that can be read under them. -/
theorem Cursor.Tabular.exists_rows {cursor : Cursor DB} (h : cursor.Tabular) (limit : Option ℕ) :
    ∃ names new rs, SqlxCloudflare.columnNames cursor.columnNames = .ok names ∧
      (wanted limit 0 cursor.raw.rows).mapM readRow = .ok new ∧
        Row.fromResult names new = .ok rs := by
  obtain ⟨names, hnames⟩ := h.names
  have hcolumns : SqlxCloudflare.columnNames cursor.columnNames = .ok names := by
    rw [hnames, SqlxCloudflare.columnNames, stringNames_map_string]
  have hwanted : ∀ row ∈ wanted limit 0 cursor.raw.rows, row ∈ cursor.raw.rows := by
    intro row hrow
    cases limit with
    | none => exact hrow
    | some limit => exact List.mem_of_mem_take hrow
  have hreads : ∀ row ∈ wanted limit 0 cursor.raw.rows, ∃ values, readRow row = .ok values := by
    intro row hrow
    obtain ⟨cells, hcells, _, hconvertible⟩ := h.cells row (hwanted row hrow)
    exact (exists_readRow_iff row).mpr ⟨cells, hcells, hconvertible⟩
  obtain ⟨new, hnew⟩ := exists_mapM_eq_ok_iff.mpr hreads
  have hlengths : ∀ values ∈ new, values.length = names.length := by
    intro values hvalues
    obtain ⟨row, hrow, hread⟩ := exists_mem_of_mapM_eq_ok hnew hvalues
    obtain ⟨cells, rfl, hlength, _⟩ := h.cells row (hwanted row hrow)
    rw [length_of_mapM_eq_ok hread, hlength, hnames, List.length_map]
  obtain ⟨rs, hrs⟩ := Row.exists_fromResult_iff.mpr hlengths
  exact ⟨names, new, rs, hcolumns, hnew, hrs⟩

omit [JsDebug] in
theorem Cursor.Tabular.readable {cursor : Cursor DB} (h : cursor.Tabular) :
    ∀ row ∈ cursor.raw.rows, ReadableRow row := by
  intro row hrow
  obtain ⟨cells, hcells, _, hconvertible⟩ := h.cells row hrow
  exact ⟨cells, hcells, hconvertible⟩

end

/-! ## `fetch` -/

section

variable [JsDebug] {storage : SqlStorage DB} {sql : String} {arguments : List Value}
  {parameters : List JsValue} {db : DB}

/-- What `fetch` comes to once its statement is sent: it throws, or completes. -/
theorem fetch_cases (h : storage.Tabular) (hbind : toJsArray arguments = .ok parameters)
    (limit : Option ℕ) (db : DB) :
    (∃ error final, storage.Throws sql parameters db error final ∧
        fetch storage sql arguments limit db = .error (databaseError error) final) ∨
      ∃ cursor values final rs, storage.Completes sql parameters db cursor values final ∧
        fetch storage sql arguments limit db = .ok (rs, asU64 cursor.rowsWritten) final := by
  cases hexec : storage.exec sql parameters db with
  | error thrown =>
      exact .inl ⟨thrown.1, thrown.2, .exec hexec, fetch_of_exec_error hbind hexec limit⟩
  | ok cursor =>
      have htabular := h hexec
      obtain ⟨names, new, rs, hnames, hnew, hrs⟩ := htabular.exists_rows limit
      cases hend : cursor.raw.toEnd with
      | error error final =>
          have hrows : readRows limit [] cursor.raw = .error (databaseError error) (.ended final) :=
            readRows_of_toEnd_error hend htabular.readable []
          have hcursor := readCursor_of_readRows_error hnames hrows
          exact .inl ⟨error, final, .next cursor hexec hend,
            fetch_of_readCursor_error hbind hexec hcursor⟩
      | ok values final =>
          have hcompletes : storage.Completes sql parameters db cursor values final := ⟨hexec, hend⟩
          rw [← rows_of_toEnd hend] at hnew
          exact .inr ⟨cursor, values, final, rs, hcompletes,
            fetch_of_completes hbind hcompletes hnames hnew hrs⟩

end

/-! ## on the storage of one table -/

namespace Memory

theorem rows_reads (names : List String) (rows : List JsValue) (n : ℤ) (db : Memory) :
    (reads names rows n db).raw.rows = rows := (rows_of_toEnd (toEnd_reads names rows n db)).symm

/-- A cursor over rows of numbers, one for each name. -/
theorem tabular_reads {names : List String} {rows : List JsValue} {n : ℤ} {db : Memory}
    (h : ∀ row ∈ rows, ∃ xs : List Ieee.F64, row = .array (xs.map .number) ∧
      xs.length = names.length) : (reads names rows n db).Tabular := by
  refine ⟨⟨names, rfl⟩, fun row hrow => ?_⟩
  rw [rows_reads] at hrow
  obtain ⟨xs, rfl, hlength⟩ := h row hrow
  refine ⟨_, rfl, by simp [reads, hlength], fun cell hcell => ?_⟩
  obtain ⟨x, _, rfl⟩ := List.mem_map.mp hcell
  trivial

theorem tabular : storage.Tabular := by
  intro sql parameters db cursor hexec
  obtain ⟨statement, _, hstepped⟩ := exec_eq_ok hexec
  cases hstepped with
  | inserted id names rows _ hrows =>
      refine tabular_reads fun r hr => ?_
      obtain ⟨rfl, hlength⟩ := hrows r hr
      exact ⟨[I64.asF64 id], rfl, hlength.symm⟩
  | created name => exact tabular_reads fun r hr => by cases hr
  | selected =>
      refine tabular_reads fun r hr => ?_
      obtain ⟨id, _, rfl⟩ := List.mem_map.mp hr
      exact ⟨[I64.asF64 id], rfl, rfl⟩
  | counted =>
      refine tabular_reads fun r hr => ?_
      obtain rfl := List.mem_singleton.mp hr
      exact ⟨[I64.asF64 db.changes, I64.asF64 db.lastInsertRowid], rfl, rfl⟩

end Memory

end SqlxCloudflare
