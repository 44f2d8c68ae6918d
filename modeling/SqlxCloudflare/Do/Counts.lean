import SqlxCloudflare.Core.Access
import SqlxCloudflare.Do.Sqlite

/-!
# SqlxCloudflare.Do.Counts

`execute` is two statements: the one it is given and, after a write, the query
for SQLite's counts.  An error of the second is returned when the first has
already taken effect, and a row of it that is short is a panic.

* `execute_of_reportable`, `execute_of_not_reportable` -- a statement that wrote
  succeeds when its counts can be reported, and fails with its effect in place
  when they cannot;
* `torn_of_execute_panic` -- the one panic there is;
* `execute_ends` -- all the cases `execute` comes to, with SQLite's counts;
* `execute_error_undone_iff` -- so an error means that nothing happened exactly
  when the counts can be reported.
-/

namespace SqlxCloudflare

open Fallible

/-- The query's arguments can be sent, as `parameters`. -/
def Query.Sends (query : Query) (parameters : List JsValue) : Prop :=
  ∃ arguments, query.arguments = .ok arguments ∧
    toJsArray (argumentsOf arguments) = .ok parameters

/-- The cursor's column names are all strings. -/
def Cursor.StringNames {DB : Type} (cursor : Cursor DB) : Prop :=
  ∃ names, SqlxCloudflare.columnNames cursor.columnNames = .ok names

/-- What a statement that left `final` did can be reported: it wrote nothing,
or its counts survive crossing as doubles. -/
def SqlStorage.Counts.Reports {DB : Type} {storage : SqlStorage DB} (c : storage.Counts)
    (cursor : Cursor DB) (final : DB) : Prop :=
  (asU64 cursor.rowsWritten).val = 0 ∨ Reportable (c.changes final) (c.lastInsertRowid final)

section

variable {DB : Type} {storage : SqlStorage DB} [JsDebug] {sql : String} {arguments : List Value}
  {parameters : List JsValue} {db final : DB} {cursor : Cursor DB} {rows : List JsValue}

/-! ## `execute`, from its first statement -/

section

variable {limit : Option ℕ} {fetched : List Row} {written : U64}

theorem execute_of_fetch_error {error : Error}
    (h : fetch storage sql arguments limit db = .error error final) :
    execute storage sql arguments limit db = .error (.err error) final :=
  run_bind_of_error (run_returning_of_error h)

theorem execute_of_wrote_nothing
    (h : fetch storage sql arguments limit db = .ok (fetched, written) final)
    (hwritten : written.val = 0) :
    execute storage sql arguments limit db = .ok (fetched, .default) final := by
  rw [execute, run_bind_of_ok (run_returning_of_ok h)]
  simp only [hwritten, if_true, run_pure]

/-- After a statement that wrote, the counts are fetched. -/
theorem execute_of_counts {counts : List Row} {n : U64} {after : DB}
    (h : fetch storage sql arguments limit db = .ok (fetched, written) after)
    (hwritten : written.val ≠ 0)
    (hcounts : fetch storage countsSql [] none after = .ok (counts, n) final) :
    execute storage sql arguments limit db =
      match queryResult counts with
      | .ok result => .ok (fetched, result) final
      | .error stop => .error stop final := by
  rw [execute, run_bind_of_ok (run_returning_of_ok h)]
  simp only [hwritten, if_false]
  rw [run_bind_of_ok (run_returning_of_ok hcounts)]
  cases queryResult counts with
  | ok result => rw [run_bind_of_ok (run_lift_ok _ _), run_pure]
  | error stop => rw [run_bind_of_error (run_lift_error _ _)]

theorem execute_of_counts_error {after : DB} {error : Error}
    (h : fetch storage sql arguments limit db = .ok (fetched, written) after)
    (hwritten : written.val ≠ 0)
    (hcounts : fetch storage countsSql [] none after = .error error final) :
    execute storage sql arguments limit db = .error (.err error) final := by
  rw [execute, run_bind_of_ok (run_returning_of_ok h)]
  simp only [hwritten, if_false]
  exact run_bind_of_error (run_returning_of_error hcounts)

/-- A statement that wrote is reported by its counts, if they can be. -/
theorem execute_of_reportable (c : storage.Counts)
    (h : fetch storage sql arguments limit db = .ok (fetched, written) final)
    (hwritten : written.val ≠ 0)
    (hreportable : Reportable (c.changes final) (c.lastInsertRowid final)) :
    execute storage sql arguments limit db = .ok (fetched, hreportable.result) final := by
  obtain ⟨row, n, hcounts, hrow⟩ := fetch_counts c final
  rw [execute_of_counts h hwritten hcounts, queryResult_of_reportable hrow hreportable]

/-- The counts are read only once the statement is done, so one that cannot be
reported fails with its effect in place. -/
theorem execute_of_not_reportable (c : storage.Counts)
    (h : fetch storage sql arguments limit db = .ok (fetched, written) final)
    (hwritten : written.val ≠ 0)
    (hreportable : ¬Reportable (c.changes final) (c.lastInsertRowid final)) :
    ∃ source, execute storage sql arguments limit db = .error (.err (.decode source)) final := by
  obtain ⟨row, n, hcounts, hrow⟩ := fetch_counts c final
  obtain ⟨source, hsource⟩ := queryResult_of_not_reportable hrow hreportable
  refine ⟨source, ?_⟩
  rw [execute_of_counts h hwritten hcounts, hsource]

end

/-! ## the panic -/

/-- The counts come back as a row without both of its columns. -/
def SqlStorage.Torn (storage : SqlStorage DB) (db : DB) : Prop :=
  ∃ row rest written final,
    fetch storage countsSql [] none db = .ok (row :: rest, written) final ∧ row.values.length < 2

omit [JsDebug] in
theorem length_le_of_valueAt_panic {row : Row} {i : ℕ} {panic : Panic}
    (h : row.valueAt i = .error (.panic panic)) : row.values.length ≤ i := by
  rw [Row.valueAt] at h
  split at h
  · cases h
  · next hnone => exact List.getElem?_eq_none_iff.mp hnone

omit [JsDebug] in
theorem queryResult_panic {counts : List Row} {panic : Panic}
    (h : queryResult counts = .error (.panic panic)) :
    ∃ row rest, counts = row :: rest ∧ row.values.length < 2 := by
  cases counts with
  | nil => cases h
  | cons row rest =>
      refine ⟨row, rest, rfl, ?_⟩
      rcases bind_eq_error_iff.mp h with hfirst | ⟨first, _, h⟩
      · have := length_le_of_valueAt_panic hfirst
        omega
      rcases bind_eq_error_iff.mp h with hint | ⟨changes, _, h⟩
      · exact absurd hint (returns_ne_panic _ panic)
      rcases bind_eq_error_iff.mp h with hsecond | ⟨second, _, h⟩
      · have := length_le_of_valueAt_panic hsecond
        omega
      rcases bind_eq_error_iff.mp h with hint | ⟨rowid, _, h⟩
      · exact absurd hint (returns_ne_panic _ panic)
      split at h
      · cases h
      · cases h

/-- `execute` panics only over the counts of a statement that wrote. -/
theorem torn_of_execute_panic {limit : Option ℕ} {panic : Panic}
    (h : execute storage sql arguments limit db = .error (.panic panic) final) :
    ∃ fetched written after,
      fetch storage sql arguments limit db = .ok (fetched, written) after ∧
        written.val ≠ 0 ∧ storage.Torn after := by
  cases hfetch : fetch storage sql arguments limit db with
  | error error after =>
      rw [execute_of_fetch_error hfetch] at h
      cases h
  | ok result after =>
      obtain ⟨fetched, written⟩ := result
      by_cases hwritten : written.val = 0
      · rw [execute_of_wrote_nothing hfetch hwritten] at h
        cases h
      · refine ⟨fetched, written, after, rfl, hwritten, ?_⟩
        cases hcounts : fetch storage countsSql [] none after with
        | error error left =>
            rw [execute_of_counts_error hfetch hwritten hcounts] at h
            cases h
        | ok result left =>
            obtain ⟨counts, n⟩ := result
            rw [execute_of_counts hfetch hwritten hcounts] at h
            cases hresult : queryResult counts with
            | ok result =>
                rw [hresult] at h
                cases h
            | error stop =>
                rw [hresult] at h
                cases h
                obtain ⟨row, rest, rfl, hlength⟩ := queryResult_panic hresult
                exact ⟨row, rest, n, _, hcounts, hlength⟩

/-- A row of a result has as many values as its cursor has column names. -/
theorem length_of_fetch {limit : Option ℕ} {fetched : List Row} {written : U64}
    (h : fetch storage sql arguments limit db = .ok (fetched, written) final) :
    ∃ parameters cursor, toJsArray arguments = .ok parameters ∧
      storage.exec sql parameters db = .ok cursor ∧
        ∀ row ∈ fetched, row.values.length = cursor.columnNames.length := by
  cases hbind : toJsArray arguments with
  | error error =>
      rw [fetch_of_toJsArray_error hbind] at h
      cases h
  | ok parameters =>
      cases hexec : storage.exec sql parameters db with
      | error thrown =>
          rw [fetch_of_exec_error hbind hexec] at h
          cases h
      | ok cursor =>
          refine ⟨parameters, cursor, rfl, hexec, ?_⟩
          cases hnames : columnNames cursor.columnNames with
          | error error =>
              rw [fetch_of_columnNames_error hbind hexec hnames] at h
              cases h
          | ok names =>
              cases hrows : readRows limit [] cursor.raw with
              | error error left =>
                  have hcursor := readCursor_of_readRows_error hnames hrows
                  rw [fetch_of_readCursor_error hbind hexec hcursor] at h
                  cases h
              | ok values left =>
                  have hcursor := readCursor_of_readRows hnames hrows
                  cases hresult : Row.fromResult names values with
                  | error error =>
                      rw [hresult] at hcursor
                      rw [fetch_of_readCursor_error hbind hexec hcursor] at h
                      cases h
                  | ok rs =>
                      rw [hresult] at hcursor
                      rw [fetch_of_readCursor hbind hexec hcursor] at h
                      cases h
                      obtain ⟨hlengths, rfl⟩ := Row.fromResult_eq_ok_iff.mp hresult
                      intro row hrow
                      obtain ⟨values', hvalues', rfl⟩ := List.mem_map.mp hrow
                      rw [hlengths values' hvalues', length_of_mapM_eq_ok hnames]

/-- Counts of two columns are not torn. -/
theorem SqlStorage.CountsColumns.not_torn (h : storage.CountsColumns) (db : DB) :
    ¬storage.Torn db := by
  rintro ⟨row, rest, written, final, hcounts, hlength⟩
  obtain ⟨parameters, cursor, hbind, hexec, hrows⟩ := length_of_fetch hcounts
  cases hbind
  have htwo := h db cursor hexec
  have hrow := hrows row List.mem_cons_self
  omega

/-! ## `run`, case by case -/

theorem run_of_fetch_error {error : Error}
    (h : fetch storage sql arguments (some 0) db = .error error final) :
    run storage sql arguments db = .error (.err error) final := by
  have hexecute := execute_of_fetch_error h
  exact run_map_of_error hexecute

/-- The first statement of `run`: it converts no row, so a statement that
completes fails only for its column names. -/
theorem fetch_zero_of_completes (hbind : toJsArray arguments = .ok parameters)
    (h : storage.Completes sql parameters db cursor rows final) (hnames : cursor.StringNames) :
    fetch storage sql arguments (some 0) db = .ok ([], asU64 cursor.rowsWritten) final := by
  obtain ⟨names, hnames⟩ := hnames
  exact fetch_of_completes hbind h hnames rfl rfl

theorem run_of_wrote_nothing (hbind : toJsArray arguments = .ok parameters)
    (h : storage.Completes sql parameters db cursor rows final) (hnames : cursor.StringNames)
    (hwritten : (asU64 cursor.rowsWritten).val = 0) :
    run storage sql arguments db = .ok .default final := by
  have hexecute := execute_of_wrote_nothing (fetch_zero_of_completes hbind h hnames) hwritten
  exact run_map_of_ok hexecute

theorem run_of_reportable (c : storage.Counts) (hbind : toJsArray arguments = .ok parameters)
    (h : storage.Completes sql parameters db cursor rows final) (hnames : cursor.StringNames)
    (hwritten : (asU64 cursor.rowsWritten).val ≠ 0)
    (hreportable : Reportable (c.changes final) (c.lastInsertRowid final)) :
    run storage sql arguments db = .ok hreportable.result final := by
  have hexecute := execute_of_reportable c (fetch_zero_of_completes hbind h hnames) hwritten
    hreportable
  exact run_map_of_ok hexecute

theorem run_of_not_reportable (c : storage.Counts) (hbind : toJsArray arguments = .ok parameters)
    (h : storage.Completes sql parameters db cursor rows final) (hnames : cursor.StringNames)
    (hwritten : (asU64 cursor.rowsWritten).val ≠ 0)
    (hreportable : ¬Reportable (c.changes final) (c.lastInsertRowid final)) :
    ∃ source, run storage sql arguments db = .error (.err (.decode source)) final := by
  obtain ⟨source, hexecute⟩ := execute_of_not_reportable c
    (fetch_zero_of_completes hbind h hnames) hwritten hreportable
  exact ⟨source, run_map_of_error hexecute⟩

/-- A statement that completes succeeds when it can be reported. -/
theorem run_of_reports (c : storage.Counts) (hbind : toJsArray arguments = .ok parameters)
    (h : storage.Completes sql parameters db cursor rows final) (hnames : cursor.StringNames)
    (hreports : c.Reports cursor final) :
    ∃ result, run storage sql arguments db = .ok result final := by
  by_cases hwritten : (asU64 cursor.rowsWritten).val = 0
  · exact ⟨_, run_of_wrote_nothing hbind h hnames hwritten⟩
  · exact ⟨_, run_of_reportable c hbind h hnames hwritten (hreports.resolve_left hwritten)⟩

theorem run_of_not_reports (c : storage.Counts) (hbind : toJsArray arguments = .ok parameters)
    (h : storage.Completes sql parameters db cursor rows final) (hnames : cursor.StringNames)
    (hreports : ¬c.Reports cursor final) :
    ∃ source, run storage sql arguments db = .error (.err (.decode source)) final :=
  run_of_not_reportable c hbind h hnames (fun h => hreports (.inl h)) fun h => hreports (.inr h)

/-- A statement whose column names are not strings is given up after `exec`. -/
theorem run_of_not_stringNames (hbind : toJsArray arguments = .ok parameters)
    (h : storage.exec sql parameters db = .ok cursor) (hnames : ¬cursor.StringNames) :
    ∃ error, run storage sql arguments db = .error (.err error) cursor.raw.db := by
  cases hcolumns : columnNames cursor.columnNames with
  | ok names => exact absurd ⟨names, hcolumns⟩ hnames
  | error error =>
      exact ⟨error, run_of_fetch_error (fetch_of_columnNames_error hbind h hcolumns _)⟩

/-! ## the executor's `execute` -/

variable {query : Query}

theorem execute_of_arguments_error {source : BoxDynError}
    (h : query.arguments = .error source) (db : DB) :
    Executor.execute storage query db = .error (.err (.encode source)) db := by
  have htake : take query = .error (.encode source) := by
    rw [take, h]
    rfl
  rw [Executor.execute, htake, returns_error, run_bind_of_error (run_lift_error _ _)]

theorem execute_of_arguments_ok {arguments : Option Arguments}
    (h : query.arguments = .ok arguments) (db : DB) :
    Executor.execute storage query db = run storage query.sql (argumentsOf arguments) db := by
  have htake : take query = .ok (query.sql, arguments) := by
    rw [take, h]
    rfl
  rw [Executor.execute, htake, returns_ok, run_bind_of_ok (run_lift_ok _ _)]

/-- A query whose arguments cannot be sent is not run. -/
theorem execute_of_not_sends (h : ∀ parameters, ¬query.Sends parameters) (db : DB) :
    ∃ error, Executor.execute storage query db = .error (.err error) db := by
  cases harguments : query.arguments with
  | error source => exact ⟨_, execute_of_arguments_error harguments db⟩
  | ok arguments =>
      cases hbind : toJsArray (argumentsOf arguments) with
      | ok parameters => exact absurd ⟨arguments, harguments, hbind⟩ (h parameters)
      | error error =>
          refine ⟨error, ?_⟩
          rw [execute_of_arguments_ok harguments]
          exact run_of_fetch_error (fetch_of_toJsArray_error hbind _)

/-- What `execute` comes to, case by case. -/
inductive Ends (c : storage.Counts) (query : Query) (db : DB) :
    EStateM.Result (Stop Error) DB QueryResult → Prop where
  /-- Nothing is run. -/
  | notSent (error : Error) (h : ∀ parameters, ¬query.Sends parameters) :
      Ends c query db (.error (.err error) db)
  | throws (parameters : List JsValue) (error : JsValue) (final : DB)
      (h : storage.Throws query.sql parameters db error final) :
      Ends c query db (.error (.err (databaseError error)) final)
  /-- The cursor is not read. -/
  | givenUp (parameters : List JsValue) (cursor : Cursor DB) (error : Error)
      (hsends : query.Sends parameters) (hexec : storage.exec query.sql parameters db = .ok cursor)
      (hnames : ¬cursor.StringNames) : Ends c query db (.error (.err error) cursor.raw.db)
  | wroteNothing (parameters : List JsValue) (cursor : Cursor DB) (rows : List JsValue)
      (final : DB) (hsends : query.Sends parameters)
      (h : storage.Completes query.sql parameters db cursor rows final)
      (hwritten : (asU64 cursor.rowsWritten).val = 0) : Ends c query db (.ok .default final)
  | reportable (parameters : List JsValue) (cursor : Cursor DB) (rows : List JsValue)
      (final : DB) (hsends : query.Sends parameters)
      (h : storage.Completes query.sql parameters db cursor rows final)
      (hwritten : (asU64 cursor.rowsWritten).val ≠ 0)
      (hreportable : Reportable (c.changes final) (c.lastInsertRowid final)) :
      Ends c query db (.ok hreportable.result final)
  /-- The statement is done, and the counts cannot be read. -/
  | notReported (parameters : List JsValue) (cursor : Cursor DB) (rows : List JsValue)
      (final : DB) (error : Error) (hsends : query.Sends parameters)
      (h : storage.Completes query.sql parameters db cursor rows final)
      (hnames : cursor.StringNames) (hreports : ¬c.Reports cursor final) :
      Ends c query db (.error (.err error) final)

/-- The cases are all there are. -/
theorem execute_ends (c : storage.Counts) (query : Query) (db : DB) :
    Ends c query db (Executor.execute storage query db) := by
  by_cases hsends : ∃ parameters, query.Sends parameters
  · obtain ⟨parameters, hsends⟩ := hsends
    obtain ⟨arguments, harguments, hbind⟩ := id hsends
    rw [execute_of_arguments_ok harguments]
    cases hexec : storage.exec query.sql parameters db with
    | error thrown =>
        rw [run_of_fetch_error (fetch_of_exec_error hbind hexec _)]
        exact .throws parameters thrown.1 thrown.2 (.exec hexec)
    | ok cursor =>
        by_cases hnames : cursor.StringNames
        · cases hend : cursor.raw.toEnd with
          | error thrown final =>
              obtain ⟨names, hcolumns⟩ := hnames
              rw [run_of_fetch_error (fetch_zero_of_toEnd_error hbind hexec hcolumns hend)]
              exact .throws parameters thrown final (.next cursor hexec hend)
          | ok rows final =>
              have hcompletes : storage.Completes query.sql parameters db cursor rows final :=
                ⟨hexec, hend⟩
              by_cases hwritten : (asU64 cursor.rowsWritten).val = 0
              · rw [run_of_wrote_nothing hbind hcompletes hnames hwritten]
                exact .wroteNothing parameters cursor rows final hsends hcompletes hwritten
              by_cases hreportable : Reportable (c.changes final) (c.lastInsertRowid final)
              · rw [run_of_reportable c hbind hcompletes hnames hwritten hreportable]
                exact .reportable parameters cursor rows final hsends hcompletes hwritten
                  hreportable
              · obtain ⟨source, hsource⟩ :=
                  run_of_not_reportable c hbind hcompletes hnames hwritten hreportable
                rw [hsource]
                exact .notReported parameters cursor rows final (.decode source) hsends hcompletes
                  hnames fun h => h.elim hwritten hreportable
        · obtain ⟨error, herror⟩ := run_of_not_stringNames hbind hexec hnames
          rw [herror]
          exact .givenUp parameters cursor error hsends hexec hnames
  · have hnone : ∀ parameters, ¬query.Sends parameters := fun parameters h =>
      hsends ⟨parameters, h⟩
    obtain ⟨error, herror⟩ := execute_of_not_sends hnone db
    rw [herror]
    exact .notSent error hnone

/-- What a success of `execute` says: the statement completed, and the result
is the default after one that wrote nothing, and its counts after any other. -/
structure Reported (c : storage.Counts) (query : Query) (db : DB) (parameters : List JsValue)
    (cursor : Cursor DB) (result : QueryResult) (final : DB) : Prop where
  sends : query.Sends parameters
  completes : ∃ rows, storage.Completes query.sql parameters db cursor rows final
  counts : (asU64 cursor.rowsWritten).val = 0 ∧ result = .default ∨
    (asU64 cursor.rowsWritten).val ≠ 0 ∧
      ∃ h : Reportable (c.changes final) (c.lastInsertRowid final), result = h.result

theorem reported_of_execute (c : storage.Counts) {result : QueryResult}
    (h : Executor.execute storage query db = .ok result final) :
    ∃ parameters cursor, Reported c query db parameters cursor result final := by
  have hends := execute_ends c query db
  rw [h] at hends
  cases hends with
  | wroteNothing parameters cursor rows final hsends hcompletes hwritten =>
      exact ⟨parameters, cursor, hsends, ⟨rows, hcompletes⟩, .inl ⟨hwritten, rfl⟩⟩
  | reportable parameters cursor rows final hsends hcompletes hwritten hreportable =>
      exact ⟨parameters, cursor, hsends, ⟨rows, hcompletes⟩, .inr ⟨hwritten, hreportable, rfl⟩⟩

/-- When an error of `execute` leaves the database as it was: a cursor that is
given up has done nothing, and a statement that completes can be reported or
has changed nothing. -/
def ErrorUndone (c : storage.Counts) (query : Query) (db : DB) : Prop :=
  ∀ parameters cursor, query.Sends parameters →
    storage.exec query.sql parameters db = .ok cursor →
      (¬cursor.StringNames → cursor.raw.db = db) ∧
        (cursor.StringNames → ∀ rows final, cursor.raw.toEnd = .ok rows final →
          c.Reports cursor final ∨ final = db)

theorem error_undone_of (c : storage.Counts) (hrestores : storage.Restores)
    (h : ErrorUndone c query db) {error : Error} {db' : DB}
    (herror : Executor.execute storage query db = .error (.err error) db') : db' = db := by
  have hends := execute_ends c query db
  rw [herror] at hends
  cases hends with
  | notSent error hnone => rfl
  | throws parameters thrown final hthrows => exact hrestores _ _ _ _ _ hthrows
  | givenUp parameters cursor error hsends hexec hnames =>
      exact (h parameters cursor hsends hexec).1 hnames
  | notReported parameters cursor rows final error hsends hcompletes hnames hreports =>
      have hdone := (h parameters cursor hsends hcompletes.exec).2 hnames rows _ hcompletes.toEnd
      exact hdone.resolve_left hreports

theorem of_error_undone (c : storage.Counts)
    (h : ∀ error db', Executor.execute storage query db = .error (.err error) db' → db' = db) :
    ErrorUndone c query db := by
  rintro parameters cursor ⟨arguments, harguments, hbind⟩ hexec
  rw [execute_of_arguments_ok harguments] at h
  refine ⟨fun hnames => ?_, fun hnames rows final hend => ?_⟩
  · obtain ⟨error, herror⟩ := run_of_not_stringNames hbind hexec hnames
    exact h _ _ herror
  · by_cases hreports : c.Reports cursor final
    · exact .inl hreports
    · obtain ⟨source, hsource⟩ := run_of_not_reports c hbind ⟨hexec, hend⟩ hnames hreports
      exact .inr (h _ _ hsource)

/-- **When an error means that nothing happened**: an error of `execute`
leaves the database as it was exactly when `ErrorUndone` holds, and every
statement that completes makes `execute` succeed exactly when every one can be
reported -- it wrote nothing, or `changes()` and `last_insert_rowid()` after it
are within ±(2^53 − 1). -/
theorem execute_error_undone_iff (c : storage.Counts) (hrestores : storage.Restores)
    (query : Query) (db : DB) :
    ((∀ error db', Executor.execute storage query db = .error (.err error) db' → db' = db) ↔
        ErrorUndone c query db) ∧
      ((∀ parameters cursor rows final, query.Sends parameters →
          storage.Completes query.sql parameters db cursor rows final →
            ∃ result, Executor.execute storage query db = .ok result final) ↔
        ∀ parameters cursor rows final, query.Sends parameters →
          storage.Completes query.sql parameters db cursor rows final →
            cursor.StringNames ∧ c.Reports cursor final) := by
  refine ⟨⟨of_error_undone c, fun h error db' => error_undone_of c hrestores h⟩, ?_⟩
  refine forall₅_congr fun parameters cursor rows final hsends => ?_
  obtain ⟨arguments, harguments, hbind⟩ := hsends
  rw [execute_of_arguments_ok harguments]
  refine forall_congr' fun hcompletes => ?_
  constructor
  · rintro ⟨result, hok⟩
    by_cases hnames : cursor.StringNames
    · by_cases hreports : c.Reports cursor final
      · exact ⟨hnames, hreports⟩
      · obtain ⟨source, hsource⟩ := run_of_not_reports c hbind hcompletes hnames hreports
        rw [hsource] at hok
        cases hok
    · obtain ⟨error, herror⟩ := run_of_not_stringNames hbind hcompletes.exec hnames
      rw [herror] at hok
      cases hok
  · rintro ⟨hnames, hreports⟩
    exact run_of_reports c hbind hcompletes hnames hreports

end

/-! ## on the storage of one table -/

namespace Memory

theorem val_reads (names : List String) (rows : List JsValue) (db : Memory) {n : ℤ} (hlo : 0 ≤ n)
    (hhi : n < 2 ^ 53) : (asU64 (reads names rows n db).rowsWritten).val = n := by
  have hrat : (Ieee.Binary.ofInt Ieee.binary64 n).toRat? = some (n : ℚ) :=
    Ieee.toRat?_ofInt_binary64 (by rw [abs_of_nonneg hlo]; exact hhi)
  exact val_asU64 hrat hlo (by omega)

variable {sql : String} {db : Memory}

theorem stringNames_written (n : ℤ) : (written n db).StringNames := ⟨[], rfl⟩

variable [JsDebug] {id : I64}

/-- The statement `execute` starts with: it has inserted the row. -/
theorem fetch_insert (hsql : statements.lookup sql = some (.insert id)) (hid : id ∉ db.rows)
    (limit : Option ℕ) :
    ∃ written, fetch storage sql [] limit db = .ok ([], written) (db.inserted id) ∧
      written.val ≠ 0 := by
  have hstep : step db [] (.insert id) = .ok (written 1 (db.inserted id)) := if_neg hid
  have hbind : toJsArray [] = .ok [] := rfl
  have hrows : (wanted limit 0 []).mapM readRow = .ok [] := by
    rw [wanted_nil]
    rfl
  refine ⟨_, fetch_of_completes hbind (completes_of_step hsql [] hstep rfl) rfl hrows rfl, ?_⟩
  rw [written, val_reads _ _ _ (by norm_num) (by norm_num)]
  decide

omit [JsDebug] in
/-- The counts after an insert can be reported when its rowid can. -/
theorem reportable_inserted (hsafe : Safe id.val) :
    Reportable (counts.changes (db.inserted id)) (counts.lastInsertRowid (db.inserted id)) :=
  ⟨show (0 : ℤ) ≤ 1 by decide, show Safe 1 by decide, hsafe⟩

/-- A row is inserted, and reported when its rowid can be. -/
theorem execute_insert (hsql : statements.lookup sql = some (.insert id)) (hid : id ∉ db.rows)
    (hsafe : Safe id.val) (limit : Option ℕ) :
    SqlxCloudflare.execute storage sql [] limit db =
      .ok ([], insertResult id) (db.inserted id) := by
  obtain ⟨written, hfetch, hwritten⟩ := fetch_insert hsql hid limit
  exact execute_of_reportable counts hfetch hwritten (reportable_inserted hsafe)

/-- A row whose rowid cannot be reported is inserted all the same. -/
theorem execute_insert_of_not_safe (hsql : statements.lookup sql = some (.insert id))
    (hid : id ∉ db.rows) (hsafe : ¬Safe id.val) (limit : Option ℕ) :
    ∃ source, SqlxCloudflare.execute storage sql [] limit db =
      .error (.err (.decode source)) (db.inserted id) := by
  obtain ⟨written, hfetch, hwritten⟩ := fetch_insert hsql hid limit
  exact execute_of_not_reportable counts hfetch hwritten fun h => hsafe h.2.2

/-- The same through the executor. -/
theorem executor_execute_insert (hsql : statements.lookup sql = some (.insert id))
    (hid : id ∉ db.rows) (hsafe : Safe id.val) :
    Executor.execute storage (query sql) db =
      .ok (insertResult id) (db.inserted id) := by
  have hexecute := execute_insert hsql hid hsafe (some 0)
  rw [execute_of_arguments_ok rfl]
  exact run_map_of_ok hexecute

/-- A row as it is returned. -/
def returnedRow (id : I64) : Row := oneColumn "id" (storedAs id)

/-- The row that is bound is inserted and returned. -/
theorem execute_insertReturning (hid : id ∉ db.rows) (hsafe : Safe id.val) :
    SqlxCloudflare.execute storage "INSERT INTO t VALUES (?) RETURNING id" [.integer id] none db =
      .ok ([returnedRow id], insertResult id) (db.inserted id) := by
  have hbind : toJsArray [.integer id] = .ok [.number (I64.asF64 id)] := by
    rw [toJsArray, List.mapM_cons, List.mapM_nil, toJs, safeInteger_of_safe hsafe]
    rfl
  have hbound : bound [.number (I64.asF64 id)] = some id := by
    rw [bound, fromNumber_asF64, storedAs, if_pos hsafe]
  have hstep : step db [.number (I64.asF64 id)] .insertReturning =
      .ok (reads ["id"] [row id] 1 (db.inserted id)) := by
    rw [step, hbound]
    exact if_neg hid
  have hcompletes : storage.Completes "INSERT INTO t VALUES (?) RETURNING id"
      [.number (I64.asF64 id)] db (reads ["id"] [row id] 1 (db.inserted id)) [row id]
        (db.inserted id) := completes_of_step rfl _ hstep (toEnd_reads _ _ _ _)
  have hrow : (wanted none 0 [row id]).mapM readRow = .ok [[storedAs id]] :=
    mapM_eq_ok_iff.mpr (.cons (mapM_eq_ok_iff.mpr (.cons (fromJs_asF64 id) .nil)) .nil)
  have hresult : Row.fromResult ["id"] [[storedAs id]] = .ok [returnedRow id] := by
    rw [returnedRow, storedAs]
    split <;> rfl
  refine execute_of_reportable counts (fetch_of_completes hbind hcompletes rfl hrow hresult) ?_
    (reportable_inserted hsafe)
  rw [val_reads _ _ _ (by norm_num) (by norm_num)]
  decide

/-- A query of the rows, which writes none. -/
theorem executor_execute_select :
    Executor.execute storage (query "SELECT id FROM t") db = .ok .default db := by
  have hcompletes : storage.Completes "SELECT id FROM t" [] db
      (reads ["id"] (db.rows.map row) 0 db) (db.rows.map row) db :=
    completes_of_step rfl [] rfl (toEnd_reads _ _ _ _)
  have hwritten := val_reads ["id"] (db.rows.map row) db le_rfl (by norm_num)
  rw [execute_of_arguments_ok rfl]
  exact run_of_wrote_nothing rfl hcompletes ⟨["id"], rfl⟩ hwritten

end Memory

/-- An insert whose rowid can be reported succeeds. -/
theorem execute_error_undone_insert :
    letI := JsDebug.describing
    ∃ result, Executor.execute Memory.storage (Memory.query "INSERT INTO t VALUES (1)") .empty =
      .ok result (Memory.empty.inserted Memory.one) := by
  let := JsDebug.describing
  have hcompletes : Memory.storage.Completes "INSERT INTO t VALUES (1)" [] .empty
      (Memory.written 1 (Memory.empty.inserted Memory.one)) []
      (Memory.empty.inserted Memory.one) := Memory.completes_of_step rfl [] rfl rfl
  refine (execute_error_undone_iff Memory.counts Memory.restores _ _).2.mpr ?_ [] _ _ _
    ⟨none, rfl, rfl⟩ hcompletes
  rintro parameters cursor rows final _ ⟨hexec, hend⟩
  cases hexec
  cases hend
  exact ⟨Memory.stringNames_written 1, .inr (by decide)⟩

/-- An insert with an explicit rowid of 2^53 fails, and the row is there. -/
theorem not_execute_error_undone :
    letI := JsDebug.describing
    ¬∀ error db', Executor.execute Memory.storage
      (Memory.query "INSERT INTO t VALUES (9007199254740992)") .empty =
        .error (.err error) db' → db' = .empty := by
  let := JsDebug.describing
  intro h
  have hinserted : ∃ source, execute Memory.storage
      "INSERT INTO t VALUES (9007199254740992)" [] (some 0) .empty =
        .error (.err (.decode source)) (Memory.empty.inserted ⟨2 ^ 53, by norm_num, by norm_num⟩) :=
    Memory.execute_insert_of_not_safe rfl (by decide) (by decide) _
  obtain ⟨source, hsource⟩ := hinserted
  have hrun : run Memory.storage "INSERT INTO t VALUES (9007199254740992)" [] .empty =
      .error (.err (.decode source))
        (Memory.empty.inserted ⟨2 ^ 53, by norm_num, by norm_num⟩) := run_map_of_error hsource
  rw [execute_of_arguments_ok rfl] at h
  have hrows := congrArg Memory.rows (h _ _ hrun)
  cases hrows

end SqlxCloudflare
