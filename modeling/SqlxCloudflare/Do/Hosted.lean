import SqlxCloudflare.Do.Session
import SqlxCloudflare.Drivers.Engine

/-!
# SqlxCloudflare.Do.Hosted

An engine behind Durable Object storage.  `DoConnection.Hosts` says what the
storage answers with for each of the engine's effects -- a cursor over its
rows, and counts that are the statement's own -- and `session_hosted` that the
driver then tells exactly what the engine does, batches being transactions of
one statement after another.  A statement that writes rows it does not count,
as those that change the schema do, is not such an effect.
-/

namespace SqlxCloudflare

open Executor Fallible

variable {S DB : Type}

/-! ## what the storage answers with -/

/-- The counts kept after a statement: of its own changes, if it wrote. -/
def SqlStorage.Counts.Tells {storage : SqlStorage DB} (c : storage.Counts) (cursor : Cursor DB)
    (final : DB) (e : Effect S) : Prop :=
  ((asU64 cursor.rowsWritten).val = 0 ∧ e.affected.val = 0) ∨
    ((asU64 cursor.rowsWritten).val ≠ 0 ∧ c.changes final = e.affected ∧
      Safe (c.lastInsertRowid final).val)

/-- The storage has the engine's database, of which `view` is what there is to
see, and answers with what its statements come to; it runs every transaction,
and commits what succeeds. -/
structure DoConnection.Hosts (connection : DoConnection DB) (engine : Engine S) where
  documented : connection.Documented
  view : DB → S
  exec : ∀ query parameters, query.sent = some parameters → ∀ db,
    (∀ e, engine.query query (view db) = some e →
      ∃ cursor final, connection.sql.exec query.sql parameters db = .ok cursor ∧
        cursor.Delivers e.names e.rows final ∧ documented.counts.Tells cursor final e ∧
        view final = e.final) ∧
    (engine.query query (view db) = none →
      ∃ error final, connection.sql.Throws query.sql parameters db error final)
  commits : ∀ {T : Type} (closure : T → EStateM Panic DB (Except WorkerError Unit × T)) (t t' : T)
    (db left : DB) (result : Except WorkerError Unit), closure t db = .ok (result, t') left →
      ∃ report slot final, connection.storage.transaction closure t db =
        .ok ⟨report, true, slot⟩ final ∧ (result = .ok () → report = .ok ())

section

variable [JsDebug] {connection : DoConnection DB} {engine : Engine S}

/-! ## what the driver makes of it -/

variable {query : Query} {arguments : List Value} {parameters : List JsValue}

theorem fetch_hosted (hosts : connection.Hosts engine) (hsent : query.sent = some parameters)
    (hbind : toJsArray arguments = .ok parameters) (limit : Option ℕ) (db : DB) :
    (∀ e, engine.query query (hosts.view db) = some e →
      ∃ cursor final, fetch connection.sql query.sql arguments limit db =
          .ok (e.table limit, asU64 cursor.rowsWritten) final ∧
        hosts.documented.counts.Tells cursor final e ∧ hosts.view final = e.final) ∧
    (engine.query query (hosts.view db) = none →
      ∃ error, fetch connection.sql query.sql arguments limit db = .error error db) := by
  refine ⟨fun e he => ?_, fun hnone => ?_⟩
  · obtain ⟨cursor, final, hexec, hdelivers, htells, hview⟩ :=
      (hosts.exec query parameters hsent db).1 e he
    have hnames : columnNames cursor.columnNames = .ok e.names := by
      rw [hdelivers.columnNames, columnNames, stringNames_map_string]
    have hnew : (wanted limit 0 (e.rows.map rowOf)).mapM readRow = .ok (e.values limit) := by
      rw [wanted_zero, e.mapM_readRow_rowOf]
    exact ⟨cursor, final, fetch_of_completes hbind ⟨hexec, hdelivers.toEnd⟩ hnames hnew
      (e.fromResult_values limit), htells, hview⟩
  · obtain ⟨error, final, hthrows⟩ := (hosts.exec query parameters hsent db).2 hnone
    rcases fetch_cases hosts.documented.tabular hbind limit db with
      ⟨error', final', hthrows', hfetch⟩ | ⟨cursor, values, final', _, hcompletes, _⟩
    · rw [hosts.documented.restores _ _ _ _ _ hthrows'] at hfetch
      exact ⟨_, hfetch⟩
    · have hcompleted := completed_of_completes hcompletes
      rw [completed_of_throws hthrows] at hcompleted
      cases hcompleted

theorem execute_hosted (hosts : connection.Hosts engine) (hsent : query.sent = some parameters)
    (hbind : toJsArray arguments = .ok parameters) (limit : Option ℕ) (db : DB) :
    (∀ e, engine.query query (hosts.view db) = some e →
      ∃ result final, execute connection.sql query.sql arguments limit db =
          .ok (e.table limit, result) final ∧
        result.rowsAffected.val = e.affected.val ∧ hosts.view final = e.final) ∧
    (engine.query query (hosts.view db) = none →
      ∃ error, execute connection.sql query.sql arguments limit db = .error (.err error) db) := by
  obtain ⟨hsome, hnone⟩ := fetch_hosted hosts hsent hbind limit db
  refine ⟨fun e he => ?_, fun hfails => ?_⟩
  · obtain ⟨cursor, final, hfetch, htells, hview⟩ := hsome e he
    rcases htells with ⟨hwritten, haffected⟩ | ⟨hwritten, hchanges, hrowid⟩
    · exact ⟨_, final, execute_of_wrote_nothing hfetch hwritten, haffected.symm, hview⟩
    · have hreportable : Reportable (hosts.documented.counts.changes final)
          (hosts.documented.counts.lastInsertRowid final) :=
        ⟨hchanges ▸ e.counted.1, hchanges ▸ e.counted.2, hrowid⟩
      refine ⟨_, final, execute_of_reportable _ hfetch hwritten hreportable, ?_, hview⟩
      exact congrArg IntRange.val hchanges
  · obtain ⟨error, hfetch⟩ := hnone hfails
    exact ⟨error, execute_of_fetch_error hfetch⟩

/-! ## an operation -/

/-- What a reply tells; a transaction's value is its callback's. -/
def Reply.tells {T E : Type} : Reply T E → Told
  | .answer result => .ofResult Answer.tells result
  | .results result => .ofResult .ofResults result
  | .items list => .ofItems list
  | .value result => if result.isOk then .answered none else .failed
  | .statement result =>
    .ofResult (fun statement => .answered (statement.map DoStatement.sql)) result

/-- An operation that both drivers have. -/
def Operation.ofD1 {T E : Type} : D1.Operation → Operation T E
  | .call method query => .call method query
  | .executeBatch queries => .executeBatch queries
  | .fetchBatch queries => .fetchBatch queries
  | .formality asked => .formality asked

/-- The call of a method tells what the engine does. -/
theorem call_hosted (hosts : connection.Hosts engine) (method : Method) (query : Query) (db : DB) :
    ∃ result final, attempt (call connection.sql method query) db = .ok result final ∧
      (Told.ofResult Answer.tells result, hosts.view final) =
        engine.perform (.call method query) (hosts.view db) := by
  rw [Engine.perform]
  rcases sent_cases query with
    ⟨source, hsent, hargs⟩ | ⟨arguments, hargs, ⟨source, hsent, hbind⟩ | ⟨parameters, hsent, hbind⟩⟩
  · rw [Engine.query_of_not_sent hsent]
    exact ⟨_, _, run_attempt_of_err (call_of_arguments_error hargs method), rfl⟩
  · rw [Engine.query_of_not_sent hsent]
    exact ⟨_, _, run_attempt_of_err (call_of_toJsArray_error hargs hbind method), rfl⟩
  have hcall : call connection.sql method query db = _ := call_of_arguments_ok hargs method
  have hfetch := fun limit => fetch_hosted hosts hsent hbind limit db
  have hexecute := execute_hosted hosts hsent hbind (some 0) db
  cases hquery : engine.query query (hosts.view db) with
  | some e =>
      obtain ⟨result, final, hresult, haffected, hview⟩ := hexecute.1 e hquery
      have hrun : run connection.sql query.sql (argumentsOf arguments) db = .ok result final :=
        run_map_of_ok hresult
      cases method with
      | execute | executeMany =>
          refine ⟨_, final, run_attempt_of_ok (hcall.trans (run_map_of_ok hrun)), ?_⟩
          simp only [Told.ofResult, Answer.tells, List.map_cons, List.map_nil, haffected, hview,
            Effect.tells]
      | fetchMany =>
          obtain ⟨cursor, final, hrows, _, hview⟩ := (hfetch none).1 e hquery
          refine ⟨_, final, run_attempt_of_ok
            (hcall.trans (run_returning_of_ok (run_bind_of_ok hrows))), ?_⟩
          simp only [Told.ofResult, Answer.tells, hview, Effect.tells]
      | fetchOptional =>
          obtain ⟨cursor, final, hrows, _, hview⟩ := (hfetch (some 1)).1 e hquery
          refine ⟨_, final, run_attempt_of_ok
            (hcall.trans (run_returning_of_ok (run_bind_of_ok hrows))), ?_⟩
          simp only [Told.ofResult, Answer.tells, hview, Effect.tells, Effect.toList_head?_table]
  | none =>
      obtain ⟨error, hexecute⟩ := hexecute.2 hquery
      have hrun : run connection.sql query.sql (argumentsOf arguments) db =
          .error (.err error) db := run_map_of_error hexecute
      cases method with
      | execute | executeMany =>
          exact ⟨_, _, run_attempt_of_err (hcall.trans (run_map_of_error hrun)), rfl⟩
      | fetchMany =>
          obtain ⟨error, hrows⟩ := (hfetch none).2 hquery
          exact ⟨_, _, run_attempt_of_err
            (hcall.trans (run_returning_of_error (run_bind_of_error hrows))), rfl⟩
      | fetchOptional =>
          obtain ⟨error, hrows⟩ := (hfetch (some 1)).2 hquery
          exact ⟨_, _, run_attempt_of_err
            (hcall.trans (run_returning_of_error (run_bind_of_error hrows))), rfl⟩

/-! ## batches -/

/-- A statement of a batch does what its query does. -/
theorem runStatement_hosted (hosts : connection.Hosts engine) {statement : String × Arguments}
    (htake : takeOwned query = .ok statement) (db : DB) :
    (∀ e, engine.query query (hosts.view db) = some e →
      ∃ entry final, runStatement connection.sql statement db = .ok entry final ∧
        entry.tells = e.entry ∧ hosts.view final = e.final) ∧
    (engine.query query (hosts.view db) = none →
      ∃ error, runStatement connection.sql statement db = .error (.err error) db) := by
  obtain ⟨hsql, hsent⟩ := sent_of_takeOwned htake
  rw [runStatement, hsql]
  cases hbind : toJsArray statement.2.values with
  | error error =>
      rw [hbind] at hsent
      refine ⟨fun e he => ?_, fun _ => ?_⟩
      · rw [Engine.query_of_not_sent hsent] at he
        cases he
      · have hexecute : execute connection.sql query.sql statement.2.values none db =
            .error (.err error) db := execute_of_fetch_error (fetch_of_toJsArray_error hbind none)
        exact ⟨error, run_map_of_error hexecute⟩
  | ok parameters =>
      rw [hbind] at hsent
      obtain ⟨hsome, hnone⟩ := execute_hosted hosts hsent hbind none db
      refine ⟨fun e he => ?_, fun hfails => ?_⟩
      · obtain ⟨result, final, hexecute, haffected, hview⟩ := hsome e he
        refine ⟨_, final, run_map_of_ok hexecute, ?_, hview⟩
        rw [BatchResult.tells, Effect.entry, haffected]
      · obtain ⟨error, hexecute⟩ := hnone hfails
        exact ⟨error, run_map_of_error hexecute⟩

/-- The statements of a batch do what its queries do, up to the first that
fails. -/
theorem runStatements_hosted (hosts : connection.Hosts engine) {queries : List Query}
    {statements : List (String × Arguments)}
    (htake : List.Forall₂ (fun query statement => takeOwned query = .ok statement)
      queries statements) (db : DB) :
    (∀ es final, engine.runAll queries (hosts.view db) = some (es, final) →
      ∃ entries db', runStatements statements connection.handle db = .ok entries db' ∧
        entries.map BatchResult.tells = es.map Effect.entry ∧ hosts.view db' = final) ∧
    (engine.runAll queries (hosts.view db) = none →
      ∃ error db', runStatements statements connection.handle db = .error (.err error) db') := by
  induction htake generalizing db with
  | nil =>
      refine ⟨fun es final hran => ?_, fun hnone => by cases hnone⟩
      cases hran
      exact ⟨[], db, rfl, rfl, rfl⟩
  | @cons query statement queries statements hstatement _ ih =>
      obtain ⟨hsome, hnone⟩ := runStatement_hosted hosts hstatement db
      rw [Engine.runAll, runStatements]
      cases hquery : engine.query query (hosts.view db) with
      | none =>
          obtain ⟨error, herror⟩ := hnone hquery
          refine ⟨fun es final hran => (by cases hran), fun _ => ?_⟩
          exact ⟨error, db, run_mapM_cons_of_error _ herror⟩
      | some e =>
          obtain ⟨entry, mid, hentry, htells, hview⟩ := hsome e hquery
          obtain ⟨hall, hfails⟩ := ih mid
          rw [hview] at hall hfails
          rw [Option.bind_eq_bind, Option.bind_some]
          cases hrest : engine.runAll queries e.final with
          | none =>
              obtain ⟨error, db', herror⟩ := hfails hrest
              refine ⟨fun es final hran => (by cases hran), fun _ => ⟨error, db', ?_⟩⟩
              exact (run_mapM_cons_of_ok _ hentry).trans (run_map_of_error herror)
          | some ran =>
              obtain ⟨entries, db', hentries, hrests, hfinal⟩ := hall ran.1 ran.2 hrest
              refine ⟨fun es final hran => ?_, fun hnone => by cases hnone⟩
              cases hran
              refine ⟨entry :: entries, db', ?_, ?_, hfinal⟩
              · exact (run_mapM_cons_of_ok _ hentry).trans (run_map_of_ok hentries)
              · rw [List.map_cons, List.map_cons, htells, hrests]

/-- A batch does all of the engine's queries, or none. -/
theorem runBatch_hosted (hosts : connection.Hosts engine) (queries : List Query) (db : DB) :
    (∀ es final, engine.runAll queries (hosts.view db) = some (es, final) →
      ∃ entries db', connection.runBatch queries db = .ok entries db' ∧
        entries.map BatchResult.tells = es.map Effect.entry ∧ hosts.view db' = final) ∧
    (engine.runAll queries (hosts.view db) = none →
      ∃ error, connection.runBatch queries db = .error (.err error) db) := by
  have htransactional : connection.storage.Transactional := hosts.documented.transactional
  cases htake : queries.mapM takeOwned with
  | error error =>
      obtain ⟨query, hmem, source, hargs, _⟩ := exists_of_mapM_takeOwned_error htake
      have hnone : engine.runAll queries (hosts.view db) = none :=
        Engine.runAll_of_not_sent hmem (by rw [Query.sent, hargs]) _
      refine ⟨fun es final hran => ?_, fun _ => ⟨error, DoConnection.runBatch_of_error htake db⟩⟩
      rw [hnone] at hran
      cases hran
  | ok statements =>
      have hforall := mapM_eq_ok_iff.mp htake
      by_cases hne : statements = []
      · subst hne
        cases hforall
        refine ⟨fun es final hran => ?_, fun hnone => by cases hnone⟩
        cases hran
        exact ⟨[], db, DoConnection.runBatch_nil db, rfl, rfl⟩
      rw [DoConnection.runBatch_of_ok htake hne]
      obtain ⟨hall, hfails⟩ := runStatements_hosted hosts hforall db
      refine ⟨fun es final hran => ?_, fun hnone => ?_⟩
      · obtain ⟨entries, db', hentries, htells, hview⟩ := hall es final hran
        obtain ⟨report, slot, left, hcall, hreport⟩ := hosts.commits _ _ _ _ _ _
          (DoConnection.closure_of_attempt none (run_attempt_of_ok hentries))
        rw [hreport rfl] at hcall
        exact ⟨entries, db', DoConnection.transaction_of_committed htransactional
          ⟨hentries, _, _, hcall⟩, htells, hview⟩
      · obtain ⟨error, db', herror⟩ := hfails hnone
        obtain ⟨report, slot, left, hcall, _⟩ := hosts.commits _ _ _ _ _ _
          (DoConnection.closure_of_attempt none (run_attempt_of_err herror))
        exact ⟨error, DoConnection.transaction_of_refused htransactional
          ⟨⟨db', herror⟩, _, _, _, hcall⟩⟩

/-- **The Durable Object driver tells what the engine does**, operation by
operation. -/
theorem perform_hosted {T E : Type} [FromError E] (hosts : connection.Hosts engine)
    (op : D1.Operation) (db : DB) :
    ∃ (reply : Reply T E) (db' : DB), connection.perform (.ofD1 op) db = .ok reply db' ∧
      (reply.tells, hosts.view db') = engine.perform op (hosts.view db) := by
  cases op with
  | call method query =>
      obtain ⟨result, final, hresult, htells⟩ := call_hosted hosts method query db
      exact ⟨.answer result, final, run_map_of_ok hresult, htells⟩
  | executeBatch queries =>
      have hbatch := runBatch_hosted hosts queries db
      rw [Engine.perform]
      cases hrun : engine.runAll queries (hosts.view db) with
      | some ran =>
          obtain ⟨entries, db', hentries, htells, hview⟩ := hbatch.1 ran.1 ran.2 hrun
          refine ⟨.results (.ok _), db', run_map_of_ok (run_attempt_of_ok
            (run_map_of_ok hentries)), ?_⟩
          rw [Reply.tells, Told.ofResult, ofResults_of_tells htells, hview]
      | none =>
          obtain ⟨error, herror⟩ := hbatch.2 hrun
          exact ⟨.results (.error error), db,
            run_map_of_ok (run_attempt_of_err (run_map_of_error herror)), rfl⟩
  | fetchBatch queries =>
      have hbatch := runBatch_hosted hosts queries db
      rw [Engine.perform]
      cases hrun : engine.runAll queries (hosts.view db) with
      | some ran =>
          obtain ⟨entries, db', hentries, htells, hview⟩ := hbatch.1 ran.1 ran.2 hrun
          refine ⟨.items (entries.map .ok), db',
            run_map_of_ok (DoConnection.fetchBatch_of_ok hentries), ?_⟩
          rw [Reply.tells, ofItems_of_tells htells, hview]
      | none =>
          obtain ⟨error, herror⟩ := hbatch.2 hrun
          exact ⟨.items [.error error], db,
            run_map_of_ok (DoConnection.fetchBatch_of_err herror), rfl⟩
  | formality formality =>
      refine ⟨.statement (outcome (formality.answer db)), db, ?_, ?_⟩
      · refine run_map_of_ok ((attempt_returning formality.answer db).trans ?_)
        rw [formality.stateOf_answer]
      · cases formality <;> rfl

theorem session_hosted {T E : Type} [FromError E] (hosts : connection.Hosts engine)
    (ops : List D1.Operation) (db : DB) :
    ∃ (replies : List (Reply T E)) (db' : DB),
      connection.session (ops.map .ofD1) db = .ok replies db' ∧
        (replies.map Reply.tells, hosts.view db') =
          Server.session engine.perform ops (hosts.view db) := by
  induction ops generalizing db with
  | nil => exact ⟨[], db, rfl, rfl⟩
  | cons op ops ih =>
      obtain ⟨reply, mid, hreply, htells⟩ := perform_hosted (T := T) (E := E) hosts op db
      obtain ⟨replies, db', hreplies, hrest⟩ := ih mid
      refine ⟨reply :: replies, db', ?_, ?_⟩
      · rw [List.map_cons, DoConnection.session, run_mapM_cons_of_ok _ hreply]
        exact run_map_of_ok hreplies
      · simp only [Server.session, ← htells, ← hrest, List.map_cons]

end

/-! ## an engine as a storage -/

namespace Engine

/-- An engine that keeps counts: a query returns them, and those of a
statement that changed rows are its own. -/
structure Counting (engine : Engine S) where
  changes : S → I64
  lastInsertRowid : S → I64
  query : ∀ s, ∃ e first second, engine.run countsSql [] s = some e ∧ e.names = [first, second] ∧
    e.rows = [[.integer (changes s), .integer (lastInsertRowid s)]] ∧ e.final = s
  own : ∀ sql parameters s e, engine.run sql parameters s = some e → e.affected.val ≠ 0 →
    changes e.final = e.affected ∧ Safe (lastInsertRowid e.final).val

/-- The cursor over a statement's rows. -/
def cursor (e : Effect S) : Cursor S where
  columnNames := e.names.map .string
  raw := (e.rows.map rowOf).foldr (.yields e.final) (.last e.final e.final)
  rowsWritten := Ieee.Binary.ofInt Ieee.binary64 (if e.affected.val = 0 then 0 else 1)

/-- The engine as a storage. -/
def storage (engine : Engine S) : SqlStorage S where
  exec sql parameters s :=
    match engine.run sql parameters s with
    | some e => .ok (cursor e)
    | none => .error (.error "SQLITE_ERROR" .undefined, s)

theorem delivers_cursor (e : Effect S) : (cursor e).Delivers e.names e.rows e.final where
  columnNames := rfl
  toEnd := by
    rw [cursor]
    induction e.rows.map rowOf with
    | nil => rfl
    | cons row rows ih => rw [List.foldr_cons, RawIterator.toEnd, ih]

theorem exec_of_run {engine : Engine S} {sql : String} {parameters : List JsValue} {s : S}
    {e : Effect S} (h : engine.run sql parameters s = some e) :
    engine.storage.exec sql parameters s = .ok (cursor e) := by
  simp only [storage, h]

theorem convertible_delivered (value : Value) : Convertible (delivered .arrayBuffer value) := by
  cases value <;> trivial

variable {engine : Engine S}

theorem exists_run_of_exec {sql : String} {parameters : List JsValue} {s : S} {cursor : Cursor S}
    (h : engine.storage.exec sql parameters s = .ok cursor) :
    ∃ e, engine.run sql parameters s = some e ∧ cursor = Engine.cursor e := by
  cases hrun : engine.run sql parameters s with
  | none =>
      simp only [storage, hrun] at h
      cases h
  | some e =>
      rw [exec_of_run hrun] at h
      cases h
      exact ⟨e, rfl, rfl⟩

theorem tabular_storage (engine : Engine S) : engine.storage.Tabular := by
  intro sql parameters s cursor h
  obtain ⟨e, _, rfl⟩ := exists_run_of_exec h
  refine ⟨⟨e.names, rfl⟩, fun row hrow => ?_⟩
  rw [← rows_of_toEnd (delivers_cursor e).toEnd] at hrow
  obtain ⟨values, hvalues, rfl⟩ := List.mem_map.mp hrow
  refine ⟨_, rfl, ?_, fun cell hcell => ?_⟩
  · rw [List.length_map, e.rectangular values hvalues, Engine.cursor, List.length_map]
  · obtain ⟨value, _, rfl⟩ := List.mem_map.mp hcell
    exact convertible_delivered value

theorem restores_storage (engine : Engine S) : engine.storage.Restores := by
  intro sql parameters s error final h
  cases h with
  | exec h =>
      cases hrun : engine.run sql parameters s with
      | none =>
          simp only [storage, hrun] at h
          cases h
          rfl
      | some e =>
          rw [exec_of_run hrun] at h
          cases h
  | next cursor h hend =>
      obtain ⟨e, _, rfl⟩ := exists_run_of_exec h
      rw [(delivers_cursor e).toEnd] at hend
      cases hend

/-- The cursor says whether rows were changed. -/
theorem val_rowsWritten_cursor (e : Effect S) :
    (asU64 (cursor e).rowsWritten).val = if e.affected.val = 0 then 0 else 1 := by
  have hsmall : |(if e.affected.val = 0 then 0 else 1 : ℤ)| < 2 ^ 53 := by
    split <;> norm_num
  refine val_asU64 (Ieee.toRat?_ofInt_binary64 hsmall) ?_ ?_ <;> split <;> norm_num

/-- The connection to it. -/
abbrev connection (engine : Engine S) : DoConnection S := .new (.ofSql engine.storage)

def documented (c : engine.Counting) : engine.connection.Documented where
  tabular := engine.tabular_storage
  restores := engine.restores_storage
  counts :=
    { changes := c.changes
      lastInsertRowid := c.lastInsertRowid
      query := by
        intro s
        obtain ⟨e, first, second, hrun, hnames, hrows, hfinal⟩ := c.query s
        refine ⟨cursor e, first, second, ⟨exec_of_run hrun, ?_⟩, ?_⟩
        · rw [(delivers_cursor e).toEnd, hrows, hfinal]
          rfl
        · rw [cursor, hnames]
          rfl }
  transactional := Storage.transactional_ofSql engine.storage

theorem tells_cursor (c : engine.Counting) {sql : String} {parameters : List JsValue} {s : S}
    {e : Effect S} (h : engine.run sql parameters s = some e) :
    (documented c).counts.Tells (cursor e) e.final e := by
  rw [SqlStorage.Counts.Tells, val_rowsWritten_cursor]
  by_cases haffected : e.affected.val = 0
  · exact .inl ⟨if_pos haffected, haffected⟩
  · refine .inr ⟨?_, c.own sql parameters s e h haffected⟩
    rw [if_neg haffected]
    exact one_ne_zero

/-- Any engine that keeps counts is hosted so. -/
def hostsDo (c : engine.Counting) : engine.connection.Hosts engine where
  documented := documented c
  view := id
  exec query parameters hsent s := by
    have hquery : engine.query query s = engine.run query.sql parameters s := by
      rw [Engine.query, hsent, Option.bind_some]
    rw [id, hquery]
    refine ⟨fun e he => ?_, fun hnone => ?_⟩
    · exact ⟨cursor e, e.final, exec_of_run he, delivers_cursor e, tells_cursor c he, rfl⟩
    · refine ⟨.error "SQLITE_ERROR" .undefined, s, .exec ?_⟩
      simp only [DoConnection.new, Storage.ofSql, storage, hnone]
  commits closure t t' s left result h := by
    cases result with
    | ok u =>
        have hcall : (Storage.ofSql engine.storage).transaction closure t s =
            .ok ⟨.ok (), true, t'⟩ left := by simp only [Storage.ofSql, h]
        exact ⟨.ok (), t', left, hcall, id⟩
    | error error =>
        have hcall : (Storage.ofSql engine.storage).transaction closure t s =
            .ok ⟨.error error, true, t'⟩ s := by simp only [Storage.ofSql, h]
        exact ⟨.error error, t', s, hcall, id⟩

end Engine

end SqlxCloudflare
