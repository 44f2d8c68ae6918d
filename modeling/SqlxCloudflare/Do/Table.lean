import SqlxCloudflare.Core.Table
import SqlxCloudflare.Do.Reading
import SqlxCloudflare.Do.Session

/-!
# SqlxCloudflare.Do.Table

A table in Durable Object storage, written and read by any session.  The
queries a session's answers acknowledge are the ones whose statements were run
to their end (`session_runs`), transactions and batches included; so a select
returns the rows they inserted, in order, as the values they were inserted
with (`session_reads`).
-/

namespace SqlxCloudflare

open Executor Fallible

variable {DB T E : Type}

/-! ## queries that were run -/

/-- The queries' statements are run to their end, one after another. -/
inductive SqlStorage.Runs (storage : SqlStorage DB) : List Query → DB → DB → Prop where
  | nil (db : DB) : Runs storage [] db db
  | cons {query : Query} {queries : List Query} {parameters : List JsValue} {cursor : Cursor DB}
      {rows : List JsValue} {db mid final : DB} (hsent : query.sent = some parameters)
      (h : storage.Completes query.sql parameters db cursor rows mid)
      (hrest : Runs storage queries mid final) : Runs storage (query :: queries) db final

theorem SqlStorage.Runs.append {storage : SqlStorage DB} {queries queries' : List Query}
    {db mid final : DB} (h : storage.Runs queries db mid) (h' : storage.Runs queries' mid final) :
    storage.Runs (queries ++ queries') db final := by
  induction h with
  | nil db => exact h'
  | cons hsent hcompletes _ ih => exact .cons hsent hcompletes (ih h')

section

/-- The query, if its call is acknowledged. -/
def told (query : Query) (result : Except Error Answer) : List Query :=
  if (Reply.answer result : Reply Unit Unit).acknowledges then [query] else []

theorem told_of_acknowledges {query : Query} {result : Except Error Answer}
    (h : (Reply.answer result : Reply T E).acknowledges = true) : told query result = [query] := by
  cases result with
  | ok answer => rfl
  | error error =>
      cases error with
      | decode source => rfl
      | _ => cases h

variable [JsDebug]

/-- The queries a callback is told were run, when nothing else runs. -/
def Callback.told : Callback T E → DoTransaction DB → DB → List Query
  | .ret _, _, _ => []
  | .await next, tx, db => next.told tx db
  | .keep next, tx, db => next.told tx db
  | .statement method query next, tx, db =>
    let result := call tx.sql method query db
    match returned (outcome result) with
    | .ok answer => SqlxCloudflare.told query answer ++ (next answer).told tx (stateOf result)
    | .error _ => []

/-- The queries of an operation that is acknowledged. -/
def Operation.told (connection : DoConnection DB) : Operation T E → DB → List Query
  | .call _ query, _ => [query]
  | .executeBatch queries, _ | .fetchBatch queries, _ => queries
  | .transaction callback, db => callback.told connection.handle db
  | .formality _, _ => []

/-- The queries a session is told were run. -/
def DoConnection.log [FromError E] (connection : DoConnection DB) :
    List (Operation T E) → DB → List Query
  | [], _ => []
  | op :: ops, db =>
    match connection.perform op db with
    | .ok reply after =>
      (if reply.acknowledges then op.told connection db else []) ++ connection.log ops after
    | .error _ _ => []

variable {connection : DoConnection DB}

/-- What a call is acknowledged for was run, and nothing else. -/
theorem runs_call (d : connection.Documented) {method : Method} {query : Query} {db final : DB}
    {result : Except Error Answer}
    (hcall : attempt (call connection.sql method query) db = .ok result final) :
    connection.sql.Runs (told query result) db final := by
  have hsettles := call_settles d.tabular d.counts method query db
  obtain ⟨houtcome, hleft⟩ := attempt_eq_ok_iff.mp hcall
  cases result with
  | ok answer =>
      rw [show call connection.sql method query db = .ok answer final from
        result_ext houtcome hleft] at hsettles
      cases hsettles with
      | answers parameters cursor rows _ _ hsent hcompletes =>
          exact .cons hsent hcompletes (.nil final)
  | error error =>
      rw [show call connection.sql method query db = .error (.err error) final from
        result_ext houtcome hleft] at hsettles
      cases hsettles with
      | notSent source hsent => exact .nil db
      | throws parameters error _ hsent hthrows =>
          have hsame := d.restores _ _ _ _ _ hthrows
          subst hsame
          obtain ⟨thrown, hthrown⟩ := exists_databaseError error
          rw [hthrown]
          exact .nil final
      | notReported parameters cursor rows _ source hsent hcompletes =>
          exact .cons hsent hcompletes (.nil final)

theorem runs_callback (d : connection.Documented) (callback : Callback T E) {db final : DB}
    {result : Except E T}
    (hrun : attempt (callback.run connection.handle) db = .ok result final) :
    connection.sql.Runs (callback.told connection.handle db) db final := by
  induction callback generalizing db with
  | ret result' =>
      obtain ⟨_, rfl⟩ := attempt_eq_ok_iff.mp hrun
      cases result' <;> exact .nil db
  | await next ih => exact ih hrun
  | keep next ih => exact ih hrun
  | statement method query next ih =>
      obtain ⟨answer, hanswer⟩ := attempt_call d method query db
      obtain ⟨houtcome, hleft⟩ := attempt_eq_ok_iff.mp hanswer
      have htold : returned (outcome (call connection.handle.sql method query db)) = .ok answer :=
        returned_eq_ok_iff.mpr houtcome
      have hstate : stateOf (call connection.handle.sql method query db) =
          connection.sql.apply query db := hleft
      rw [attempt_congr (run_statement htold)] at hrun
      rw [Callback.told, htold]
      rw [hstate] at hrun
      simp only [hstate]
      exact (runs_call d hanswer).append (ih answer hrun)

/-- A statement of a batch that succeeds was run. -/
theorem runs_statement (d : connection.Documented) {query : Query} {statement : String × Arguments}
    (htake : takeOwned query = .ok statement) {entry : BatchResult Row} {db final : DB}
    (hrun : runStatement connection.sql statement db = .ok entry final) :
    ∃ parameters cursor rows, query.sent = some parameters ∧
      connection.sql.Completes query.sql parameters db cursor rows final := by
  obtain ⟨hsql, hsent⟩ := sent_of_takeOwned htake
  obtain ⟨text, arguments⟩ := statement
  cases hsql
  cases hbind : toJsArray arguments.values with
  | error error =>
      have hexecute : execute connection.sql query.sql arguments.values none db =
          .error (.err error) db := execute_of_fetch_error (fetch_of_toJsArray_error hbind none)
      rw [runStatement, run_map_of_error hexecute] at hrun
      cases hrun
  | ok parameters =>
      rw [hbind] at hsent
      rcases execute_cases d.tabular d.counts query.sql hbind none db with
        ⟨error, _, _, hexecute⟩ |
          ⟨cursor, rows, _, hcompletes, ⟨_, result, hexecute⟩ | ⟨_, _, hexecute⟩⟩
      · rw [runStatement, run_map_of_error hexecute] at hrun
        cases hrun
      · rw [runStatement, run_map_of_ok hexecute] at hrun
        cases hrun
        exact ⟨parameters, cursor, rows, hsent, hcompletes⟩
      · rw [runStatement, run_map_of_error hexecute] at hrun
        cases hrun

/-- Statements that all succeed were run. -/
theorem runs_of_all (d : connection.Documented) {queries : List Query}
    {statements : List (String × Arguments)}
    (htake : List.Forall₂ (fun query statement => takeOwned query = .ok statement)
      queries statements) {db final : DB} {results : List (BatchResult Row)}
    (hall : All (runStatement connection.sql) db statements results final) :
    connection.sql.Runs queries db final := by
  induction htake generalizing db results with
  | nil =>
      cases hall
      exact .nil _
  | cons hstatement _ ih =>
      cases hall with
      | cons hrun hrest =>
          obtain ⟨_, _, _, hsent, hcompletes⟩ := runs_statement d hstatement hrun
          exact .cons hsent hcompletes (ih hrest)

/-- A batch that succeeds has run its queries. -/
theorem runs_batch (d : connection.Documented) {queries : List Query}
    {results : List (BatchResult Row)} {db final : DB}
    (hrun : connection.runBatch queries db = .ok results final) :
    connection.sql.Runs queries db final := by
  cases htake : queries.mapM takeOwned with
  | error error =>
      rw [DoConnection.runBatch_of_error htake] at hrun
      cases hrun
  | ok statements =>
      have hforall := mapM_eq_ok_iff.mp htake
      by_cases hne : statements = []
      · subst hne
        cases hforall
        rw [DoConnection.runBatch_nil] at hrun
        cases hrun
        exact .nil db
      · rw [DoConnection.runBatch_of_ok htake hne] at hrun
        have hfinished := DoConnection.finished_of_transaction d.transactional hrun
        exact runs_of_all d hforall (run_mapM_eq_ok_iff.mp hfinished)

/-- **An operation has run what it is acknowledged for**, and an operation that
is not acknowledged has run nothing. -/
theorem runs_perform [FromError E] (d : connection.Documented) {op : Operation T E}
    {reply : Reply T E} {db final : DB} (hperform : connection.perform op db = .ok reply final) :
    connection.sql.Runs (if reply.acknowledges then op.told connection db else []) db final := by
  split
  · next hacknowledged =>
      cases op with
      | call method query =>
          obtain ⟨result, hresult, rfl⟩ := run_map_eq_ok hperform
          have hcall := runs_call d hresult
          rwa [told_of_acknowledges hacknowledged] at hcall
      | executeBatch queries =>
          obtain ⟨result, hresult, rfl⟩ := run_map_eq_ok hperform
          cases result with
          | error error => cases hacknowledged
          | ok results =>
              obtain ⟨houtcome, hleft⟩ := attempt_eq_ok_iff.mp hresult
              have hexecute : connection.executeBatch queries db = .ok results final :=
                result_ext houtcome hleft
              obtain ⟨_, hbatch, _⟩ := run_map_eq_ok hexecute
              exact runs_batch d hbatch
      | fetchBatch queries =>
          obtain ⟨items, hitems, rfl⟩ := run_map_eq_ok hperform
          obtain ⟨result, _, hresult, hstream⟩ := run_bind_eq_ok hitems
          cases result with
          | error error =>
              cases hstream
              cases hacknowledged
          | ok results =>
              cases hstream
              obtain ⟨houtcome, hleft⟩ := attempt_eq_ok_iff.mp hresult
              exact runs_batch d (result_ext houtcome hleft)
      | transaction callback =>
          obtain ⟨result, hresult, rfl⟩ := run_map_eq_ok hperform
          cases result with
          | error error => cases hacknowledged
          | ok value =>
              obtain ⟨houtcome, hleft⟩ := attempt_eq_ok_iff.mp hresult
              have hok : connection.transaction callback.run db = .ok value final :=
                result_ext houtcome hleft
              have hran := DoConnection.finished_of_transaction d.transactional hok
              exact runs_callback d callback (run_attempt_of_ok hran)
      | formality formality =>
          obtain ⟨result, _, rfl⟩ := run_map_eq_ok hperform
          cases hacknowledged
  · next hnot =>
      obtain ⟨reply', hrefines⟩ := perform_refines d op db
      rw [hperform] at hrefines
      injection hrefines with hreply hfinal
      rw [← hreply, if_neg hnot] at hfinal
      subst hfinal
      exact .nil final

/-- What a session is told was run, was run, and nothing else. -/
theorem session_runs [FromError E] (d : connection.Documented) {ops : List (Operation T E)}
    {replies : List (Reply T E)} {db final : DB}
    (hsession : connection.session ops db = .ok replies final) :
    connection.sql.Runs (connection.log ops db) db final := by
  induction ops generalizing db replies with
  | nil =>
      cases hsession
      exact .nil _
  | cons op ops ih =>
      cases run_mapM_eq_ok_iff.mp hsession with
      | cons hperform hrest =>
          rw [DoConnection.log, hperform]
          exact (runs_perform d hperform).append (ih (run_mapM_of_all hrest))

/-! ## a table of the storage -/

/-- A table, kept by the storage: its rows are the parameters they were inserted
with, and a select returns them all. -/
structure SqlStorage.Table (storage : SqlStorage DB) (schema : Schema) where
  rows : DB → List (List JsValue)
  /-- The parameters that come back as they were. -/
  keeps : JsValue → Prop
  inserts : ∀ parameters db cursor values final, parameters.length = schema.names.length →
    storage.Completes schema.insert parameters db cursor values final →
      rows final = rows db ++ [parameters]
  leaves : ∀ sql parameters db cursor values final, sql = schema.select ∨ schema.elsewhere sql →
    storage.Completes sql parameters db cursor values final → rows final = rows db
  selects : ∀ db cursor values final,
    storage.Completes schema.select [] db cursor values final →
      cursor.columnNames = schema.names.map .string ∧
        List.Forall₂ (Stored keeps) (rows db) values

/-- What a select answers, of a table that holds these rows. -/
def Executor.Answer.Holds (keeps : JsValue → Prop) (names : List String)
    (inserted : List (List Bindable)) : Answer → Prop
  | .rows rs => List.Forall₂ (fun values (r : Row) => r.Holds keeps names values) inserted rs
  | .row first =>
    List.Forall₂ (fun values (r : Row) => r.Holds keeps names values) (inserted.take 1) first.toList
  | .executed _ | .executedMany _ => True

variable {storage : SqlStorage DB} {schema : Schema}

omit [JsDebug] in
/-- The table grows by the rows that were inserted. -/
theorem rows_of_runs (table : storage.Table schema) {queries : List Query}
    {inserted : List (List Bindable)} (hinserts : schema.Inserts queries inserted) {db final : DB}
    (hruns : storage.Runs queries db final) :
    ∃ stored, table.rows final = table.rows db ++ stored ∧
      List.Forall₂ (List.Forall₂ Bindable.SentAs) inserted stored := by
  induction hinserts generalizing db with
  | nil =>
      cases hruns
      exact ⟨[], (List.append_nil _).symm, .nil⟩
  | insert values hlength _ ih =>
      cases hruns with
      | cons hsent hcompletes hrest =>
          obtain ⟨stored, hrows, hstored⟩ := ih hrest
          have hparameters := exists_parameters hsent
          have hmid := table.inserts _ _ _ _ _ (hparameters.length_eq ▸ hlength) hcompletes
          refine ⟨_ :: stored, ?_, .cons hparameters hstored⟩
          rw [hrows, hmid, List.append_assoc]
          rfl
  | other query hquery _ ih =>
      cases hruns with
      | cons hsent hcompletes hrest =>
          obtain ⟨stored, hrows, hstored⟩ := ih hrest
          have hmid := table.leaves _ _ _ _ _ _ hquery hcompletes
          exact ⟨stored, by rw [hrows, hmid], hstored⟩

/-- The rows `fetch` returns of a select. -/
theorem holds_of_fetch (table : storage.Table schema) {inserted : List (List Bindable)} {db : DB}
    (hsent : List.Forall₂ (List.Forall₂ Bindable.SentAs) inserted (table.rows db))
    {limit : Option ℕ} {rs : List Row} {written : U64}
    (h : outcome (fetch storage schema.select [] limit db) = .ok (rs, written)) :
    List.Forall₂ (fun values (row : Row) => row.Holds table.keeps schema.names values)
      (limited limit inserted) rs := by
  have hbind : toJsArray [] = .ok [] := rfl
  cases hexec : storage.exec schema.select [] db with
  | error thrown =>
      rw [fetch_of_exec_error hbind hexec limit] at h
      cases h
  | ok cursor =>
      obtain ⟨final, hend⟩ := toEnd_of_fetch hbind hexec h
      rw [outcome_fetch_of_toEnd hbind hexec hend] at h
      obtain ⟨rs', hread, hpair⟩ := bind_eq_ok_iff.mp h
      cases hpair
      obtain ⟨names, hnames, hrows⟩ := bind_eq_ok_iff.mp hread
      obtain ⟨hcolumns, hstored⟩ := table.selects db cursor _ final ⟨hexec, hend⟩
      rw [hcolumns, columnNames, stringNames_map_string] at hnames
      cases hnames
      exact holds_of_readLimited readsRows_readRow hsent hstored hrows

omit [JsDebug] in
/-- Of at most one row, the first is all there is. -/
theorem forall₂_head {α β : Type} {R : α → β → Prop} {as : List α} {bs : List β}
    (h : List.Forall₂ R (as.take 1) bs) : List.Forall₂ R (as.take 1) bs.head?.toList := by
  have hlength := h.length_eq
  rw [List.length_take] at hlength
  match bs with
  | [] | [b] => exact h
  | _ :: _ :: bs =>
      simp only [List.length_cons] at hlength
      omega

/-- What a select answers. -/
theorem holds_of_call (table : storage.Table schema) {inserted : List (List Bindable)} {db : DB}
    (hsent : List.Forall₂ (List.Forall₂ Bindable.SentAs) inserted (table.rows db))
    {method : Method} {answer : Answer} {final : DB}
    (h : call storage method (.binding schema.select []) db = .ok answer final) :
    answer.Holds table.keeps schema.names inserted := by
  cases method with
  | execute =>
      obtain ⟨result, _, rfl⟩ := run_map_eq_ok h
      trivial
  | executeMany =>
      obtain ⟨results, _, rfl⟩ := run_map_eq_ok h
      trivial
  | fetchMany =>
      obtain ⟨rs, hrs, rfl⟩ := run_map_eq_ok h
      obtain ⟨_, _, htake, hrest⟩ := run_bind_eq_ok (run_returning_eq_ok hrs)
      cases htake
      obtain ⟨_, _, hfetch, hpure⟩ := run_bind_eq_ok hrest
      cases hpure
      exact holds_of_fetch table hsent (congrArg outcome hfetch)
  | fetchOptional =>
      obtain ⟨first, hfirst, rfl⟩ := run_map_eq_ok h
      obtain ⟨_, _, htake, hrest⟩ := run_bind_eq_ok (run_returning_eq_ok hfirst)
      cases htake
      obtain ⟨_, _, hfetch, hpure⟩ := run_bind_eq_ok hrest
      cases hpure
      exact forall₂_head (holds_of_fetch table hsent (congrArg outcome hfetch))

/-- **A table reads back as it was written**: over a storage that answers as
documented, any session that begins with the table empty, and of whose queries
none was acknowledged but the schema's insert, its select and those elsewhere
-- no DELETE or UPDATE of the table -- leaves a table whose rows a select
returns in the order of the inserts it was told of.  A value that was bound as
a parameter the table keeps reads as it was bound. -/
theorem session_reads [FromError E] (connection : DoConnection DB) (d : connection.Documented)
    (table : connection.sql.Table schema) (ops : List (Operation T E)) (db : DB)
    (hempty : table.rows db = []) {inserted : List (List Bindable)}
    (hinserts : schema.Inserts (connection.log ops db) inserted) {replies : List (Reply T E)}
    {left : DB} (hsession : connection.session ops db = .ok replies left) (method : Method)
    {answer : Answer} {final : DB}
    (hselect : call connection.sql method (.binding schema.select []) left = .ok answer final) :
    answer.Holds table.keeps schema.names inserted := by
  obtain ⟨stored, hrows, hsent⟩ := rows_of_runs table hinserts (session_runs d hsession)
  rw [hempty, List.nil_append] at hrows
  rw [← hrows] at hsent
  exact holds_of_call table hsent hselect

end

/-! ## a storage of one such table -/

/-- A database of pairs, in the order they were inserted. -/
structure Pairs where
  pairs : List Pair

namespace Pairs

def schema : Schema := Pair.schema

/-- A count as SQLite keeps it. -/
def count (n : ℕ) : I64 := ⟨min n (2 ^ 63 - 1), by omega, by omega⟩

def changes (db : Pairs) : I64 := count (min db.pairs.length 1)

def lastInsertRowid (db : Pairs) : I64 := count db.pairs.length

/-- The iterator over rows that are all there at once. -/
def iterator (db : Pairs) (rows : List JsValue) : RawIterator Pairs :=
  rows.foldr (.yields db) (.last db db)

def storage : SqlStorage Pairs where
  exec sql parameters db :=
    if sql = schema.insert then
      match Pair.ofParameters parameters with
      | some pair =>
        let after : Pairs := ⟨db.pairs ++ [pair]⟩
        .ok ⟨[], .last after after, Ieee.Binary.ofInt Ieee.binary64 1⟩
      | none => .error (.error "Wrong number of parameter bindings" .undefined, db)
    else if sql = schema.select then
      .ok ⟨schema.names.map .string, db.iterator (db.pairs.map fun pair => .array pair.cells),
        Ieee.Binary.ofInt Ieee.binary64 0⟩
    else if sql = countsSql then
      .ok ⟨[.string "changes()", .string "last_insert_rowid()"],
        db.iterator [.array [.number (I64.asF64 db.changes),
          .number (I64.asF64 db.lastInsertRowid)]],
        Ieee.Binary.ofInt Ieee.binary64 0⟩
    else .error (.error "syntax error: SQLITE_ERROR" .undefined, db)

theorem toEnd_iterator (db : Pairs) (rows : List JsValue) :
    (db.iterator rows).toEnd = .ok rows db := by
  induction rows with
  | nil => rfl
  | cons row rows ih =>
      have hcons : db.iterator (row :: rows) = .yields db row (db.iterator rows) := rfl
      rw [hcons, RawIterator.toEnd, ih]

theorem rows_iterator (db : Pairs) (rows : List JsValue) : (db.iterator rows).rows = rows :=
  (rows_of_toEnd (toEnd_iterator db rows)).symm

/-- The cursors it returns: of an insert, of a select, and of the counts. -/
theorem exec_cases {sql : String} {parameters : List JsValue} {db : Pairs} {cursor : Cursor Pairs}
    (h : storage.exec sql parameters db = .ok cursor) :
    (sql = schema.insert ∧ ∃ pair : Pair, pair.cells = parameters ∧ cursor.columnNames = [] ∧
        cursor.raw = .last ⟨db.pairs ++ [pair]⟩ ⟨db.pairs ++ [pair]⟩) ∨
      (sql = schema.select ∧ cursor.columnNames = schema.names.map .string ∧
        cursor.raw = db.iterator (db.pairs.map fun pair => .array pair.cells)) ∨
      (sql = countsSql ∧ cursor.columnNames = [.string "changes()", .string "last_insert_rowid()"] ∧
        cursor.raw = db.iterator
          [.array [.number (I64.asF64 db.changes), .number (I64.asF64 db.lastInsertRowid)]]) := by
  simp only [storage] at h
  split at h
  · next hinsert =>
      cases hpair : Pair.ofParameters parameters with
      | none =>
          rw [hpair] at h
          cases h
      | some pair =>
          rw [hpair] at h
          cases h
          exact .inl ⟨hinsert, pair, Pair.cells_of_ofParameters hpair, rfl, rfl⟩
  · split at h
    · next hselect =>
        cases h
        exact .inr (.inl ⟨hselect, rfl, rfl⟩)
    · split at h
      · next hcounts =>
          cases h
          exact .inr (.inr ⟨hcounts, rfl, rfl⟩)
      · cases h

theorem exec_error {sql : String} {parameters : List JsValue} {db final : Pairs} {error : JsValue}
    (h : storage.exec sql parameters db = .error (error, final)) : final = db := by
  simp only [storage] at h
  split at h
  · split at h <;> cases h
    rfl
  · split at h
    · cases h
    · split at h <;> cases h
      rfl

theorem toEnd_of_exec {sql : String} {parameters : List JsValue} {db : Pairs}
    {cursor : Cursor Pairs} (h : storage.exec sql parameters db = .ok cursor) :
    ∃ rows final, cursor.raw.toEnd = .ok rows final := by
  rcases exec_cases h with ⟨_, pair, _, _, hraw⟩ | ⟨_, _, hraw⟩ | ⟨_, _, hraw⟩
  · exact ⟨[], _, by rw [hraw]; rfl⟩
  · exact ⟨_, db, by rw [hraw, toEnd_iterator]⟩
  · exact ⟨_, db, by rw [hraw, toEnd_iterator]⟩

theorem restores : storage.Restores := by
  intro sql parameters db error final h
  cases h with
  | exec h => exact exec_error h
  | next cursor h hend =>
      obtain ⟨rows, final', hok⟩ := toEnd_of_exec h
      rw [hok] at hend
      cases hend

theorem tabular : storage.Tabular := by
  intro sql parameters db cursor h
  rcases exec_cases h with ⟨_, pair, _, hnames, hraw⟩ | ⟨_, hnames, hraw⟩ | ⟨_, hnames, hraw⟩
  · exact ⟨⟨[], hnames⟩, fun row hrow => by rw [hraw] at hrow; cases hrow⟩
  · refine ⟨⟨schema.names, hnames⟩, fun row hrow => ?_⟩
    rw [hraw, rows_iterator] at hrow
    obtain ⟨pair, _, rfl⟩ := List.mem_map.mp hrow
    exact ⟨pair.cells, rfl, by rw [hnames]; rfl, pair.convertible_cells⟩
  · refine ⟨⟨["changes()", "last_insert_rowid()"], hnames⟩, fun row hrow => ?_⟩
    rw [hraw, rows_iterator] at hrow
    obtain rfl := List.mem_singleton.mp hrow
    exact ⟨_, rfl, by rw [hnames]; rfl, by simp [Convertible]⟩

def counts : storage.Counts where
  changes := changes
  lastInsertRowid := lastInsertRowid
  query db := ⟨_, "changes()", "last_insert_rowid()", ⟨rfl, toEnd_iterator db _⟩, rfl⟩

def connection : DoConnection Pairs := .new (.ofSql storage)

def documented : connection.Documented where
  tabular := tabular
  restores := restores
  counts := counts
  transactional := Storage.transactional_ofSql storage

def table : connection.sql.Table schema where
  rows db := db.pairs.map Pair.cells
  keeps _ := True
  inserts := by
    intro parameters db cursor values final _ h
    rcases exec_cases h.exec with ⟨_, pair, hcells, _, hraw⟩ | ⟨hsql, _⟩ | ⟨hsql, _⟩
    · have hend := h.toEnd
      rw [hraw] at hend
      cases hend
      simp [hcells]
    · exact absurd hsql (by decide)
    · exact absurd hsql (by decide)
  leaves := by
    intro sql parameters db cursor values final hsql h
    obtain rfl := hsql.resolve_right id
    rcases exec_cases h.exec with ⟨hsql, _⟩ | ⟨_, _, hraw⟩ | ⟨hsql, _⟩
    · exact absurd hsql (by decide)
    · have hend := h.toEnd
      rw [hraw, toEnd_iterator] at hend
      cases hend
      rfl
    · exact absurd hsql (by decide)
  selects := by
    intro db cursor values final h
    rcases exec_cases h.exec with ⟨hsql, _⟩ | ⟨_, hnames, hraw⟩ | ⟨hsql, _⟩
    · exact absurd hsql (by decide)
    · have hend := h.toEnd
      rw [hraw, toEnd_iterator] at hend
      cases hend
      exact ⟨hnames, Pair.stored_cells _ _⟩
    · exact absurd hsql (by decide)

/-- A row of a text and a BLOB. -/
def bound (key : String) (value : List UInt8) : List Bindable :=
  [⟨.plain .string, key⟩, ⟨.plain .vec, value⟩]

/-- The query that inserts it. -/
def insert (key : String) (value : List UInt8) : Query := .binding schema.insert (bound key value)

end Pairs

/-- An insert, and a transaction that gives up after one: the first is read
back. -/
theorem session_reads_insert :
    letI := JsDebug.describing
    ∃ replies left answer final,
      Pairs.connection.session (T := Unit) (E := Error)
          [.call .fetchMany (Pairs.insert "a" [1, 255]),
            .transaction (.statement .fetchMany (Pairs.insert "b" [])
              fun _ => .ret (.error (.protocol "refused")))] ⟨[]⟩ = .ok replies left ∧
      call Pairs.connection.sql .fetchMany (.binding Pair.schema.select []) left =
        .ok answer final ∧
      answer.Holds (fun _ => True) Pair.schema.names [Pairs.bound "a" [1, 255]] := by
  let := JsDebug.describing
  have hinserts : Pairs.schema.Inserts (Pairs.connection.log (T := Unit) (E := Error)
      [.call .fetchMany (Pairs.insert "a" [1, 255]),
        .transaction (.statement .fetchMany (Pairs.insert "b" [])
          fun _ => .ret (.error (.protocol "refused")))] ⟨[]⟩) [Pairs.bound "a" [1, 255]] :=
    .insert (Pairs.bound "a" [1, 255]) rfl .nil
  exact ⟨_, _, _, _, rfl, rfl, session_reads Pairs.connection Pairs.documented Pairs.table _ ⟨[]⟩
    rfl hinserts rfl .fetchMany rfl⟩

end SqlxCloudflare
