import SqlxCloudflare.Core.Faults
import SqlxCloudflare.Do.Connection
import SqlxCloudflare.Do.Reading
import SqlxCloudflare.Do.Settled

/-!
# SqlxCloudflare.Do.Errors

What can go wrong in a session on Durable Object storage, whatever the storage
answers: nothing here assumes that it answers as it documents, but for what its
transactions are.

* `raises_fetch`, `raises_execute` -- each error of a statement names the
  argument that cannot be bound, what the storage threw, or what cannot be read
  of what it answered;
* `session_errors` -- so of every error a session's replies report and its
  callbacks are told of; and of the one panic there is, which ends the session.
-/

namespace SqlxCloudflare

open Executor Fallible

section

variable {DB : Type} [JsDebug]

/-! ## a statement that is fetched -/

/-- What cannot be read of a cursor: a column name, or one of the first `limit`
rows. -/
abbrev Cursor.Unreadable (cursor : Cursor DB) (limit : Option ℕ) : Error → Prop :=
  UnreadableTable "Durable Object storage returned a column name that is not a string"
    "Durable Object storage returned a row that is not an array" cursor.columnNames
    (limited limit cursor.raw.rows)

/-- The statement cannot be sent, throws, or answers what cannot be read. -/
inductive SqlStorage.FetchFails (storage : SqlStorage DB) (sql : String) (arguments : List Value)
    (limit : Option ℕ) (db : DB) : Error → Prop where
  | unbindable (error : Error) (h : Unbindable arguments error) :
      FetchFails storage sql arguments limit db error
  | throws (parameters : List JsValue) (hsend : toJsArray arguments = .ok parameters)
      (thrown : JsValue) (final : DB) (h : storage.Throws sql parameters db thrown final) :
      FetchFails storage sql arguments limit db (databaseError thrown)
  | unreadable (parameters : List JsValue) (hsend : toJsArray arguments = .ok parameters)
      (cursor : Cursor DB) (hexec : storage.exec sql parameters db = .ok cursor) (error : Error)
      (h : cursor.Unreadable limit error) :
      FetchFails storage sql arguments limit db error

theorem raises_readRow {cursor : Cursor DB} {limit : Option ℕ} {row : JsValue}
    (hmem : row ∈ limited limit cursor.raw.rows) :
    Raises (cursor.Unreadable limit) (readRow row) := by
  cases row with
  | array cells => exact raises_mapM_fromJs hmem
  | _ => exact raises_error (.row _ hmem rfl)

/-- The loop over a cursor fails with what its iterator throws, or for a row
that was wanted. -/
theorem raises_readRows {p : Error → Prop} {limit : Option ℕ} {iterator : RawIterator DB}
    {rows : List (List Value)}
    (hthrows : ∀ thrown final, iterator.toEnd = .error thrown final → p (databaseError thrown))
    (hrow : ∀ row ∈ wanted limit rows.length iterator.rows, Raises p (readRow row)) :
    Raises p (outcome (readRows limit rows iterator)) := by
  induction iterator generalizing rows with
  | ended db | last db final => exact raises_ok rows
  | throws db thrown final => exact raises_error (hthrows thrown final rfl)
  | yields db row rest ih =>
      have hlater : ∀ thrown final, rest.toEnd = .error thrown final →
          p (databaseError thrown) := by
        intro thrown final hend
        exact hthrows thrown final (by rw [RawIterator.toEnd, hend])
      rw [RawIterator.rows] at hrow
      rw [readRows]
      by_cases hwants : wants limit rows.length = true
      · rw [wanted_cons_of_wants hwants] at hrow
        rw [if_pos hwants]
        cases hread : readRow row with
        | ok values =>
            refine ih hlater fun row' hmem => hrow row' (List.mem_cons_of_mem _ ?_)
            rwa [List.length_append] at hmem
        | error error => exact raises_error (hrow row List.mem_cons_self error hread)
      · rw [if_neg hwants]
        refine ih hlater fun row' hmem => ?_
        rw [wanted_of_not_wants hwants] at hmem
        cases hmem

variable {storage : SqlStorage DB}

theorem raises_fetch (sql : String) (arguments : List Value) (limit : Option ℕ) (db : DB) :
    Raises (storage.FetchFails sql arguments limit db)
      (outcome (fetch storage sql arguments limit db)) := by
  cases hsend : toJsArray arguments with
  | error error =>
      rw [fetch_of_toJsArray_error hsend]
      exact raises_error (.unbindable error (raises_toJsArray arguments error hsend))
  | ok parameters =>
      cases hexec : storage.exec sql parameters db with
      | error thrown =>
          rw [fetch_of_exec_error hsend hexec]
          exact raises_error (.throws parameters hsend _ _ (.exec hexec))
      | ok cursor =>
          have hread : ∀ error, cursor.Unreadable limit error →
              storage.FetchFails sql arguments limit db error :=
            .unreadable parameters hsend cursor hexec
          cases hnames : columnNames cursor.columnNames with
          | error error =>
              rw [fetch_of_columnNames_error hsend hexec hnames]
              exact raises_error (hread error (raises_stringNames error hnames))
          | ok names =>
              cases hrows : readRows limit [] cursor.raw with
              | error error left =>
                  have hcursor := readCursor_of_readRows_error hnames hrows
                  rw [fetch_of_readCursor_error hsend hexec hcursor]
                  have hloop : Raises (storage.FetchFails sql arguments limit db)
                      (outcome (readRows limit [] cursor.raw)) := by
                    refine raises_readRows (fun thrown final hend => ?_) fun row hmem => ?_
                    · exact .throws parameters hsend thrown final (.next cursor hexec hend)
                    · rw [List.length_nil, wanted_zero] at hmem
                      exact (raises_readRow hmem).mono hread
                  rw [hrows] at hloop
                  exact raises_error (hloop error rfl)
              | ok values left =>
                  obtain ⟨final, hend⟩ := toEnd_of_readRows hrows
                  rw [outcome_fetch_of_toEnd hsend hexec hend, hnames, ok_bind]
                  refine Raises.bind ?_ fun rows _ => raises_ok _
                  exact (raises_readLimited readsRows_readRow
                    (fun row hmem => raises_readRow hmem) hnames).mono hread

/-! ## a statement that is executed -/

/-- The counts that came back cannot be reported. -/
inductive CountsFail : List Row → Error → Prop where
  | none : CountsFail []
      (.protocol "`SELECT changes(), last_insert_rowid()` returned no row")
  | column (row : Row) (rest : List Row) (i : Fin 2) (value : Value)
      (hvalue : row.values[i.val]? = some value) (source : BoxDynError)
      (h : value.int = .error source) : CountsFail (row :: rest) (.decode source)
  | negative (row : Row) (rest : List Row) (value : Value)
      (hvalue : row.values[0]? = some value) (changes : I64) (hint : value.int = .ok changes)
      (h : changes.val < 0) :
      CountsFail (row :: rest) (.decode "out of range integral type conversion attempted")

/-- The statement fails, or it wrote and its counts cannot be fetched or
reported. -/
inductive SqlStorage.ExecuteFails (storage : SqlStorage DB) (sql : String)
    (arguments : List Value) (limit : Option ℕ) (db : DB) : Error → Prop where
  | statement (error : Error) (h : storage.FetchFails sql arguments limit db error) :
      ExecuteFails storage sql arguments limit db error
  | counts (fetched : List Row) (written : U64) (after : DB)
      (hfetch : fetch storage sql arguments limit db = .ok (fetched, written) after)
      (hwritten : written.val ≠ 0) (error : Error)
      (h : storage.FetchFails countsSql [] none after error) :
      ExecuteFails storage sql arguments limit db error
  | report (fetched : List Row) (written : U64) (after : DB)
      (hfetch : fetch storage sql arguments limit db = .ok (fetched, written) after)
      (hwritten : written.val ≠ 0) (counts : List Row) (n : U64) (final : DB)
      (hcounts : fetch storage countsSql [] none after = .ok (counts, n) final) (error : Error)
      (h : CountsFail counts error) : ExecuteFails storage sql arguments limit db error

omit [JsDebug] in
theorem getElem?_of_valueAt {row : Row} {i : ℕ} {value : Value} (h : row.valueAt i = .ok value) :
    row.values[i]? = some value := by
  rw [Row.valueAt] at h
  split at h
  · next hvalue =>
      cases h
      exact hvalue
  · cases h

omit [JsDebug] in
theorem valueAt_ne_err (row : Row) (i : ℕ) (error : Error) :
    row.valueAt i ≠ .error (.err error) := by
  rw [Row.valueAt]
  split <;> simp

omit [JsDebug] in
theorem countsFail_of_queryResult {counts : List Row} {error : Error}
    (h : queryResult counts = .error (.err error)) : CountsFail counts error := by
  cases counts with
  | nil =>
      cases h
      exact .none
  | cons row rest =>
      have hcolumn : ∀ (i : Fin 2) (value : Value), row.valueAt i = .ok value →
          returns (value.int.mapError .decode) = .error (.err error) →
            CountsFail (row :: rest) error := by
        intro i value hvalue hint
        cases hdecode : value.int with
        | ok n =>
            rw [hdecode] at hint
            cases hint
        | error source =>
            rw [hdecode] at hint
            cases hint
            exact .column row rest i value (getElem?_of_valueAt hvalue) source hdecode
      rcases bind_eq_error_iff.mp h with hfirst | ⟨first, hfirst, h⟩
      · exact absurd hfirst (valueAt_ne_err row 0 error)
      rcases bind_eq_error_iff.mp h with hint | ⟨changes, hint, h⟩
      · exact hcolumn 0 first hfirst hint
      rcases bind_eq_error_iff.mp h with hsecond | ⟨second, hsecond, h⟩
      · exact absurd hsecond (valueAt_ne_err row 1 error)
      rcases bind_eq_error_iff.mp h with hrowid | ⟨rowid, hrowid, h⟩
      · exact hcolumn 1 second hsecond hrowid
      split at h
      · cases h
      · next hrange =>
          cases h
          rw [returns_eq_ok_iff, mapError_eq_ok_iff] at hint
          refine .negative row rest first (getElem?_of_valueAt hfirst) changes hint ?_
          have hle := changes.le_hi
          unfold IntRange.tryFrom at hrange
          split at hrange
          · cases hrange
          · omega

/-- An error of `execute`. -/
theorem executeFails_of_execute {sql : String} {arguments : List Value} {limit : Option ℕ}
    {db final : DB} {error : Error}
    (h : execute storage sql arguments limit db = .error (.err error) final) :
    storage.ExecuteFails sql arguments limit db error := by
  have hstatement : Raises (storage.FetchFails sql arguments limit db) _ :=
    raises_fetch sql arguments limit db
  cases hfetch : fetch storage sql arguments limit db with
  | error error' after =>
      rw [execute_of_fetch_error hfetch] at h
      cases h
      rw [hfetch] at hstatement
      exact .statement error (hstatement error rfl)
  | ok result after =>
      obtain ⟨fetched, written⟩ := result
      by_cases hwritten : written.val = 0
      · rw [execute_of_wrote_nothing hfetch hwritten] at h
        cases h
      · have hquery : Raises (storage.FetchFails countsSql [] none after) _ :=
          raises_fetch countsSql [] none after
        cases hcounts : fetch storage countsSql [] none after with
        | error error' left =>
            rw [execute_of_counts_error hfetch hwritten hcounts] at h
            cases h
            rw [hcounts] at hquery
            exact .counts fetched written after hfetch hwritten error (hquery error rfl)
        | ok result left =>
            obtain ⟨counts, n⟩ := result
            rw [execute_of_counts hfetch hwritten hcounts] at h
            cases hresult : queryResult counts with
            | ok result =>
                rw [hresult] at h
                cases h
            | error stop =>
                rw [hresult] at h
                cases h
                exact .report fetched written after hfetch hwritten counts n _ hcounts error
                  (countsFail_of_queryResult hresult)

/-- It wrote, and its counts come back as a row without both of its columns. -/
def SqlStorage.Tears (storage : SqlStorage DB) (sql : String) (arguments : List Value)
    (limit : Option ℕ) (db : DB) : Prop :=
  ∃ fetched written after, fetch storage sql arguments limit db = .ok (fetched, written) after ∧
    written.val ≠ 0 ∧ storage.Torn after

/-! ## a call of the executor -/

/-- The query's arguments were not bound, or its statement fails. -/
inductive SqlStorage.CallFails (storage : SqlStorage DB) (query : Query) (db : DB) :
    Method → Error → Prop where
  | arguments (method : Method) (source : BoxDynError) (h : query.arguments = .error source) :
      CallFails storage query db method (.encode source)
  | run (method : Method) (hmethod : method = .execute ∨ method = .executeMany)
      (arguments : Option Arguments) (harguments : query.arguments = .ok arguments)
      (error : Error)
      (h : storage.ExecuteFails query.sql (argumentsOf arguments) (some 0) db error) :
      CallFails storage query db method error
  | fetchMany (arguments : Option Arguments) (harguments : query.arguments = .ok arguments)
      (error : Error) (h : storage.FetchFails query.sql (argumentsOf arguments) none db error) :
      CallFails storage query db .fetchMany error
  | fetchOptional (arguments : Option Arguments) (harguments : query.arguments = .ok arguments)
      (error : Error)
      (h : storage.FetchFails query.sql (argumentsOf arguments) (some 1) db error) :
      CallFails storage query db .fetchOptional error

/-- It is executed, and its counts are torn. -/
structure SqlStorage.CallTears (storage : SqlStorage DB) (query : Query) (db : DB)
    (method : Method) : Prop where
  method : method = .execute ∨ method = .executeMany
  tears : ∃ arguments, query.arguments = .ok arguments ∧
    storage.Tears query.sql (argumentsOf arguments) (some 0) db

/-- An error of a call. -/
theorem callFails_of_call {method : Method} {query : Query} {db final : DB} {error : Error}
    (h : call storage method query db = .error (.err error) final) :
    storage.CallFails query db method error := by
  cases hargs : query.arguments with
  | error source =>
      rw [call_of_arguments_error hargs] at h
      cases h
      exact .arguments method source hargs
  | ok arguments =>
      have hrun : ∀ {α : Type} {f : QueryResult → α},
          (f <$> run storage query.sql (argumentsOf arguments)) db = .error (.err error) final →
            storage.ExecuteFails query.sql (argumentsOf arguments) (some 0) db error :=
        fun hmap => executeFails_of_execute (run_map_eq_error (run_map_eq_error hmap))
      have hfetch : ∀ {limit : Option ℕ} {f : List Row × U64 → EStateM Error DB Answer},
          (∀ result t, Raises (fun _ => False) (outcome (f result t))) →
            returning (fetch storage query.sql (argumentsOf arguments) limit >>= f) db =
              .error (.err error) final →
            storage.FetchFails query.sql (argumentsOf arguments) limit db error := by
        intro limit f hf hreturning
        have herror : outcome ((fetch storage query.sql (argumentsOf arguments) limit >>= f) db) =
            .error error := by
          rw [← returns_eq_err_iff, ← outcome_returning, hreturning]
          rfl
        exact raises_run_bind (raises_fetch _ _ _ db)
          (fun result t _ => (hf result t).mono fun _ => False.elim) error herror
      rw [call_of_arguments_ok hargs] at h
      cases method with
      | execute => exact .run .execute (.inl rfl) arguments hargs error (hrun h)
      | executeMany => exact .run .executeMany (.inr rfl) arguments hargs error (hrun h)
      | fetchMany =>
          exact .fetchMany arguments hargs error (hfetch (fun _ _ => raises_ok _) h)
      | fetchOptional =>
          exact .fetchOptional arguments hargs error (hfetch (fun _ _ => raises_ok _) h)

/-- A panic of a call. -/
theorem callTears_of_call {method : Method} {query : Query} {db final : DB} {panic : Panic}
    (h : call storage method query db = .error (.panic panic) final) :
    storage.CallTears query db method := by
  cases hargs : query.arguments with
  | error source =>
      rw [call_of_arguments_error hargs] at h
      cases h
  | ok arguments =>
      have hrun : ∀ {α : Type} {f : QueryResult → α},
          (f <$> run storage query.sql (argumentsOf arguments)) db =
              .error (.panic panic) final →
            storage.Tears query.sql (argumentsOf arguments) (some 0) db :=
        fun hmap => torn_of_execute_panic (run_map_eq_error (run_map_eq_error hmap))
      have hreturning : ∀ {x : EStateM Error DB Answer},
          returning x db ≠ .error (.panic panic) final := by
        intro x hx
        have hne := returns_ne_panic (outcome (x db)) panic
        rw [← outcome_returning, hx] at hne
        exact hne rfl
      rw [call_of_arguments_ok hargs] at h
      cases method with
      | execute => exact ⟨.inl rfl, arguments, hargs, hrun h⟩
      | executeMany => exact ⟨.inr rfl, arguments, hargs, hrun h⟩
      | fetchMany | fetchOptional => exact absurd h hreturning

/-! ## a callback -/

/-- The calls a callback makes when nothing else runs, and the database each is
made on. -/
inductive Callback.Calls {T E : Type} (tx : DoTransaction DB) (method : Method) (query : Query)
    (mid : DB) : Callback T E → DB → Prop where
  | await (next : Callback T E) (db : DB) (h : next.Calls tx method query mid db) :
      Calls tx method query mid (.await next) db
  | keep (next : Callback T E) (db : DB) (h : next.Calls tx method query mid db) :
      Calls tx method query mid (.keep next) db
  | here (next : Except Error Answer → Callback T E) :
      Calls tx method query mid (.statement method query next) mid
  | later (first : Method) (earlier : Query) (next : Except Error Answer → Callback T E) (db : DB)
      (answer : Except Error Answer)
      (htold : returned (outcome (call tx.sql first earlier db)) = .ok answer)
      (h : (next answer).Calls tx method query mid (stateOf (call tx.sql first earlier db))) :
      Calls tx method query mid (.statement first earlier next) db

/-- A callback panics where one of its calls does. -/
theorem calls_of_run_panic {T E : Type} {callback : Callback T E} {tx : DoTransaction DB}
    {db left : DB} {panic : Panic} (h : callback.run tx db = .error (.panic panic) left) :
    ∃ method query mid left', callback.Calls tx method query mid db ∧
      call tx.sql method query mid = .error (.panic panic) left' := by
  induction callback generalizing db with
  | ret result => cases result <;> cases h
  | await next ih =>
      obtain ⟨method, query, mid, left', hcalls, hcall⟩ := ih h
      exact ⟨method, query, mid, left', .await next db hcalls, hcall⟩
  | keep next ih =>
      obtain ⟨method, query, mid, left', hcalls, hcall⟩ := ih h
      exact ⟨method, query, mid, left', .keep next db hcalls, hcall⟩
  | statement method query next ih =>
      cases htold : returned (outcome (call tx.sql method query db)) with
      | error panic' =>
          rw [run_statement_of_panic htold] at h
          cases h
          exact ⟨method, query, db, _, .here next, result_ext (returned_eq_error_iff.mp htold) rfl⟩
      | ok answer =>
          rw [run_statement htold] at h
          obtain ⟨method', query', mid, left', hcalls, hcall⟩ := ih answer h
          have hlater := Callback.Calls.later method query next db answer htold hcalls
          exact ⟨method', query', mid, left', hlater, hcall⟩

/-! ## a session -/

variable {T E : Type}

/-- The driver's errors that a reply reports; a transaction's is of its
callback's type. -/
def Reply.errors : Reply T E → List Error
  | .answer result => (errorOf result).toList
  | .results result => (errorOf result).toList
  | .items list => list.filterMap errorOf
  | .value _ => []
  | .statement result => (errorOf result).toList

namespace DoConnection

/-- A statement of a batch, and the database it is run on: those before it have
all succeeded. -/
def Reaches (connection : DoConnection DB) (queries : List Query) (db : DB)
    (statement : String × Arguments) (mid : DB) : Prop :=
  ∃ pre post entries, queries.mapM takeOwned = .ok (pre ++ statement :: post) ∧
    All (fun statement => execute connection.sql statement.1 statement.2.values none)
      db pre entries mid

/-- The storage fails a transaction whose callback has not: it reports a
failure, or it has not run the callback. -/
inductive StorageFails [FromError E] (connection : DoConnection DB)
    (callback : DoTransaction DB → EStateM (Stop E) DB T) (db : DB) : E → Prop where
  | failed (message : WorkerError) (ran : Bool) (slot : Option (Except E T)) (final : DB)
      (hcall : connection.storage.transaction (closure connection.handle callback) none db =
        .ok ⟨.error message, ran, slot⟩ final) (hslot : ∀ error, slot ≠ some (.error error)) :
      StorageFails connection callback db (FromError.fromError
        (.protocol s!"the Durable Object storage transaction failed: {message}"))
  | neverRan (final : DB)
      (hcall : connection.storage.transaction (closure connection.handle callback) none db =
        .ok ⟨.ok (), false, none⟩ final) :
      StorageFails connection callback db (FromError.fromError
        (.protocol "the Durable Object storage transaction never ran its callback"))

/-- A batch fails: the arguments of one of its queries were not bound, one of
its statements fails, or its transaction does. -/
inductive RunBatchFails (connection : DoConnection DB) (queries : List Query) (db : DB) :
    Error → Prop where
  | arguments (query : Query) (hmem : query ∈ queries) (source : BoxDynError)
      (h : query.arguments = .error source) :
      RunBatchFails connection queries db (.encode source)
  | statement (statement : String × Arguments) (mid : DB)
      (hreaches : connection.Reaches queries db statement mid) (error : Error)
      (h : connection.sql.ExecuteFails statement.1 statement.2.values none mid error) :
      RunBatchFails connection queries db error
  | transaction (statements : List (String × Arguments))
      (htake : queries.mapM takeOwned = .ok statements) (hne : statements ≠ []) (error : Error)
      (h : connection.StorageFails (runStatements statements) db error) :
      RunBatchFails connection queries db error

/-- One of a batch's statements is torn. -/
def BatchTears (connection : DoConnection DB) (queries : List Query) (db : DB) : Prop :=
  ∃ statement mid, connection.Reaches queries db statement mid ∧
    connection.sql.Tears statement.1 statement.2.values none mid

/-- An operation fails: its call or its batch does, or it is something that
cannot be done. -/
inductive Fails (connection : DoConnection DB) (db : DB) : Operation T E → Error → Prop where
  | call (method : Method) (query : Query) (error : Error)
      (h : connection.sql.CallFails query db method error) :
      Fails connection db (.call method query) error
  | executeBatch (queries : List Query) (error : Error)
      (h : connection.RunBatchFails queries db error) :
      Fails connection db (.executeBatch queries) error
  | fetchBatch (queries : List Query) (error : Error)
      (h : connection.RunBatchFails queries db error) :
      Fails connection db (.fetchBatch queries) error
  | begin (formality : Formality)
      (h : formality = .begin ∨ formality = .commit ∨ formality = .rollback) :
      Fails connection db (.formality formality) (unsupported noTransactions)
  | describe (sql : String) :
      Fails connection db (.formality (.describe sql))
        (unsupported "statements cannot be described")

/-- An operation panics: its call, a statement of its batch, or a call of its
callback has written, and the counts it is told are torn. -/
inductive Panics (connection : DoConnection DB) (db : DB) : Operation T E → Prop where
  | call (method : Method) (query : Query) (h : connection.sql.CallTears query db method) :
      Panics connection db (.call method query)
  | executeBatch (queries : List Query) (h : connection.BatchTears queries db) :
      Panics connection db (.executeBatch queries)
  | fetchBatch (queries : List Query) (h : connection.BatchTears queries db) :
      Panics connection db (.fetchBatch queries)
  | transaction (callback : Callback T E) (method : Method) (query : Query) (mid : DB)
      (hcalls : callback.Calls connection.handle method query mid db)
      (h : connection.sql.CallTears query mid method) :
      Panics connection db (.transaction callback)

variable {connection : DoConnection DB}

/-! ## transactions and batches -/

omit [JsDebug] in
/-- An error of a transaction is its callback's, or the storage's. -/
theorem error_of_transaction [FromError E] (h : connection.storage.Transactional)
    {callback : DoTransaction DB → EStateM (Stop E) DB T} {db final : DB} {error : E}
    (herror : connection.transaction callback db = .error (.err error) final) :
    (∃ left, callback connection.handle db = .error (.err error) left) ∨
      connection.StorageFails callback db error := by
  cases transaction_transacts h callback db with
  | notRan report hcall htransaction =>
      rw [htransaction] at herror
      cases report with
      | ok u =>
          cases herror
          exact .inr (.neverRan db hcall)
      | error message =>
          cases herror
          exact .inr (.failed message false none _ hcall (by simp))
  | panicked panic left final hfinished hcall htransaction =>
      rw [htransaction] at herror
      cases herror
  | ran report result left hfinished hcall htransaction =>
      rw [htransaction] at herror
      cases result with
      | error error' =>
          have hsame : error' = error := by
            cases report <;> cases herror <;> rfl
          subst hsame
          exact .inl ⟨left, eq_err_of_attempt hfinished⟩
      | ok value =>
          cases report with
          | ok u => cases herror
          | error message =>
              cases herror
              exact .inr (.failed message true _ _ hcall (by simp))

theorem reaches_of_runStatements {queries : List Query} {statements : List (String × Arguments)}
    (htake : queries.mapM takeOwned = .ok statements) {db left : DB} {stop : Stop Error}
    (h : runStatements statements connection.handle db = .error stop left) :
    ∃ statement mid, connection.Reaches queries db statement mid ∧
      execute connection.sql statement.1 statement.2.values none mid = .error stop left := by
  rw [runStatements_eq] at h
  obtain ⟨pre, statement, post, entries, mid, rfl, hpre, hstatement⟩ :=
    run_mapM_eq_error_iff.mp (run_map_eq_error h)
  exact ⟨statement, mid, ⟨pre, post, entries, htake, hpre⟩, hstatement⟩

theorem fails_of_runBatch (h : connection.storage.Transactional) {queries : List Query}
    {db final : DB} {error : Error}
    (herror : connection.runBatch queries db = .error (.err error) final) :
    connection.RunBatchFails queries db error := by
  cases htake : queries.mapM takeOwned with
  | error error' =>
      rw [runBatch_of_error htake] at herror
      cases herror
      obtain ⟨query, hmem, source, hsource, rfl⟩ := exists_of_mapM_takeOwned_error htake
      exact .arguments query hmem source hsource
  | ok statements =>
      by_cases hne : statements = []
      · subst hne
        have hnil := mapM_eq_ok_iff.mp htake
        cases hnil
        rw [runBatch_nil] at herror
        cases herror
      · rw [runBatch_of_ok htake hne] at herror
        rcases error_of_transaction h herror with ⟨left, hrun⟩ | hstorage
        · obtain ⟨statement, mid, hreaches, hexecute⟩ := reaches_of_runStatements htake hrun
          exact .statement statement mid hreaches error (executeFails_of_execute hexecute)
        · exact .transaction statements htake hne error hstorage

theorem tears_of_runBatch (h : connection.storage.Transactional) {queries : List Query}
    {db final : DB} {panic : Panic}
    (hpanic : connection.runBatch queries db = .error (.panic panic) final) :
    connection.BatchTears queries db := by
  cases htake : queries.mapM takeOwned with
  | error error' =>
      rw [runBatch_of_error htake] at hpanic
      cases hpanic
  | ok statements =>
      by_cases hne : statements = []
      · subst hne
        have hnil := mapM_eq_ok_iff.mp htake
        cases hnil
        rw [runBatch_nil] at hpanic
        cases hpanic
      · rw [runBatch_of_ok htake hne] at hpanic
        obtain ⟨left, hrun⟩ := panic_of_transaction h hpanic
        obtain ⟨statement, mid, hreaches, hexecute⟩ := reaches_of_runStatements htake hrun
        exact ⟨statement, mid, hreaches, torn_of_execute_panic hexecute⟩

/-- The batch whose result is looked at, is the one there is. -/
theorem fetchBatch_eq (queries : List Query) (db : DB) :
    connection.fetchBatch queries db =
      match attempt (connection.runBatch queries) db with
      | .ok (.ok results) left => .ok (results.map .ok) left
      | .ok (.error error) left => .ok [.error error] left
      | .error panic left => .error panic left := by
  match hattempt : attempt (connection.runBatch queries) db with
  | .ok (.ok results) left =>
      rw [fetchBatch, run_bind_of_ok hattempt]
      rfl
  | .ok (.error error) left =>
      rw [fetchBatch, run_bind_of_ok hattempt]
      rfl
  | .error panic left => rw [fetchBatch, run_bind_of_error hattempt]

/-! ## every operation -/

variable [FromError E]

/-- The errors of a reply. -/
theorem fails_of_perform (h : connection.storage.Transactional) {op : Operation T E} {db final : DB}
    {reply : Reply T E} (hreply : connection.perform op db = .ok reply final) :
    ∀ error ∈ reply.errors, connection.Fails db op error := by
  intro error herror
  cases op with
  | call method query =>
      obtain ⟨result, hresult, rfl⟩ := run_map_eq_ok hreply
      rw [mem_errorOf.mp herror] at hresult
      exact .call method query error (callFails_of_call (eq_err_of_attempt hresult))
  | executeBatch queries =>
      obtain ⟨result, hresult, rfl⟩ := run_map_eq_ok hreply
      rw [mem_errorOf.mp herror] at hresult
      exact .executeBatch queries error
        (fails_of_runBatch h (run_map_eq_error (eq_err_of_attempt hresult)))
  | fetchBatch queries =>
      obtain ⟨items, hitems, rfl⟩ := run_map_eq_ok hreply
      rw [fetchBatch_eq] at hitems
      split at hitems
      · cases hitems
        rw [Reply.errors, filterMap_errorOf_ok] at herror
        cases herror
      · next error' left hattempt =>
          cases hitems
          obtain rfl := List.mem_singleton.mp herror
          exact .fetchBatch queries error (fails_of_runBatch h (eq_err_of_attempt hattempt))
      · cases hitems
  | transaction callback =>
      obtain ⟨result, hresult, rfl⟩ := run_map_eq_ok hreply
      cases herror
  | formality formality =>
      obtain ⟨result, hresult, rfl⟩ := run_map_eq_ok hreply
      rw [mem_errorOf.mp herror] at hresult
      cases formality with
      | close | ping | flush | prepareWith _ _ => cases hresult
      | begin =>
          cases hresult
          exact .begin _ (.inl rfl)
      | commit =>
          cases hresult
          exact .begin _ (.inr (.inl rfl))
      | rollback =>
          cases hresult
          exact .begin _ (.inr (.inr rfl))
      | describe sql =>
          cases hresult
          exact .describe sql

/-- A panic. -/
theorem panics_of_perform (h : connection.storage.Transactional) {op : Operation T E}
    {db left : DB} {panic : Panic} (hpanic : connection.perform op db = .error panic left) :
    connection.Panics db op := by
  cases op with
  | call method query =>
      have hcall := attempt_eq_panic_iff.mp (run_map_eq_error hpanic)
      exact .call method query (callTears_of_call hcall)
  | executeBatch queries =>
      have hbatch := attempt_eq_panic_iff.mp (run_map_eq_error hpanic)
      exact .executeBatch queries (tears_of_runBatch h (run_map_eq_error hbatch))
  | fetchBatch queries =>
      have hfetch := run_map_eq_error hpanic
      rw [fetchBatch_eq] at hfetch
      split at hfetch
      · cases hfetch
      · cases hfetch
      · next hattempt =>
          exact .fetchBatch queries (tears_of_runBatch h (attempt_eq_panic_iff.mp hattempt))
  | transaction callback =>
      have htransaction := attempt_eq_panic_iff.mp (run_map_eq_error hpanic)
      obtain ⟨left', hrun⟩ := panic_of_transaction h htransaction
      obtain ⟨method, query, mid, _, hcalls, hcall⟩ := calls_of_run_panic hrun
      exact .transaction callback method query mid hcalls (callTears_of_call hcall)
  | formality formality =>
      have hanswer := run_map_eq_error hpanic
      rw [attempt_returning] at hanswer
      cases hanswer

end DoConnection

/-- **What goes wrong in a session, whatever the storage answers**: each error
that a reply reports says what failed of its operation, on the database that
the operations before it left; a transaction's is its callback's own, or says
that the storage failed it; each error that a callback is told of says what
failed of its statement, on the database it was run on; and the session panics
only where an operation has written and the counts it is told are torn, after
the operations before it have replied. -/
theorem session_errors [FromError E] (connection : DoConnection DB)
    (h : connection.storage.Transactional) (ops : List (Operation T E)) (db : DB) :
    (∀ replies final, connection.session ops db = .ok replies final →
        ∀ (k : ℕ) op reply, ops[k]? = some op → replies[k]? = some reply →
          ∃ mid, connection.session (ops.take k) db = .ok (replies.take k) mid ∧
            (∀ error ∈ reply.errors, connection.Fails mid op error) ∧
            ∀ callback error, op = .transaction callback → reply = .value (.error error) →
              (∃ left, callback.run connection.handle mid = .error (.err error) left) ∨
                connection.StorageFails callback.run mid error) ∧
      (∀ method query mid error left,
        call connection.handle.sql method query mid = .error (.err error) left →
          connection.sql.CallFails query mid method error) ∧
      ∀ panic left, connection.session ops db = .error panic left →
        ∃ pre op post replies mid, ops = pre ++ op :: post ∧
          connection.session pre db = .ok replies mid ∧
            connection.perform op mid = .error panic left ∧ connection.Panics mid op := by
  refine ⟨fun replies final hsession k op reply hop hreply => ?_,
    fun method query mid error left hcall => callFails_of_call hcall,
    fun panic left hsession => ?_⟩
  · obtain ⟨reply', mid, after, hreply', hbefore, hperform⟩ :=
      (run_mapM_eq_ok_iff.mp hsession).at hop
    rw [hreply] at hreply'
    cases hreply'
    refine ⟨mid, run_mapM_of_all hbefore, DoConnection.fails_of_perform h hperform, ?_⟩
    rintro callback error rfl rfl
    obtain ⟨result, hresult, hvalue⟩ := run_map_eq_ok hperform
    cases hvalue
    exact DoConnection.error_of_transaction h (eq_err_of_attempt hresult)
  · obtain ⟨pre, op, post, replies, mid, rfl, hpre, hperform⟩ := run_mapM_eq_error_iff.mp hsession
    exact ⟨pre, op, post, replies, mid, rfl, run_mapM_of_all hpre, hperform,
      DoConnection.panics_of_perform h hperform⟩

end

/-! ## on a storage whose counts have no columns -/

/-- That storage, over the number of statements it has run. -/
def SqlStorage.uncounted : SqlStorage ℕ where
  exec sql _ n :=
    if sql = countsSql then
      .ok ⟨[], .yields n (.array []) (.last n n), Ieee.Binary.ofInt Ieee.binary64 0⟩
    else .ok ⟨[], .last (n + 1) (n + 1), Ieee.Binary.ofInt Ieee.binary64 1⟩

/-- A transaction that cannot begin, and an insert that is run and whose counts
cannot be told: the session is over. -/
theorem session_errors_uncounted :
    letI := JsDebug.describing
    let insert : Operation Unit Error := .call .execute ⟨"INSERT INTO t VALUES (1)", .ok none⟩
    (∃ panic, (DoConnection.new (.ofSql .uncounted)).session
        [.formality .begin, insert] 0 = .error panic 1) ∧
      (DoConnection.new (.ofSql .uncounted)).Panics 0 insert := by
  let := JsDebug.describing
  intro insert
  have hsession : ∃ panic, (DoConnection.new (.ofSql .uncounted)).session
      [.formality .begin, insert] 0 = .error panic 1 := by
    have hfetch : fetch SqlStorage.uncounted "INSERT INTO t VALUES (1)" [] (some 0) 0 =
        .ok ([], asU64 (Ieee.Binary.ofInt Ieee.binary64 1)) 1 := rfl
    have hcounts : fetch SqlStorage.uncounted countsSql [] none 1 =
        .ok ([⟨[], []⟩], asU64 (Ieee.Binary.ofInt Ieee.binary64 0)) 1 := rfl
    have hcall : call SqlStorage.uncounted .execute ⟨"INSERT INTO t VALUES (1)", .ok none⟩ 0 =
        .error (.panic ⟨"index out of bounds"⟩) 1 := by
      rw [call_of_arguments_ok rfl]
      exact run_map_of_error (run_map_of_error
        (execute_of_counts hfetch (by decide +kernel) hcounts))
    have hinsert : (DoConnection.new (.ofSql .uncounted)).perform insert 0 =
        .error ⟨"index out of bounds"⟩ 1 :=
      run_map_of_error (run_attempt_of_panic hcall)
    exact ⟨_, run_mapM_of_firstFails ⟨[_], _, [], _, _, rfl, .cons rfl (.nil _), hinsert⟩⟩
  refine ⟨hsession, ?_⟩
  obtain ⟨panic, hpanic⟩ := hsession
  obtain ⟨pre, op, post, replies, mid, hops, hpre, hperform, hpanics⟩ :=
    (session_errors _ (Storage.transactional_ofSql _) _ 0).2.2 panic 1 hpanic
  match pre with
  | [] =>
      cases hops
      cases hperform
  | [_] =>
      cases hops
      cases hpre
      exact hpanics
  | _ :: _ :: _ => simp at hops

end SqlxCloudflare
