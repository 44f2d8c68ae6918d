import SqlxCloudflare.Do.Immediate

/-!
# SqlxCloudflare.Do.Batched

A batch as the transaction a program could have written itself: a callback that
executes the queries one after another and stops at the first that fails
(`Callback.batch`).  A batch converts its statements' rows and `execute` does
not, but on a tabular storage that makes no difference to what they leave and
report; and what a transaction resolves to does not depend on how its callback
is written, as long as the storage cannot look inside.

* `attempt_batch` -- what the callback comes to, from what the batch's does;
* `executeBatch_eq_transaction` -- so they are the same transaction;
* `batch_in_one_piece` -- and no other future comes between its statements.
-/

namespace SqlxCloudflare

open Executor Fallible

variable {DB T U E : Type}

/-! ## the callback -/

/-- What an answer reports as done. -/
def Executor.Answer.reported : Answer → List QueryResult
  | .executed result => [result]
  | .executedMany results => results
  | .rows _ | .row _ => []

/-- The callback that executes `queries` in order, after others that did
`done`, and stops at the first that fails. -/
def Callback.batch (finish : Except Error (List QueryResult) → Except E T) :
    List Query → List QueryResult → Callback T E
  | [], done => .ret (finish (.ok done))
  | query :: queries, done => .statement .execute query fun
    | .ok answer => batch finish queries (done ++ answer.reported)
    | .error error => .ret (finish (.error error))

/-- It never awaits. -/
theorem Callback.immediate_batch (finish : Except Error (List QueryResult) → Except E T)
    (queries : List Query) (done : List QueryResult) :
    (Callback.batch finish queries done).Immediate := by
  induction queries generalizing done with
  | nil => exact .ret _
  | cons query queries ih =>
      refine .statement _ _ fun answer => ?_
      cases answer with
      | ok answer => exact ih _
      | error error => exact .ret _

section

variable [JsDebug] {storage : SqlStorage DB} {sql : String} {arguments : List Value}

/-! ## rows that are converted, and rows that are not -/

omit [JsDebug] in
/-- A statement throws in one way. -/
theorem SqlStorage.Throws.unique {parameters : List JsValue} {db final final' : DB}
    {error error' : JsValue} (h : storage.Throws sql parameters db error final)
    (h' : storage.Throws sql parameters db error' final') : error = error' ∧ final = final' := by
  cases h with
  | exec h =>
      cases h' with
      | exec h' =>
          rw [h] at h'
          cases h'
          exact ⟨rfl, rfl⟩
      | next cursor h' =>
          rw [h] at h'
          cases h'
  | next cursor h hend =>
      cases h' with
      | exec h' =>
          rw [h] at h'
          cases h'
      | next cursor' h' hend' =>
          rw [h] at h'
          cases h'
          rw [hend] at hend'
          cases hend'
          exact ⟨rfl, rfl⟩

/-- How many rows are converted changes neither what a statement leaves nor
what it has written. -/
theorem snd_fetch (h : storage.Tabular) (sql : String) (arguments : List Value)
    (limit limit' : Option ℕ) (db : DB) :
    (Prod.snd <$> fetch storage sql arguments limit) db =
      (Prod.snd <$> fetch storage sql arguments limit') db := by
  cases hbind : toJsArray arguments with
  | error error =>
      rw [run_map_of_error (fetch_of_toJsArray_error hbind limit),
        run_map_of_error (fetch_of_toJsArray_error hbind limit')]
  | ok parameters =>
      rcases fetch_cases h hbind limit db with
        ⟨error, final, hthrows, hfetch⟩ | ⟨cursor, values, final, rs, hcompletes, hfetch⟩
      · rcases fetch_cases h hbind limit' db with
          ⟨error', final', hthrows', hfetch'⟩ |
            ⟨cursor', values', final', rs', hcompletes', hfetch'⟩
        · obtain ⟨rfl, rfl⟩ := hthrows.unique hthrows'
          rw [run_map_of_error hfetch, run_map_of_error hfetch']
        · have hcompleted := completed_of_completes hcompletes'
          rw [completed_of_throws hthrows] at hcompleted
          cases hcompleted
      · rcases fetch_cases h hbind limit' db with
          ⟨error', final', hthrows', hfetch'⟩ |
            ⟨cursor', values', final', rs', hcompletes', hfetch'⟩
        · have hcompleted := completed_of_completes hcompletes
          rw [completed_of_throws hthrows'] at hcompleted
          cases hcompleted
        · obtain ⟨rfl, rfl⟩ := hcompletes.unique hcompletes'
          rw [run_map_of_ok hfetch, run_map_of_ok hfetch']

/-- What `execute` reports, from what was written. -/
def counted (storage : SqlStorage DB) (rowsWritten : U64) :
    EStateM (Stop Error) DB QueryResult :=
  if rowsWritten.val = 0 then return .default
  else do
    let (counts, _) ← returning (fetch storage countsSql [] none)
    lift (queryResult counts)

theorem snd_execute_eq (storage : SqlStorage DB) (sql : String) (arguments : List Value)
    (limit : Option ℕ) :
    (Prod.snd <$> execute storage sql arguments limit : EStateM (Stop Error) DB QueryResult) =
      (Prod.snd <$> returning (fetch storage sql arguments limit)) >>= counted storage := by
  simp only [execute, counted, map_bind, bind_map_left]
  congr 1
  funext result
  split
  · simp
  · simp

/-- A statement that is run for its effect reports what it does with its
rows. -/
theorem run_eq_snd_execute (h : storage.Tabular) (sql : String) (arguments : List Value)
    (limit : Option ℕ) (db : DB) :
    run storage sql arguments db = (Prod.snd <$> execute storage sql arguments limit) db := by
  have hfetch : (Prod.snd <$> fetch storage sql arguments (some 0) : EStateM Error DB U64) =
      Prod.snd <$> fetch storage sql arguments limit :=
    funext fun db => snd_fetch h sql arguments (some 0) limit db
  rw [run, snd_execute_eq, snd_execute_eq, ← returning_map, hfetch, returning_map]

/-! ## the callback, and the batch's own -/

/-- A statement of a batch reports what `execute` does. -/
theorem map_runStatement (storage : SqlStorage DB) (statement : String × Arguments) :
    (BatchResult.result <$> runStatement storage statement :
      EStateM (Stop Error) DB QueryResult) =
      Prod.snd <$> execute storage statement.1 statement.2.values none := by
  simp only [runStatement, Functor.map_map]

/-- A query that could be taken is executed as the statement it was taken as. -/
theorem call_execute_of_takeOwned (h : storage.Tabular) {query : Query}
    {statement : String × Arguments} (htake : takeOwned query = .ok statement) (db : DB) :
    call storage .execute query db =
      ((fun result => .executed result.result) <$> runStatement storage statement) db := by
  obtain ⟨arguments, hargs, hstatement⟩ := bind_eq_ok_iff.mp htake
  rw [mapError_eq_ok_iff] at hargs
  cases hstatement
  have hvalues : argumentsOf arguments = (arguments.getD .default).values := by
    cases arguments <;> rfl
  have hrun := run_eq_snd_execute h query.sql (argumentsOf arguments) none db
  have hstatement := congrFun (map_runStatement storage (query.sql, arguments.getD .default)) db
  rw [call_of_arguments_ok hargs]
  simp only [hvalues] at hrun ⊢
  rw [← hstatement] at hrun
  cases hresult : runStatement storage (query.sql, arguments.getD .default) db with
  | ok result final =>
      rw [run_map_of_ok hresult] at hrun ⊢
      exact run_map_of_ok hrun
  | error error final =>
      rw [run_map_of_error hresult] at hrun ⊢
      exact run_map_of_error hrun

/-- The callback comes to what the statements of the batch do, one after
another. -/
theorem attempt_batch (h : storage.Tabular)
    (finish : Except Error (List QueryResult) → Except E T)
    {queries : List Query} {statements : List (String × Arguments)}
    (htake : List.Forall₂ (fun query statement => takeOwned query = .ok statement)
      queries statements) (tx : DoTransaction DB) (htx : tx.sql = storage)
    (done : List QueryResult) (db : DB) :
    attempt ((Callback.batch finish queries done).run tx) db =
      ((fun result => finish (result.map fun results => done ++ results.map BatchResult.result))
        <$> attempt (runStatements statements tx)) db := by
  subst htx
  induction htake generalizing done db with
  | nil =>
      have hnil : attempt (runStatements [] tx) db = .ok (.ok []) db := run_attempt_of_ok rfl
      rw [run_map_of_ok hnil, Callback.batch, attempt_eq_ok_iff, outcome_ret, stateOf_ret]
      simp [Except.map]
  | @cons query statement queries statements hstatement _ ih =>
      have hcall := call_execute_of_takeOwned h hstatement db
      rw [Callback.batch]
      match hresult : runStatement tx.sql statement db with
      | .ok result final =>
          rw [run_map_of_ok hresult] at hcall
          have htold : returned (outcome (call tx.sql .execute query db)) =
              .ok (.ok (.executed result.result)) := by
            rw [hcall]
            rfl
          have hall : runStatements (statement :: statements) tx db =
              (List.cons result <$> runStatements statements tx) final :=
            run_mapM_cons_of_ok statements hresult
          have hmap := congrFun (attempt_map (List.cons result) (runStatements statements tx)) final
          rw [attempt_congr ((run_statement htold).trans (by rw [hcall])),
            run_map_congr _ ((attempt_congr hall).trans hmap)]
          refine (ih (done ++ [result.result]) final).trans ?_
          rw [Functor.map_map]
          refine congrFun (congrArg (· <$> attempt (runStatements statements tx))
            (funext fun rest => ?_)) final
          cases rest <;> simp [Except.map]
      | .error (.err error) final =>
          rw [run_map_of_error hresult] at hcall
          have htold : returned (outcome (call tx.sql .execute query db)) = .ok (.error error) := by
            rw [hcall]
            rfl
          have hfails : runStatements (statement :: statements) tx db =
              .error (.err error) final := run_mapM_cons_of_error statements hresult
          rw [run_map_of_ok (run_attempt_of_err hfails), attempt_eq_ok_iff, run_statement htold,
            hcall]
          exact ⟨outcome_ret _ _ _, stateOf_ret _ _ _⟩
      | .error (.panic panic) final =>
          rw [run_map_of_error hresult] at hcall
          have htold : returned (outcome (call tx.sql .execute query db)) = .error panic := by
            rw [hcall]
            rfl
          have hpanics : runStatements (statement :: statements) tx db =
              .error (.panic panic) final := run_mapM_cons_of_error statements hresult
          rw [run_map_of_error (run_attempt_of_panic hpanics), attempt_eq_panic_iff,
            run_statement_of_panic htold, hcall]
          rfl

/-! ## transactions the storage cannot tell apart -/

/-- `Storage::transaction` sees of its closure what it returns and the database
it leaves, and not the state it keeps. -/
def Storage.Oblivious (storage : Storage DB) : Prop :=
  ∀ {S S' : Type} (closure : S → EStateM Panic DB (Except WorkerError Unit × S))
    (closure' : S' → EStateM Panic DB (Except WorkerError Unit × S')) (s : S) (s' : S') (db : DB),
    (∀ db, (Prod.fst <$> closure s) db = (Prod.fst <$> closure' s') db) →
      ((fun call => (call.report, call.ran)) <$> storage.transaction closure s) db =
        ((fun call => (call.report, call.ran)) <$> storage.transaction closure' s') db

omit [JsDebug] in
theorem Storage.oblivious_ofSql (sql : SqlStorage DB) : (Storage.ofSql sql).Oblivious := by
  intro S S' closure closure' s s' db h
  have hseen := h db
  match hrun : closure s db, hrun' : closure' s' db with
  | .ok (report, t) left, .ok (report', t') left' =>
      rw [run_map_of_ok hrun, run_map_of_ok hrun'] at hseen
      cases hseen
      cases report <;> simp [ofSql, Functor.map, EStateM.map, hrun, hrun']
  | .error panic left, .error panic' left' =>
      rw [run_map_of_error hrun, run_map_of_error hrun'] at hseen
      cases hseen
      simp [ofSql, Functor.map, EStateM.map, hrun, hrun']
  | .ok _ _, .error _ _ =>
      rw [run_map_of_ok hrun, run_map_of_error hrun'] at hseen
      cases hseen
  | .error _ _, .ok _ _ =>
      rw [run_map_of_error hrun, run_map_of_ok hrun'] at hseen
      cases hseen

section

omit [JsDebug]

variable {connection : DoConnection DB}

theorem reconcile_map [FromError E] (f : T → U) (report : Except WorkerError Unit)
    (outcome : Option (Except E T)) :
    reconcile report (outcome.map (Except.map f)) = (reconcile report outcome).map f := by
  cases outcome with
  | none => cases report <;> rfl
  | some outcome => cases outcome <;> cases report <;> rfl

theorem commits_map (f : T → U) (result : Except E T) (report : Except WorkerError Unit) :
    DoConnection.commits (result.map f) report = DoConnection.commits result report := by
  cases result <;> rfl

/-- A callback's closure shows the storage the same, whatever is made of the
callback's value. -/
theorem closure_map (tx : DoTransaction DB) (f : T → U)
    {callback : DoTransaction DB → EStateM (Stop E) DB T}
    {callback' : DoTransaction DB → EStateM (Stop E) DB U}
    (hmap : attempt (callback' tx) = Except.map f <$> attempt (callback tx)) (db : DB) :
    (Prod.fst <$> closure tx callback' none) db = (Prod.fst <$> closure tx callback none) db := by
  cases hattempt : attempt (callback tx) db with
  | ok result left =>
      have hattempt' : attempt (callback' tx) db = .ok (result.map f) left := by
        rw [hmap, run_map_of_ok hattempt]
      rw [run_map_of_ok (DoConnection.closure_of_attempt none hattempt),
        run_map_of_ok (DoConnection.closure_of_attempt none hattempt')]
      cases result <;> rfl
  | error panic left =>
      have hattempt' : attempt (callback' tx) db = .error panic left := by
        rw [hmap, run_map_of_error hattempt]
      rw [run_map_of_error (DoConnection.closure_of_panic none hattempt),
        run_map_of_error (DoConnection.closure_of_panic none hattempt')]

/-- A transaction resolves to its callback's value, whatever is made of it. -/
theorem transaction_map [FromError E] (h : connection.storage.Transactional)
    (hoblivious : connection.storage.Oblivious) (f : T → U)
    {callback : DoTransaction DB → EStateM (Stop E) DB T}
    {callback' : DoTransaction DB → EStateM (Stop E) DB U}
    (hmap : attempt (callback' connection.handle) =
      Except.map f <$> attempt (callback connection.handle)) (db : DB) :
    connection.transaction callback' db = (f <$> connection.transaction callback) db := by
  have hcalls := hoblivious (closure connection.handle callback')
    (closure connection.handle callback) none none db (closure_map connection.handle f hmap)
  have hlift : ∀ (result : Except E T) (final : DB),
      (f <$> (lift (returns result) : EStateM (Stop E) DB T)) final =
        lift (returns (result.map f)) final := by
    intro result final
    cases result <;> rfl
  cases DoConnection.transaction_transacts h callback db with
  | notRan report hcall htransaction =>
      rw [run_map_of_ok hcall] at hcalls
      cases DoConnection.transaction_transacts h callback' db with
      | notRan report' hcall' htransaction' =>
          rw [run_map_of_ok hcall'] at hcalls
          cases hcalls
          rw [htransaction', run_map_congr f htransaction, hlift, ← reconcile_map]
          rfl
      | ran report' result' left' hfinished' hcall' =>
          rw [run_map_of_ok hcall'] at hcalls
          cases hcalls
      | panicked panic' left' final' hfinished' hcall' =>
          rw [run_map_of_error hcall'] at hcalls
          cases hcalls
  | ran report result left hfinished hcall htransaction =>
      rw [run_map_of_ok hcall] at hcalls
      cases DoConnection.transaction_transacts h callback' db with
      | notRan report' hcall' =>
          rw [run_map_of_ok hcall'] at hcalls
          cases hcalls
      | ran report' result' left' hfinished' hcall' htransaction' =>
          rw [run_map_of_ok hcall'] at hcalls
          rw [hmap, run_map_of_ok hfinished] at hfinished'
          cases hfinished'
          injection hcalls with hcall _
          cases hcall
          rw [htransaction', run_map_congr f htransaction, hlift, ← reconcile_map, commits_map]
          rfl
      | panicked panic' left' final' hfinished' hcall' =>
          rw [run_map_of_error hcall'] at hcalls
          cases hcalls
  | panicked panic left final hfinished hcall htransaction =>
      rw [run_map_of_error hcall] at hcalls
      cases DoConnection.transaction_transacts h callback' db with
      | notRan report' hcall' =>
          rw [run_map_of_ok hcall'] at hcalls
          cases hcalls
      | ran report' result' left' hfinished' hcall' =>
          rw [run_map_of_ok hcall'] at hcalls
          cases hcalls
      | panicked panic' left' final' hfinished' hcall' htransaction' =>
          rw [run_map_of_error hcall'] at hcalls
          cases hcalls
          rw [htransaction', run_map_of_error htransaction]

end

/-- **A batch is the transaction that executes its queries**: of a list that is
not empty, when every argument was bound, `execute_batch` resolves to, and
leaves, what `transaction` does with the callback that executes the queries one
after another and stops at the first that fails.  The storage answers in
tables, and its transactions cannot look into their closures; an empty list
opens no transaction, and so does not fail when one would. -/
theorem executeBatch_eq_transaction (connection : DoConnection DB)
    (htabular : connection.sql.Tabular) (h : connection.storage.Transactional)
    (hoblivious : connection.storage.Oblivious) {queries : List Query}
    (hbound : ∀ query ∈ queries, ∃ arguments, query.arguments = .ok arguments)
    (hne : queries ≠ []) (db : DB) :
    connection.executeBatch queries db =
      connection.transaction (Callback.batch id queries []).run db := by
  have htaken : ∃ statements, queries.mapM takeOwned = .ok statements := by
    rw [exists_mapM_eq_ok_iff]
    intro query hquery
    obtain ⟨arguments, hargs⟩ := hbound query hquery
    exact ⟨(query.sql, arguments.getD .default), by rw [takeOwned, hargs]; rfl⟩
  obtain ⟨statements, htake⟩ := htaken
  have hforall := mapM_eq_ok_iff.mp htake
  have hstatements : statements ≠ [] := by
    rintro rfl
    cases hforall
    exact hne rfl
  have hcallback : attempt ((Callback.batch id queries []).run connection.handle) =
      Except.map (List.map fun result => result.intoParts.2) <$>
        attempt (runStatements statements connection.handle) :=
    funext (attempt_batch htabular id hforall connection.handle rfl [])
  have hbatch : connection.runBatch queries db =
      connection.transaction (runStatements statements) db :=
    DoConnection.runBatch_of_ok htake hstatements db
  rw [transaction_map h hoblivious _ hcallback, DoConnection.executeBatch]
  exact run_map_congr _ hbatch

/-! ## among other futures -/

/-- It issues its queries, as far as they succeed. -/
theorem issued_batch (finish : Except Error (List QueryResult) → Except E T)
    (queries : List Query) (done : List QueryResult) (tx : DoTransaction DB) (db : DB) :
    (Callback.batch finish queries done).issued tx db <+: queries := by
  induction queries generalizing done db with
  | nil => exact List.nil_prefix
  | cons query queries ih =>
      rw [Callback.batch, Callback.issued]
      cases returned (outcome (call tx.sql .execute query db)) with
      | error panic => exact (List.prefix_cons_inj query).mpr List.nil_prefix
      | ok told =>
          cases told with
          | ok answer => exact (List.prefix_cons_inj query).mpr (ih _ _)
          | error error => exact (List.prefix_cons_inj query).mpr List.nil_prefix

/-- **A batch's statements are never interrupted**: of a batch whose arguments
were all bound, over a storage that answers in tables, in every interleaving
with the other futures of its request, they are one block of the history, the
first of its queries in order; and what the batch resolves to, and what its
block does to the database, is what its statements come to alone from the state
they were begun in. -/
theorem batch_in_one_piece [FromError E] (connection : DoConnection DB)
    (htabular : connection.sql.Tabular) (db : DB)
    (finish : Except Error (List QueryResult) → Except E T) {queries : List Query}
    {statements : List (String × Arguments)} (htake : queries.mapM takeOwned = .ok statements)
    (before labels : List (Label T E)) {s t : Requests DB T E}
    (hbefore : Machine.run (Requests.step connection) (.start db) before = some s)
    (hrun : Machine.run (Requests.step connection) s
      (.begin (Callback.batch finish queries []) :: labels) = some t) :
    t.Waiting s.ledger.next (Callback.batch finish queries []) ∨
      ∃ waiting rest u block after, labels = waiting ++ .callback :: rest ∧
        Machine.run (Requests.step connection) s
          (.begin (Callback.batch finish queries []) :: waiting) = some u ∧
        t.ledger.history = u.ledger.history ++ block ++ after ∧
        (∀ r ∈ t.ledger.history, r ∈ block ↔ r.write.via = .handle s.ledger.next) ∧
        block.map (·.write.query) <+: queries ∧
        ∀ value, (s.ledger.next, value) ∈ t.resolved →
          Ledger.replay (effect connection) u.ledger.state block =
              stateOf (runStatements statements connection.handle u.ledger.state) ∧
            ∃ report results,
              outcome (runStatements statements connection.handle u.ledger.state) =
                returns results ∧
              value = reconcile report
                (some (finish (results.map (List.map BatchResult.result)))) := by
  have himmediate := Callback.immediate_batch finish queries []
  rcases Requests.one_piece connection db _ himmediate before labels s t hbefore hrun with
    hwaiting | ⟨waiting, rest, u, block, after, hlabels, hu, hpiece⟩
  · exact .inl hwaiting
  · refine .inr ⟨waiting, rest, u, block, after, hlabels, hu, hpiece.history, hpiece.mem_iff,
      hpiece.issued.trans (issued_batch _ _ _ _ _), fun value hvalue => ?_⟩
    obtain ⟨_, hreplay, report, result, hresult, hvalue⟩ := hpiece.resolved value hvalue
    have hran := attempt_eq_ok_iff.mpr ⟨hresult, rfl⟩
    rw [attempt_batch htabular finish (mapM_eq_ok_iff.mp htake) connection.handle rfl [],
      ← hreplay] at hran
    obtain ⟨results, hresults, rfl⟩ := run_map_eq_ok hran
    obtain ⟨houtcome, hleft⟩ := attempt_eq_ok_iff.mp hresults
    exact ⟨hleft.symm, report, results, houtcome, hvalue⟩

end

/-- Two inserts of a batch, the second of a row that is there. -/
theorem executeBatch_eq_transaction_insert :
    letI := JsDebug.describing
    Memory.connection.executeBatch [Memory.query "INSERT INTO t VALUES (1)",
        Memory.query "INSERT INTO t VALUES (1)"] .empty =
      Memory.connection.transaction (Callback.batch id [Memory.query "INSERT INTO t VALUES (1)",
        Memory.query "INSERT INTO t VALUES (1)"] []).run .empty := by
  let := JsDebug.describing
  have hbound : ∀ query ∈ [Memory.query "INSERT INTO t VALUES (1)",
      Memory.query "INSERT INTO t VALUES (1)"], ∃ arguments, query.arguments = .ok arguments := by
    simp [Memory.query]
  exact executeBatch_eq_transaction Memory.connection Memory.tabular
    (Storage.transactional_ofSql Memory.storage) (Storage.oblivious_ofSql Memory.storage) hbound
    (List.cons_ne_nil _ _) .empty

/-- A batch of an insert, and of one that returns the row that was bound. -/
def Memory.batch : List Query :=
  [Memory.query "INSERT INTO t VALUES (2)",
    ⟨"INSERT INTO t VALUES (?) RETURNING id", .ok (some ⟨[.integer Memory.three]⟩)⟩]

/-- The statements it is taken as. -/
def Memory.batchStatements : List (String × Arguments) :=
  [("INSERT INTO t VALUES (2)", .default),
    ("INSERT INTO t VALUES (?) RETURNING id", ⟨[.integer Memory.three]⟩)]

/-- The steps of its transaction, and another future's statements around
them. -/
def Memory.batchSteps : List (Label (List QueryResult) Error) :=
  [.connection .execute (Memory.query "INSERT INTO t VALUES (1)"), .callback, .callback, .callback,
    .connection .execute (Memory.query "SELECT id FROM t"), .finish (.ok ())]

/-- Its second statement, when the row is a new one. -/
theorem Memory.call_insertReturning [JsDebug] {id : I64} {db : Memory} (hid : id ∉ db.rows)
    (hsafe : Safe id.val) :
    call Memory.connection.sql .execute
        ⟨"INSERT INTO t VALUES (?) RETURNING id", .ok (some ⟨[.integer id]⟩)⟩ db =
      .ok (.executed (Memory.insertResult id)) (db.inserted id) := by
  have htake : takeOwned ⟨"INSERT INTO t VALUES (?) RETURNING id", .ok (some ⟨[.integer id]⟩)⟩ =
      .ok ("INSERT INTO t VALUES (?) RETURNING id", ⟨[.integer id]⟩) := rfl
  have hstatement : runStatement Memory.connection.sql
      ("INSERT INTO t VALUES (?) RETURNING id", ⟨[.integer id]⟩) db = .ok _ _ :=
    run_map_of_ok (Memory.execute_insertReturning hid hsafe)
  exact (call_execute_of_takeOwned Memory.tabular htake db).trans (run_map_of_ok hstatement)

/-- A batch of two, with another future's statements before its poll and
after. -/
theorem batch_in_one_piece_insert :
    letI := JsDebug.describing
    ∃ t : Requests Memory (List QueryResult) Error,
      Machine.run (Requests.step Memory.connection) (.start .empty)
        (.begin (Callback.batch id Memory.batch []) :: Memory.batchSteps) = some t ∧
      t.resolved = [(0, .ok [Memory.insertResult Memory.two, Memory.insertResult Memory.three])] ∧
      ∃ waiting rest u block after, Memory.batchSteps = waiting ++ .callback :: rest ∧
        Machine.run (Requests.step Memory.connection) (.start .empty)
          (.begin (Callback.batch id Memory.batch []) :: waiting) = some u ∧
        t.ledger.history = u.ledger.history ++ block ++ after ∧
        (∀ r ∈ t.ledger.history, r ∈ block ↔ r.write.via = .handle 0) ∧
        block.map (·.write.query) <+: Memory.batch ∧
        ∀ value, (0, value) ∈ t.resolved →
          Ledger.replay (effect Memory.connection) u.ledger.state block =
              stateOf (runStatements Memory.batchStatements Memory.connection.handle
                u.ledger.state) ∧
            ∃ report results,
              outcome (runStatements Memory.batchStatements Memory.connection.handle
                u.ledger.state) = returns results ∧
              value = reconcile report (some (results.map (List.map BatchResult.result))) := by
  let := JsDebug.describing
  have htake : Memory.batch.mapM takeOwned = .ok Memory.batchStatements := rfl
  let s : Requests Memory (List QueryResult) Error :=
    ⟨(Ledger.start .empty).begin, some (.await (Callback.batch id Memory.batch [])), [], []⟩
  have hbegin : Requests.step Memory.connection (.begin (Callback.batch id Memory.batch []))
      (.start .empty) = some s := rfl
  have hother : call (Memory.connection.sqlOf .connection) .execute
      (Memory.query "INSERT INTO t VALUES (1)") s.ledger.state = .ok _ _ :=
    Memory.call_insert rfl (by decide) (by decide) .connection
  let polled : Requests Memory (List QueryResult) Error :=
    { s.perform Memory.connection .connection .execute (Memory.query "INSERT INTO t VALUES (1)")
      with running := some (Callback.batch id Memory.batch []) }
  have hpolled : polled.ledger.state = Memory.empty.inserted Memory.one :=
    Requests.state_perform hother
  have hfirst : call (Memory.connection.sqlOf (.handle 0)) .execute
      (Memory.query "INSERT INTO t VALUES (2)") polled.ledger.state =
        .ok (.executed (Memory.insertResult Memory.two))
          ((Memory.empty.inserted Memory.one).inserted Memory.two) := by
    rw [hpolled]
    exact Memory.call_insert rfl (by decide) (by decide) (.handle 0)
  let midway : Requests Memory (List QueryResult) Error :=
    { polled.perform Memory.connection (.handle 0) .execute
        (Memory.query "INSERT INTO t VALUES (2)")
      with running := some (Callback.batch id Memory.batch.tail
        [Memory.insertResult Memory.two]) }
  have hmidway : midway.ledger.state = (Memory.empty.inserted Memory.one).inserted Memory.two :=
    Requests.state_perform hfirst
  have hsecond : call (Memory.connection.sqlOf (.handle 0)) .execute
      ⟨"INSERT INTO t VALUES (?) RETURNING id", .ok (some ⟨[.integer Memory.three]⟩)⟩
      midway.ledger.state = .ok (.executed (Memory.insertResult Memory.three))
        (((Memory.empty.inserted Memory.one).inserted Memory.two).inserted Memory.three) := by
    rw [hmidway]
    exact Memory.call_insertReturning (by decide) (by decide)
  have hthird : Requests.step Memory.connection .callback midway = some _ :=
    Requests.step_statement rfl rfl (told_of_call hsecond)
  have hselect : ∀ db, call (Memory.connection.sqlOf .connection) .execute
      (Memory.query "SELECT id FROM t") db = .ok (.executed .default) db :=
    fun db => run_map_of_ok Memory.executor_execute_select
  have hrest : Machine.run (Requests.step Memory.connection) s Memory.batchSteps = some _ :=
    (Machine.run_cons_of_step (Requests.step_connection rfl (told_of_call hother))).trans <|
    (Machine.run_cons_of_step (s := _) (t := polled) rfl).trans <|
    (Machine.run_cons_of_step (Requests.step_statement rfl rfl (told_of_call hfirst))).trans <|
    (Machine.run_cons_of_step hthird).trans <|
    (Machine.run_cons_of_step (Requests.step_connection rfl (told_of_call (hselect _)))).trans rfl
  have hrun := (Machine.run_cons_of_step hbegin).trans hrest
  refine ⟨_, hrun, rfl, ?_⟩
  rcases batch_in_one_piece Memory.connection Memory.tabular .empty id htake [] _ rfl hrun with
    hwaiting | hpiece
  · exact absurd rfl (hwaiting.unresolved _ List.mem_cons_self)
  · exact hpiece

end SqlxCloudflare
