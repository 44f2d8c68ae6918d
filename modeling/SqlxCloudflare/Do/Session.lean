import SqlxCloudflare.Do.Connection
import SqlxCloudflare.Do.Settled

/-!
# SqlxCloudflare.Do.Session

A program that has a connection to itself can tell from the replies what it
has done to the database: every operation either did all of its queries, in
order, or nothing, and its reply says which (`perform_refines`).  So the
database is the queries that were acknowledged, replayed (`session_recounted`).

The one failed reply that acknowledges its query is the decode error of counts
that cannot be reported, which comes after the statement is done.
-/

namespace SqlxCloudflare

open Executor Fallible

variable {DB T E : Type}

/-! ## the abstract operation -/

/-- Queries in order, each run to its end or without effect. -/
def SqlStorage.applyAll (storage : SqlStorage DB) (queries : List Query) (db : DB) : DB :=
  queries.foldl (fun db query => storage.apply query db) db

theorem applyAll_append (storage : SqlStorage DB) (queries queries' : List Query) (db : DB) :
    storage.applyAll (queries ++ queries') db =
      storage.applyAll queries' (storage.applyAll queries db) := List.foldl_append

/-- The reply says that the operation's queries were run. -/
def Reply.acknowledges : Reply T E → Bool
  | .answer (.ok _) => true
  -- The statement was done; what it did could not be reported.
  | .answer (.error (.decode _)) => true
  | .answer (.error _) => false
  | .results result => result.isOk
  | .items list => list.all Except.isOk
  | .value result => result.isOk
  | .statement _ => false

section

variable [JsDebug]

/-- The queries a callback runs, when nothing else does. -/
def Callback.issued : Callback T E → DoTransaction DB → DB → List Query
  | .ret _, _, _ => []
  | .await next, tx, db => next.issued tx db
  | .keep next, tx, db => next.issued tx db
  | .statement method query next, tx, db =>
    let result := call tx.sql method query db
    match returned (outcome result) with
    | .ok answer => query :: (next answer).issued tx (stateOf result)
    | .error _ => [query]

/-- The queries of an operation. -/
def Operation.queries (connection : DoConnection DB) : Operation T E → DB → List Query
  | .call _ query, _ => [query]
  | .executeBatch queries, _ | .fetchBatch queries, _ => queries
  | .transaction callback, db => callback.issued connection.handle db
  | .formality _, _ => []

/-- The queries that were acknowledged, of operations and their replies. -/
def recount (connection : DoConnection DB) :
    List (Operation T E) → List (Reply T E) → DB → List Query
  | op :: ops, reply :: replies, db =>
    if reply.acknowledges then
      let queries := op.queries connection db
      queries ++ recount connection ops replies (connection.sql.applyAll queries db)
    else recount connection ops replies db
  | _, _, _ => []

/-! ## one operation -/

/-- What is assumed of the storage behind a connection: its shape, that a
statement that throws has no effect, the counts, and its transactions. -/
structure DoConnection.Documented (connection : DoConnection DB) where
  tabular : connection.sql.Tabular
  restores : connection.sql.Restores
  counts : connection.sql.Counts
  transactional : connection.storage.Transactional

variable {connection : DoConnection DB}

/-- A call leaves what its query does. -/
theorem attempt_call (d : connection.Documented) (method : Method) (query : Query) (db : DB) :
    ∃ result, attempt (call connection.sql method query) db =
      .ok result (connection.sql.apply query db) := by
  obtain ⟨result, hresult⟩ := call_returns d.tabular d.counts method query db
  exact ⟨result, attempt_eq_ok_iff.mpr
    ⟨hresult, stateOf_call d.tabular d.restores d.counts method query db⟩⟩

/-- A callback leaves the queries it ran. -/
theorem attempt_run (d : connection.Documented) (callback : Callback T E) (db : DB) :
    ∃ result, attempt (callback.run connection.handle) db =
      .ok result (connection.sql.applyAll (callback.issued connection.handle db) db) := by
  induction callback generalizing db with
  | ret result =>
      cases result with
      | ok value => exact ⟨.ok value, rfl⟩
      | error error => exact ⟨.error error, rfl⟩
  | await next ih => exact ih db
  | keep next ih => exact ih db
  | statement method query next ih =>
      obtain ⟨answer, hanswer⟩ := attempt_call d method query db
      obtain ⟨houtcome, hleft⟩ := attempt_eq_ok_iff.mp hanswer
      have htold : returned (outcome (call connection.handle.sql method query db)) = .ok answer :=
        returned_eq_ok_iff.mpr houtcome
      obtain ⟨result, hresult⟩ := ih answer (connection.sql.apply query db)
      have hstate : stateOf (call connection.handle.sql method query db) =
          connection.sql.apply query db := hleft
      refine ⟨result, ?_⟩
      rw [attempt, run_statement htold, hstate, Callback.issued, htold]
      simp only [hstate]
      exact hresult

/-! ## batches -/

/-- A statement of a batch leaves what its query does. -/
theorem attempt_runStatement (d : connection.Documented) {query : Query}
    {statement : String × Arguments} (htake : takeOwned query = .ok statement) (db : DB) :
    ∃ result, attempt (runStatement connection.sql statement) db =
      .ok result (connection.sql.apply query db) := by
  obtain ⟨hsql, hsent⟩ := sent_of_takeOwned htake
  rw [runStatement, hsql, attempt_map]
  cases hbind : toJsArray statement.2.values with
  | error error =>
      rw [hbind] at hsent
      have hexecute : execute connection.sql query.sql statement.2.values none db =
          .error (.err error) db := execute_of_fetch_error (fetch_of_toJsArray_error hbind none)
      rw [run_map_of_ok (run_attempt_of_err hexecute), apply_of_not_sent hsent]
      exact ⟨_, rfl⟩
  | ok parameters =>
      rw [hbind] at hsent
      rcases execute_cases d.tabular d.counts query.sql hbind none db with
        ⟨error, final, hthrows, hexecute⟩ | ⟨cursor, values, final, hcompletes, hcounted⟩
      · rw [run_map_of_ok (run_attempt_of_err hexecute), apply_of_throws hsent hthrows,
          d.restores _ _ _ _ _ hthrows]
        exact ⟨_, rfl⟩
      · rw [apply_of_completes hsent hcompletes]
        rcases hcounted with ⟨_, entry, hexecute⟩ | ⟨_, source, hexecute⟩
        · rw [run_map_of_ok (run_attempt_of_ok hexecute)]
          exact ⟨_, rfl⟩
        · rw [run_map_of_ok (run_attempt_of_err hexecute)]
          exact ⟨_, rfl⟩

/-- Statements that all succeed leave what their queries do. -/
theorem attempt_runStatements (d : connection.Documented) {queries : List Query}
    {statements : List (String × Arguments)}
    (htake : List.Forall₂ (fun query statement => takeOwned query = .ok statement)
      queries statements) (db : DB) :
    ∃ result left, attempt (runStatements statements connection.handle) db = .ok result left ∧
      (result.isOk = true → left = connection.sql.applyAll queries db) := by
  induction htake generalizing db with
  | nil => exact ⟨.ok [], db, rfl, fun _ => rfl⟩
  | @cons query statement queries statements hstatement _ ih =>
      obtain ⟨first, hfirst⟩ := attempt_runStatement d hstatement db
      obtain ⟨houtcome, hleft⟩ := attempt_eq_ok_iff.mp hfirst
      cases first with
      | error error =>
          have hfails : runStatement connection.handle.sql statement db =
              .error (.err error) (connection.sql.apply query db) := result_ext houtcome hleft
          refine ⟨.error error, connection.sql.apply query db, ?_, fun hok => nomatch hok⟩
          exact run_attempt_of_err (run_mapM_cons_of_error statements hfails)
      | ok entry =>
          have hruns : runStatement connection.handle.sql statement db =
              .ok entry (connection.sql.apply query db) := result_ext houtcome hleft
          obtain ⟨result, left, hrest, hall⟩ := ih (connection.sql.apply query db)
          have hcons : runStatements (statement :: statements) connection.handle db =
              (List.cons entry <$> runStatements statements connection.handle)
                (connection.sql.apply query db) := run_mapM_cons_of_ok statements hruns
          refine ⟨result.map (List.cons entry), left, ?_, fun hok => hall ?_⟩
          · rw [attempt, hcons]
            have hmap := congrFun (attempt_map (List.cons entry)
              (runStatements statements connection.handle)) (connection.sql.apply query db)
            rw [run_map_of_ok hrest] at hmap
            exact hmap
          · cases result with
            | ok entries => rfl
            | error error => cases hok

/-- A batch that succeeds leaves what its queries do, and any other leaves
nothing. -/
theorem attempt_runBatch (d : connection.Documented) (queries : List Query) (db : DB) :
    ∃ result, attempt (connection.runBatch queries) db =
      .ok result (if result.isOk then connection.sql.applyAll queries db else db) := by
  cases htake : queries.mapM takeOwned with
  | error error =>
      exact ⟨.error error, run_attempt_of_err (DoConnection.runBatch_of_error htake db)⟩
  | ok statements =>
      have hforall := mapM_eq_ok_iff.mp htake
      by_cases hne : statements = []
      · subst hne
        cases hforall
        exact ⟨.ok [], run_attempt_of_ok (DoConnection.runBatch_nil db)⟩
      · obtain ⟨r, left, hfinished, hall⟩ := attempt_runStatements d hforall db
        obtain ⟨result, hresult⟩ := DoConnection.attempt_transaction d.transactional hfinished
        refine ⟨result, ?_⟩
        rw [attempt, DoConnection.runBatch_of_ok htake hne]
        refine hresult.trans ?_
        cases result with
        | error error => rfl
        | ok results =>
            obtain ⟨houtcome, hleft⟩ := attempt_eq_ok_iff.mp hresult
            have hok : connection.transaction (runStatements statements) db = .ok results left :=
              result_ext houtcome hleft
            have hran := DoConnection.finished_of_transaction d.transactional hok
            rw [run_attempt_of_ok hran] at hfinished
            cases hfinished
            rw [hall rfl]

/-! ## every operation -/

/-- **An operation refines its queries**: it replies, and has run all of them,
in order, when its reply acknowledges them, and otherwise nothing. -/
theorem perform_refines [FromError E] (d : connection.Documented) (op : Operation T E) (db : DB) :
    ∃ reply, connection.perform op db = .ok reply
      (if reply.acknowledges then connection.sql.applyAll (op.queries connection db) db
        else db) := by
  cases op with
  | call method query =>
      have hsettles := call_settles d.tabular d.counts method query db
      obtain ⟨result, hresult⟩ := attempt_call d method query db
      obtain ⟨houtcome, hleft⟩ := attempt_eq_ok_iff.mp hresult
      refine ⟨.answer result, (run_map_of_ok hresult).trans ?_⟩
      have hunchanged : ∀ error, result = .error error → (∀ source, error ≠ .decode source) →
          connection.sql.apply query db = db := by
        rintro error rfl hdecode
        have hcall : call connection.sql method query db =
            .error (.err error) (connection.sql.apply query db) := result_ext houtcome hleft
        rw [hcall] at hsettles
        generalize hfinal : connection.sql.apply query db = final at hsettles
        rw [← hfinal]
        cases hsettles with
        | notSent source hsent => exact apply_of_not_sent hsent
        | throws parameters error final hsent hthrows => exact apply_of_throws hsent hthrows
        | notReported parameters cursor rows final source => exact absurd rfl (hdecode source)
      cases result with
      | ok answer => rfl
      | error error =>
          cases error with
          | decode source => rfl
          | _ =>
              rw [hunchanged _ rfl (by simp)]
              rfl
  | executeBatch queries =>
      obtain ⟨result, hresult⟩ := attempt_runBatch d queries db
      have hexecute : attempt (connection.executeBatch queries) db =
          (Except.map (List.map fun result => result.intoParts.2) <$>
            attempt (connection.runBatch queries)) db := congrFun (attempt_map _ _) db
      rw [run_map_of_ok hresult] at hexecute
      refine ⟨.results (result.map (List.map fun result => result.intoParts.2)),
        (run_map_of_ok hexecute).trans ?_⟩
      cases result <;> rfl
  | fetchBatch queries =>
      obtain ⟨result, hresult⟩ := attempt_runBatch d queries db
      obtain ⟨houtcome, hleft⟩ := attempt_eq_ok_iff.mp hresult
      cases result with
      | ok results =>
          have hall : (results.map (.ok : _ → Except Error _)).all Except.isOk = true := by
            rw [List.all_map]
            exact List.all_eq_true.mpr fun result _ => rfl
          have hfetch := DoConnection.fetchBatch_of_ok (result_ext houtcome hleft)
          refine ⟨.items (results.map .ok), (run_map_of_ok hfetch).trans ?_⟩
          rw [Reply.acknowledges, hall]
          rfl
      | error error =>
          have hfetch := DoConnection.fetchBatch_of_err (result_ext houtcome hleft)
          exact ⟨_, run_map_of_ok hfetch⟩
  | transaction callback =>
      obtain ⟨r, hfinished⟩ := attempt_run d callback db
      obtain ⟨result, hresult⟩ := DoConnection.attempt_transaction d.transactional hfinished
      exact ⟨.value result, run_map_of_ok hresult⟩
  | formality formality =>
      have hanswer := attempt_returning formality.answer db
      rw [formality.stateOf_answer] at hanswer
      exact ⟨_, run_map_of_ok hanswer⟩

/-- **The database is what was acknowledged**: any session over a storage that
answers as documented comes to its end, and the database is then the queries
the replies acknowledge, replayed in order on the database the session began
with.  The decode error of counts that cannot be reported acknowledges its
query. -/
theorem session_recounted [FromError E] (connection : DoConnection DB) (d : connection.Documented)
    (ops : List (Operation T E)) (db : DB) :
    ∃ replies, connection.session ops db =
      .ok replies (connection.sql.applyAll (recount connection ops replies db) db) := by
  induction ops generalizing db with
  | nil => exact ⟨[], rfl⟩
  | cons op ops ih =>
      obtain ⟨reply, hreply⟩ := perform_refines d op db
      obtain ⟨replies, hreplies⟩ := ih
        (if reply.acknowledges then connection.sql.applyAll (op.queries connection db) db else db)
      refine ⟨reply :: replies, ?_⟩
      rw [DoConnection.session] at hreplies ⊢
      rw [run_mapM_cons_of_ok _ hreply, run_map_of_ok hreplies, recount]
      split
      · rw [applyAll_append]
      · rfl

end

/-! ## on the storage of one table -/

/-- The storage of one table, as it is documented. -/
def Memory.documented : Memory.connection.Documented where
  tabular := Memory.tabular
  restores := Memory.restores
  counts := Memory.counts
  transactional := Storage.transactional_ofSql Memory.storage

/-- An insert, a transaction that is refused, and one that gives up after its
insert. -/
theorem session_recounted_insert :
    letI := JsDebug.describing
    (Memory.connection.session (T := Unit) (E := Error)
      [.call .execute (Memory.query "INSERT INTO t VALUES (1)"), .formality .begin,
        .transaction (.statement .execute (Memory.query "INSERT INTO t VALUES (2)")
          fun _ => .ret (.error (.protocol "refused")))] .empty) =
      .ok [.answer (.ok (.executed (Memory.insertResult Memory.one))),
          .statement (.error (unsupported noTransactions)), .value (.error (.protocol "refused"))]
        (Memory.storage.applyAll [Memory.query "INSERT INTO t VALUES (1)"] .empty) := by
  let := JsDebug.describing
  obtain ⟨replies, hsession⟩ := session_recounted (T := Unit) (E := Error) Memory.connection
    Memory.documented [.call .execute (Memory.query "INSERT INTO t VALUES (1)"), .formality .begin,
      .transaction (.statement .execute (Memory.query "INSERT INTO t VALUES (2)")
        fun _ => .ret (.error (.protocol "refused")))] .empty
  have hfirst : Memory.connection.perform (T := Unit) (E := Error)
      (.call .execute (Memory.query "INSERT INTO t VALUES (1)")) .empty =
        .ok (.answer (.ok (.executed (Memory.insertResult Memory.one))))
          (Memory.empty.inserted Memory.one) :=
    run_map_of_ok (run_attempt_of_ok
      (Memory.call_insert rfl (by decide) (by decide) .connection))
  have htold : returned (outcome (call Memory.connection.handle.sql .execute
      (Memory.query "INSERT INTO t VALUES (2)") (Memory.empty.inserted Memory.one))) = .ok _ :=
    Memory.told_insert rfl (by decide) (by decide) (.handle 0)
  have hgives : Memory.connection.transaction (Callback.run (T := Unit) (E := Error)
      (.statement .execute (Memory.query "INSERT INTO t VALUES (2)")
        fun _ => .ret (.error (.protocol "refused")))) (Memory.empty.inserted Memory.one) =
        .error (.err (.protocol "refused")) (Memory.empty.inserted Memory.one) := by
    have hran : (Callback.statement .execute (Memory.query "INSERT INTO t VALUES (2)")
        fun _ => (.ret (.error (.protocol "refused")) : Callback Unit Error)).run
          Memory.connection.handle (Memory.empty.inserted Memory.one) = _ := run_statement htold
    exact DoConnection.transaction_of_refused (Storage.transactional_ofSql Memory.storage)
      ⟨⟨_, hran⟩, _, _, _, DoConnection.transaction_ofSql_of_err hran⟩
  have hlast : Memory.connection.perform (.transaction (T := Unit) (E := Error)
      (.statement .execute (Memory.query "INSERT INTO t VALUES (2)")
        fun _ => .ret (.error (.protocol "refused")))) (Memory.empty.inserted Memory.one) =
        .ok (.value (.error (.protocol "refused"))) (Memory.empty.inserted Memory.one) :=
    run_map_of_ok (run_attempt_of_err hgives)
  have hall := hsession
  rw [DoConnection.session, run_mapM_of_all (.cons hfirst (.cons rfl (.cons hlast (.nil _))))]
    at hall
  cases hall
  exact hsession

end SqlxCloudflare
