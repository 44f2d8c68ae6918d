import SqlxCloudflare.Do.Transaction

/-!
# SqlxCloudflare.Do.Batch

`execute_batch` and `fetch_batch` of the Durable Object driver: the statements
of a list of queries, run one after another inside `transaction`, and stopped
at the first that fails.

The arguments are taken before the transaction is opened, so an argument that
failed to bind stops the batch before anything is run.  `batch_atomic` says
what becomes of every list: the loop over the statements is `Fallible.All` or
`Fallible.FirstFails`, and the transaction makes the second undo itself.
-/

namespace SqlxCloudflare

open Fallible

/-! ## running the statements -/

section

variable {DB : Type} [JsDebug]

/-- One statement of a batch, and its entry of the result. -/
def runStatement (sql : SqlStorage DB) (statement : String × Arguments) :
    EStateM (Stop Error) DB (BatchResult Row) :=
  (fun (rows, result) => ⟨rows, result⟩) <$> execute sql statement.1 statement.2.values none

/-- The callback of a batch: its statements in order, up to the first that
fails. -/
def runStatements (statements : List (String × Arguments)) (tx : DoTransaction DB) :
    EStateM (Stop Error) DB (List (BatchResult Row)) :=
  statements.mapM (runStatement tx.sql)

/-- They are the statements as `execute` runs them. -/
theorem runStatements_eq (statements : List (String × Arguments)) (tx : DoTransaction DB) :
    runStatements statements tx =
      List.map (fun (rows, result) => ⟨rows, result⟩) <$>
        statements.mapM fun statement => execute tx.sql statement.1 statement.2.values none := by
  induction statements with
  | nil => rfl
  | cons statement statements ih =>
      rw [runStatements] at ih ⊢
      rw [List.mapM_cons, List.mapM_cons, ih]
      simp only [runStatement, bind_map_left, map_bind, bind_pure_comp, Functor.map_map,
        List.map_cons]

theorem runStatements_of_all (tx : DoTransaction DB) {statements : List (String × Arguments)}
    {db db' : DB} {entries : List (List Row × QueryResult)}
    (h : All (fun statement => execute tx.sql statement.1 statement.2.values none)
      db statements entries db') :
    runStatements statements tx db =
      .ok (entries.map fun (rows, result) => ⟨rows, result⟩) db' := by
  rw [runStatements_eq]
  exact run_map_of_ok (run_mapM_of_all h)

/-- Statements whose counts have their columns do not panic. -/
theorem runStatements_ne_panic {tx : DoTransaction DB} (h : tx.sql.CountsColumns)
    (statements : List (String × Arguments)) (db left : DB) (panic : Panic) :
    runStatements statements tx db ≠ .error (.panic panic) left := by
  intro hpanic
  obtain ⟨_, statement, _, _, db', _, _, hstatement⟩ := run_mapM_eq_error_iff.mp hpanic
  cases hexecute : execute tx.sql statement.1 statement.2.values none db' with
  | ok entry final =>
      rw [runStatement, run_map_of_ok hexecute] at hstatement
      cases hstatement
  | error stop final =>
      rw [runStatement, run_map_of_error hexecute] at hstatement
      cases hstatement
      obtain ⟨_, _, after, _, _, htorn⟩ := torn_of_execute_panic hexecute
      exact h.not_torn after htorn

namespace DoConnection

def runBatch (connection : DoConnection DB) (queries : List Query) :
    EStateM (Stop Error) DB (List (BatchResult Row)) := do
  let queries ← lift (returns (queries.mapM takeOwned))
  if queries.isEmpty then
    return []
  else connection.transaction (runStatements queries)

/-- Runs `queries` in order and atomically, and returns what each did. -/
def executeBatch (connection : DoConnection DB) (queries : List Query) :
    EStateM (Stop Error) DB (List QueryResult) :=
  List.map (fun result => result.intoParts.2) <$> connection.runBatch queries

/-- Runs `queries` in order and atomically, and streams each statement's rows
along with what it did: a failure is the one item. -/
def fetchBatch (connection : DoConnection DB) (queries : List Query) :
    EStateM Panic DB (List (Except Error (BatchResult Row))) := do
  match ← attempt (connection.runBatch queries) with
  | .ok results => return results.map .ok
  | .error error => return [.error error]

/-! ## the two shapes of one outcome -/

variable {connection : DoConnection DB} {queries : List Query} {db db' : DB}

/-- Both report a success of the batch: one entry per statement, of its rows and
what it did. -/
structure BatchReturns (connection : DoConnection DB) (queries : List Query) (db : DB)
    (entries : List (List Row × QueryResult)) (db' : DB) : Prop where
  execute : connection.executeBatch queries db = .ok (entries.map Prod.snd) db'
  fetch : connection.fetchBatch queries db =
    .ok (entries.map fun (rows, result) => .ok ⟨rows, result⟩) db'
  one_each : entries.length = queries.length

/-- Both report a failure of the batch, as one error. -/
structure BatchFails (connection : DoConnection DB) (queries : List Query) (db : DB)
    (error : Error) (db' : DB) : Prop where
  execute : connection.executeBatch queries db = .error (.err error) db'
  fetch : connection.fetchBatch queries db = .ok [.error error] db'

theorem fetchBatch_of_ok {results : List (BatchResult Row)}
    (h : connection.runBatch queries db = .ok results db') :
    connection.fetchBatch queries db = .ok (results.map .ok) db' := by
  rw [fetchBatch, run_bind_of_ok (run_attempt_of_ok h)]
  rfl

theorem fetchBatch_of_err {error : Error}
    (h : connection.runBatch queries db = .error (.err error) db') :
    connection.fetchBatch queries db = .ok [.error error] db' := by
  rw [fetchBatch, run_bind_of_ok (run_attempt_of_err h)]
  rfl

theorem batchReturns_of_runBatch {entries : List (List Row × QueryResult)}
    (h : connection.runBatch queries db =
      .ok (entries.map fun (rows, result) => ⟨rows, result⟩) db')
    (hlength : entries.length = queries.length) :
    connection.BatchReturns queries db entries db' where
  execute := by
    rw [executeBatch, run_map_of_ok h, List.map_map]
    rfl
  fetch := by
    rw [fetchBatch_of_ok h, List.map_map]
    rfl
  one_each := hlength

theorem batchFails_of_runBatch {error : Error}
    (h : connection.runBatch queries db = .error (.err error) db') :
    connection.BatchFails queries db error db' where
  execute := run_map_of_error h
  fetch := fetchBatch_of_err h

/-! ## the batch -/

theorem runBatch_of_error {error : Error} (h : queries.mapM takeOwned = .error error) (db : DB) :
    connection.runBatch queries db = .error (.err error) db := by
  rw [runBatch, h, returns_error, run_bind_of_error (run_lift_error _ _)]

theorem runBatch_nil (db : DB) : connection.runBatch [] db = .ok [] db := rfl

variable {statements : List (String × Arguments)}

theorem runBatch_of_ok (h : queries.mapM takeOwned = .ok statements) (hne : statements ≠ [])
    (db : DB) :
    connection.runBatch queries db = connection.transaction (runStatements statements) db := by
  have hisEmpty : statements.isEmpty = false := by simpa using hne
  rw [runBatch, h, returns_ok, run_bind_of_ok (run_lift_ok _ _)]
  simp only [hisEmpty]
  rfl

/-- Every statement succeeds and the commit does: one entry for each. -/
theorem runBatch_of_all (h : connection.storage.Transactional)
    (htake : queries.mapM takeOwned = .ok statements) (hne : statements ≠ [])
    {entries : List (List Row × QueryResult)}
    (hall : All (fun statement => execute connection.sql statement.1 statement.2.values none)
      db statements entries db')
    (hcommitted : ∃ slot left, connection.storage.transaction
      (closure connection.handle (runStatements statements)) none db =
        .ok ⟨.ok (), true, slot⟩ left) :
    connection.BatchReturns queries db entries db' := by
  have hfinished : runStatements statements connection.handle db =
      .ok (entries.map fun (rows, result) => ⟨rows, result⟩) db' := runStatements_of_all _ hall
  have hlength : statements.length = queries.length :=
    (List.Forall₂.length_eq (mapM_eq_ok_iff.mp htake)).symm
  refine batchReturns_of_runBatch ?_ (hall.length_eq.trans hlength)
  rw [runBatch_of_ok htake hne, transaction_of_committed h ⟨hfinished, hcommitted⟩]

/-- A statement fails: its error, and nothing is left of the others. -/
theorem runBatch_of_firstFails (h : connection.storage.Transactional)
    (htake : queries.mapM takeOwned = .ok statements) (hne : statements ≠ []) {error : Error}
    (hfails : FirstFails
      (fun statement => execute connection.sql statement.1 statement.2.values none)
      db statements (.err error) db')
    (hran : ∃ report slot left, connection.storage.transaction
      (closure connection.handle (runStatements statements)) none db =
        .ok ⟨report, true, slot⟩ left) :
    connection.BatchFails queries db error db := by
  have hfinished : runStatements statements connection.handle db = .error (.err error) db' := by
    rw [runStatements_eq]
    exact run_map_of_error (run_mapM_of_firstFails hfails)
  refine batchFails_of_runBatch ?_
  rw [runBatch_of_ok htake hne, transaction_of_refused h ⟨⟨db', hfinished⟩, hran⟩]

/-- Otherwise the transaction's own error, and nothing is left. -/
theorem runBatch_otherwise (h : connection.storage.Transactional)
    (hcounts : connection.sql.CountsColumns)
    (htake : queries.mapM takeOwned = .ok statements) (hne : statements ≠ [])
    (hall : ¬∃ entries db',
      All (fun statement => execute connection.sql statement.1 statement.2.values none)
          db statements entries db' ∧
        ∃ slot left, connection.storage.transaction
          (closure connection.handle (runStatements statements)) none db =
            .ok ⟨.ok (), true, slot⟩ left)
    (hfails : ¬∃ error db',
      FirstFails (fun statement => execute connection.sql statement.1 statement.2.values none)
          db statements (.err error) db' ∧
        ∃ report slot left, connection.storage.transaction
          (closure connection.handle (runStatements statements)) none db =
            .ok ⟨report, true, slot⟩ left) :
    ∃ message, connection.BatchFails queries db (.protocol message) db := by
  have hc : ∀ results db', ¬connection.Committed (runStatements statements) db results db' := by
    rintro results db' ⟨hfinished, hcommitted⟩
    rw [runStatements_eq] at hfinished
    obtain ⟨entries, hentries, _⟩ := run_map_eq_ok hfinished
    exact hall ⟨entries, db', run_mapM_eq_ok_iff.mp hentries, hcommitted⟩
  have hr : ∀ error, ¬connection.Refused (runStatements statements) db error := by
    rintro error ⟨⟨left, hfinished⟩, hran⟩
    rw [runStatements_eq] at hfinished
    have hloop := run_map_eq_error hfinished
    exact hfails ⟨error, left, run_mapM_eq_error_iff.mp hloop, hran⟩
  have hp : ∀ panic left,
      runStatements statements connection.handle db ≠ .error (.panic panic) left :=
    fun panic left => runStatements_ne_panic hcounts statements db left panic
  obtain ⟨message, hmessage⟩ := transaction_otherwise h hc hr hp
  refine ⟨message, batchFails_of_runBatch ?_⟩
  rw [runBatch_of_ok htake hne, hmessage]
  rfl

/-- **A batch is all or nothing**, in order, with one entry per query: a
deferred bind error stops it before anything is run, whatever the storage; an
empty one opens no transaction; and any other succeeds exactly when every
statement does, one after another, and the commit does, or else fails -- with
the error of the first statement that failed, if one did -- and leaves the
database as it was.  The last is of a storage whose query for the counts has
its two columns: over counts that are short `execute` panics, and the batch
with it. -/
theorem batch_atomic (connection : DoConnection DB) (queries : List Query) (db : DB) :
    ((∃ query ∈ queries, ∃ source, query.arguments = .error source) →
        ∃ source, FirstBindError queries source ∧
          connection.BatchFails queries db (.encode source) db) ∧
      (queries = [] → connection.BatchReturns queries db [] db) ∧
      ∀ statements, queries.mapM takeOwned = .ok statements → statements ≠ [] →
        connection.storage.Transactional →
          (∀ entries db',
            All (fun statement => execute connection.sql statement.1 statement.2.values none)
                db statements entries db' →
              (∃ slot left, connection.storage.transaction
                (closure connection.handle (runStatements statements)) none db =
                  .ok ⟨.ok (), true, slot⟩ left) →
                connection.BatchReturns queries db entries db') ∧
          (∀ error db',
            FirstFails
                (fun statement => execute connection.sql statement.1 statement.2.values none)
                db statements (.err error) db' →
              (∃ report slot left, connection.storage.transaction
                (closure connection.handle (runStatements statements)) none db =
                  .ok ⟨report, true, slot⟩ left) →
                connection.BatchFails queries db error db) ∧
          (connection.sql.CountsColumns →
            (¬∃ entries db',
              All (fun statement => execute connection.sql statement.1 statement.2.values none)
                  db statements entries db' ∧
                ∃ slot left, connection.storage.transaction
                  (closure connection.handle (runStatements statements)) none db =
                    .ok ⟨.ok (), true, slot⟩ left) →
            (¬∃ error db',
              FirstFails
                  (fun statement => execute connection.sql statement.1 statement.2.values none)
                  db statements (.err error) db' ∧
                ∃ report slot left, connection.storage.transaction
                  (closure connection.handle (runStatements statements)) none db =
                    .ok ⟨report, true, slot⟩ left) →
              ∃ message, connection.BatchFails queries db (.protocol message) db) := by
  refine ⟨?_, ?_, fun statements htake hne h => ⟨?_, ?_, fun hcounts =>
    runBatch_otherwise h hcounts htake hne⟩⟩
  · rintro ⟨query, hmem, source, hsource⟩
    obtain ⟨source', hfirst, htake⟩ := mapM_takeOwned_of_error hmem hsource
    exact ⟨source', hfirst, batchFails_of_runBatch (runBatch_of_error htake db)⟩
  · rintro rfl
    exact batchReturns_of_runBatch (runBatch_nil db) rfl
  · exact fun entries db' hall hcommitted => runBatch_of_all h htake hne hall hcommitted
  · exact fun error db' hfails hran => runBatch_of_firstFails h htake hne hfails hran

end DoConnection

end

/-- The storage over `sql` whose commits all fail. -/
def Storage.uncommitted {DB : Type} (sql : SqlStorage DB) : Storage DB where
  sql := sql
  transaction closure s db :=
    match closure s db with
    | .ok (_, s) _ => .ok ⟨.error "the commit failed", true, s⟩ db
    | .error panic _ => .error panic db

theorem Storage.transactional_uncommitted {DB : Type} (sql : SqlStorage DB) :
    (uncommitted sql).Transactional := by
  intro S closure s db
  match hrun : closure s db with
  | .error panic left =>
      simp only [uncommitted, hrun]
      exact .panicked panic left db hrun
  | .ok (result, s') left =>
      simp only [uncommitted, hrun]
      exact .rolledBack result _ s' left hrun (by simp)

/-- A batch of an insert, and of one that returns the row that was bound; and
the same, when the commit fails. -/
theorem batch_atomic_insert :
    letI := JsDebug.describing
    let queries := [Memory.query "INSERT INTO t VALUES (1)",
      ⟨"INSERT INTO t VALUES (?) RETURNING id", .ok (some ⟨[.integer Memory.two]⟩)⟩]
    (DoConnection.new (.ofSql Memory.storage)).BatchReturns queries .empty
        [([], Memory.insertResult Memory.one),
          ([Memory.returnedRow Memory.two], Memory.insertResult Memory.two)]
        ((Memory.empty.inserted Memory.one).inserted Memory.two) ∧
      ∃ message, (DoConnection.new (.uncommitted Memory.storage)).BatchFails queries .empty
        (.protocol message) .empty := by
  let := JsDebug.describing
  intro queries
  have hone : execute Memory.storage "INSERT INTO t VALUES (1)" [] none .empty =
      .ok ([], Memory.insertResult Memory.one) (Memory.empty.inserted Memory.one) :=
    Memory.execute_insert rfl (by decide) (by decide) none
  have htwo : execute Memory.storage "INSERT INTO t VALUES (?) RETURNING id"
      [.integer Memory.two] none (Memory.empty.inserted Memory.one) =
        .ok ([Memory.returnedRow Memory.two], Memory.insertResult Memory.two)
          ((Memory.empty.inserted Memory.one).inserted Memory.two) :=
    Memory.execute_insertReturning (by decide) (by decide)
  have hall : All (fun statement : String × Arguments =>
      execute Memory.storage statement.1 statement.2.values none) Memory.empty
        [("INSERT INTO t VALUES (1)", .default),
          ("INSERT INTO t VALUES (?) RETURNING id", ⟨[.integer Memory.two]⟩)] _ _ :=
    .cons hone (.cons htwo (.nil _))
  have hfinished := runStatements_of_all ⟨Memory.storage⟩ hall
  refine ⟨?_, ?_⟩
  · exact ((DoConnection.batch_atomic _ _ _).2.2 _ rfl (List.cons_ne_nil _ _)
      (Storage.transactional_ofSql _)).1 _ _ hall
        ⟨_, _, DoConnection.transaction_ofSql hfinished⟩
  · refine ((DoConnection.batch_atomic _ _ _).2.2 _ rfl (List.cons_ne_nil _ _)
      (Storage.transactional_uncommitted _)).2.2 Memory.counts.columns ?_ ?_
    · rintro ⟨_, _, _, slot, left, hcall⟩
      simp only [DoConnection.new, Storage.uncommitted] at hcall
      split at hcall <;> cases hcall
    · rintro ⟨error, _, hfails, _⟩
      have hloop := run_mapM_of_all hall
      have hfailed := run_mapM_of_firstFails hfails
      cases hloop.symm.trans hfailed

end SqlxCloudflare
