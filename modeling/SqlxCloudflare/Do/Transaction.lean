import SqlxCloudflare.Do.Counts

/-!
# SqlxCloudflare.Do.Transaction

`DoConnection::transaction`: a callback run inside `Storage::transaction`,
whose outcome is reported through a slot beside the storage's own report.

`Storage::transaction` is the platform's, so it is a parameter, with the
behaviour `Storage.Transactional` names: it may not run the closure at all, the
closure may fail, and the commit may.  A callback that panics is not caught:
its transaction panics.

* `transaction_transacts` -- all a transaction comes to;
* `transaction_of_committed`, `transaction_of_refused`, `transaction_otherwise`
  -- what the two channels are reconciled to;
* `transaction_atomic` -- so a transaction is all or nothing, and reports which.
-/

namespace SqlxCloudflare

open Fallible

/-! ## storage transactions -/

/-- An error of the `worker` crate, as its text. -/
abbrev WorkerError := String

/-- What a call of `Storage::transaction` came to: what it reports, whether it
ran its closure, and the closure's state. -/
structure TransactionCall (S : Type) where
  report : Except WorkerError Unit
  ran : Bool
  state : S

/-- A Durable Object's storage.  The closure of `transaction` is a step on a
state of its own and the database. -/
structure Storage (DB : Type) where
  sql : SqlStorage DB
  transaction : {S : Type} → (S → EStateM Panic DB (Except WorkerError Unit × S)) → S →
    EStateM Panic DB (TransactionCall S)

variable {DB T E : Type}

/-- What a call of `Storage::transaction` may come to, for its closure: the
closure is run at most once, its writes are kept if it succeeded and so did the
commit, and otherwise the database is as it was. -/
inductive TransactionCall.Sound {S : Type}
    (closure : S → EStateM Panic DB (Except WorkerError Unit × S)) (s : S) (db : DB) :
    EStateM.Result Panic DB (TransactionCall S) → Prop where
  | notRan (report : Except WorkerError Unit) : Sound closure s db (.ok ⟨report, false, s⟩ db)
  | committed (s' : S) (left : DB) (h : closure s db = .ok (.ok (), s') left) :
      Sound closure s db (.ok ⟨.ok (), true, s'⟩ left)
  | rolledBack (result report : Except WorkerError Unit) (s' : S) (left : DB)
      (h : closure s db = .ok (result, s') left) (hnot : ¬(result = .ok () ∧ report = .ok ())) :
      Sound closure s db (.ok ⟨report, true, s'⟩ db)
  /-- Nothing is said of the database after a panic. -/
  | panicked (panic : Panic) (left final : DB) (h : closure s db = .error panic left) :
      Sound closure s db (.error panic final)

/-- The behaviour of `Storage::transaction`. -/
def Storage.Transactional (storage : Storage DB) : Prop :=
  ∀ {S : Type} (closure : S → EStateM Panic DB (Except WorkerError Unit × S)) (s : S) (db : DB),
    TransactionCall.Sound closure s db (storage.transaction closure s db)

/-- The storage over `sql` whose commits all succeed. -/
def Storage.ofSql (sql : SqlStorage DB) : Storage DB where
  sql := sql
  transaction closure s db :=
    match closure s db with
    | .ok (.ok (), s) db' => .ok ⟨.ok (), true, s⟩ db'
    | .ok (.error error, s) _ => .ok ⟨.error error, true, s⟩ db
    | .error panic _ => .error panic db

theorem Storage.transactional_ofSql (sql : SqlStorage DB) : (ofSql sql).Transactional := by
  intro S closure s db
  match hrun : closure s db with
  | .error panic left =>
      simp only [ofSql, hrun]
      exact .panicked panic left db hrun
  | .ok (.ok (), s') left =>
      simp only [ofSql, hrun]
      exact .committed s' left hrun
  | .ok (.error error, s') left =>
      simp only [ofSql, hrun]
      exact .rolledBack _ _ s' left hrun (by simp)

/-! ## the connection -/

/-- A connection to a Durable Object's SQL storage. -/
structure DoConnection (DB : Type) where
  storage : Storage DB
  sql : SqlStorage DB

/-- Wraps a Durable Object's storage. -/
def DoConnection.new (storage : Storage DB) : DoConnection DB := ⟨storage, storage.sql⟩

/-- An open transaction: the executor `transaction` hands its callback. -/
structure DoTransaction (DB : Type) where
  sql : SqlStorage DB

/-- `From<Error>`, which a callback's error type implements. -/
class FromError (E : Type) where
  fromError : Error → E

instance : FromError Error := ⟨id⟩

/-- The closure `transaction` hands to the storage: it runs the callback, and
reports through the slot that is its state. -/
def closure (tx : DoTransaction DB) (callback : DoTransaction DB → EStateM (Stop E) DB T)
    (_ : Option (Except E T)) :
    EStateM Panic DB (Except WorkerError Unit × Option (Except E T)) := do
  let result ← attempt (callback tx)
  let failed := !result.isOk
  -- Any error will do: rejecting is what rolls back.
  return (if failed then .error "the callback failed" else .ok (), some result)

/-- What a transaction resolves to, from the storage's report and what the
callback left in the slot. -/
def reconcile [FromError E] (report : Except WorkerError Unit) (outcome : Option (Except E T)) :
    Except E T :=
  match report, outcome with
  | _, some (.error error) => .error error
  | .ok (), some (.ok value) => .ok value
  | .error error, _ => .error (FromError.fromError
      (.protocol s!"the Durable Object storage transaction failed: {error}"))
  | .ok (), none => .error (FromError.fromError
      (.protocol "the Durable Object storage transaction never ran its callback"))

namespace DoConnection

/-- The handle a transaction gives its callback: the connection's own, cloned. -/
def handle (connection : DoConnection DB) : DoTransaction DB := ⟨connection.sql⟩

/-- Runs `callback` in a transaction. -/
def transaction [FromError E] (connection : DoConnection DB)
    (callback : DoTransaction DB → EStateM (Stop E) DB T) : EStateM (Stop E) DB T := do
  let call ← unfailing (connection.storage.transaction (closure connection.handle callback) none)
  lift (returns (reconcile call.report call.state))

/-! ## what it comes to -/

variable {connection : DoConnection DB} {callback : DoTransaction DB → EStateM (Stop E) DB T}
  {db db' : DB}

/-- A transaction's writes are kept: its callback returned `Ok`, and the commit
succeeded. -/
def commits (result : Except E T) (report : Except WorkerError Unit) : Bool :=
  result.isOk && report.isOk

/-- The closure, once the callback returned. -/
theorem closure_of_attempt {tx : DoTransaction DB} (slot : Option (Except E T))
    {result : Except E T} (h : attempt (callback tx) db = .ok result db') :
    closure tx callback slot db =
      .ok (if !result.isOk then .error "the callback failed" else .ok (), some result) db' := by
  rw [closure, run_bind_of_ok h, run_pure]

theorem closure_of_panic {tx : DoTransaction DB} (slot : Option (Except E T)) {panic : Panic}
    (h : attempt (callback tx) db = .error panic db') :
    closure tx callback slot db = .error panic db' := by
  rw [closure, run_bind_of_error h]

variable [FromError E]

/-- A transaction's value is the one that is committed. -/
theorem isOk_reconcile (report : Except WorkerError Unit) (result : Except E T) :
    (reconcile report (some result)).isOk = commits result report := by
  cases report <;> cases result <;> rfl

/-- What a transaction comes to, case by case. -/
inductive Transacts (connection : DoConnection DB)
    (callback : DoTransaction DB → EStateM (Stop E) DB T) (db : DB) : Prop where
  | notRan (report : Except WorkerError Unit)
      (hcall : connection.storage.transaction (closure connection.handle callback) none db =
        .ok ⟨report, false, none⟩ db)
      (h : connection.transaction callback db = lift (returns (reconcile report none)) db)
  | ran (report : Except WorkerError Unit) (result : Except E T) (left : DB)
      (hfinished : attempt (callback connection.handle) db = .ok result left)
      (hcall : connection.storage.transaction (closure connection.handle callback) none db =
        .ok ⟨report, true, some result⟩ (if commits result report then left else db))
      (h : connection.transaction callback db =
        lift (returns (reconcile report (some result)))
          (if commits result report then left else db))
  | panicked (panic : Panic) (left final : DB)
      (hfinished : attempt (callback connection.handle) db = .error panic left)
      (hcall : connection.storage.transaction (closure connection.handle callback) none db =
        .error panic final)
      (h : connection.transaction callback db = .error (.panic panic) final)

theorem transaction_of_call {call : TransactionCall (Option (Except E T))} {final : DB}
    (hcall : connection.storage.transaction (closure connection.handle callback) none db =
      .ok call final) :
    connection.transaction callback db =
      lift (returns (reconcile call.report call.state)) final := by
  rw [transaction, run_bind_of_ok (run_unfailing_of_ok hcall)]

/-- These are all the cases. -/
theorem transaction_transacts (h : connection.storage.Transactional)
    (callback : DoTransaction DB → EStateM (Stop E) DB T) (db : DB) :
    connection.Transacts callback db := by
  have hsound := h (closure connection.handle callback) none db
  generalize hcall :
    connection.storage.transaction (closure connection.handle callback) none db = call at hsound
  cases hattempt : attempt (callback connection.handle) db with
  | error panic left =>
      have hclosure := closure_of_panic none hattempt
      cases hsound with
      | notRan report => exact .notRan report hcall (transaction_of_call hcall)
      | committed s' left' hrun =>
          rw [hclosure] at hrun
          cases hrun
      | rolledBack result report s' left' hrun hnot =>
          rw [hclosure] at hrun
          cases hrun
      | panicked panic' left' final hrun =>
          rw [hclosure] at hrun
          cases hrun
          refine .panicked panic left final hattempt hcall ?_
          rw [transaction, run_bind_of_error (run_unfailing_of_panic hcall)]
  | ok result left =>
      have hclosure := closure_of_attempt none hattempt
      cases hsound with
      | notRan report => exact .notRan report hcall (transaction_of_call hcall)
      | panicked panic' left' final hrun =>
          rw [hclosure] at hrun
          cases hrun
      | committed s' left' hrun =>
          rw [hclosure] at hrun
          cases hresult : result with
          | error error => simp [hresult, Except.isOk, Except.toBool] at hrun
          | ok value =>
              subst hresult
              cases hrun
              exact .ran (.ok ()) (.ok value) left hattempt hcall (transaction_of_call hcall)
      | rolledBack result' report s' left' hrun hnot =>
          rw [hclosure] at hrun
          have hrefused : commits result report = false := by
            cases hresult : result with
            | error error => rfl
            | ok value =>
                subst hresult
                cases hrun
                cases report with
                | ok u => exact absurd ⟨rfl, rfl⟩ hnot
                | error error => rfl
          cases hrun
          refine .ran report result left hattempt ?_ ?_
          · rw [hrefused]
            exact hcall
          · rw [hrefused]
            exact transaction_of_call hcall

/-! ## what it resolves to -/

/-- The callback ran and returned `value`, leaving `db'`, and that was
committed. -/
structure Committed (connection : DoConnection DB)
    (callback : DoTransaction DB → EStateM (Stop E) DB T) (db : DB) (value : T) (db' : DB) :
    Prop where
  finished : callback connection.handle db = .ok value db'
  committed : ∃ slot left,
    connection.storage.transaction (closure connection.handle callback) none db =
      .ok ⟨.ok (), true, slot⟩ left

/-- The callback ran and returned `error`. -/
structure Refused (connection : DoConnection DB)
    (callback : DoTransaction DB → EStateM (Stop E) DB T) (db : DB) (error : E) : Prop where
  finished : ∃ left, callback connection.handle db = .error (.err error) left
  ran : ∃ report slot left,
    connection.storage.transaction (closure connection.handle callback) none db =
      .ok ⟨report, true, slot⟩ left

/-- A transaction that returns a value was committed. -/
theorem committed_of_transaction (h : connection.storage.Transactional) {value : T}
    (hok : connection.transaction callback db = .ok value db') :
    connection.Committed callback db value db' := by
  cases transaction_transacts h callback db with
  | notRan report hcall htransaction =>
      rw [htransaction] at hok
      cases report <;> cases hok
  | panicked panic left final hfinished hcall htransaction =>
      rw [htransaction] at hok
      cases hok
  | ran report result left hfinished hcall htransaction =>
      rw [htransaction] at hok
      obtain ⟨houtcome, hleft⟩ := attempt_eq_ok_iff.mp hfinished
      cases result with
      | error error => cases report <;> cases hok
      | ok value' =>
          cases report with
          | error error => cases hok
          | ok u =>
              cases hok
              exact ⟨result_ext houtcome hleft, _, _, hcall⟩

/-- A transaction that was committed returns the callback's value. -/
theorem transaction_of_committed (h : connection.storage.Transactional) {value : T}
    (hc : connection.Committed callback db value db') :
    connection.transaction callback db = .ok value db' := by
  obtain ⟨slot, left, hcommitted⟩ := hc.committed
  have hattempt := run_attempt_of_ok hc.finished
  cases transaction_transacts h callback db with
  | notRan report hcall =>
      rw [hcommitted] at hcall
      cases hcall
  | panicked panic left' final hfinished =>
      rw [hattempt] at hfinished
      cases hfinished
  | ran report result left' hfinished hcall htransaction =>
      rw [hattempt] at hfinished
      cases hfinished
      rw [hcommitted] at hcall
      cases hcall
      exact htransaction

/-- A transaction whose callback failed returns the callback's error, whatever
the storage reports, and leaves the database as it was. -/
theorem transaction_of_refused (h : connection.storage.Transactional) {error : E}
    (hr : connection.Refused callback db error) :
    connection.transaction callback db = .error (.err error) db := by
  obtain ⟨final, hfinal⟩ := hr.finished
  obtain ⟨report, slot, left, hran⟩ := hr.ran
  have hattempt := run_attempt_of_err hfinal
  cases transaction_transacts h callback db with
  | notRan report' hcall =>
      rw [hran] at hcall
      cases hcall
  | panicked panic left' final' hfinished =>
      rw [hattempt] at hfinished
      cases hfinished
  | ran report' result left' hfinished hcall htransaction =>
      rw [hattempt] at hfinished
      cases hfinished
      cases report' <;> exact htransaction

/-- Any other transaction fails with an error of the driver's own, and leaves
the database as it was, unless its callback panics. -/
theorem transaction_otherwise (h : connection.storage.Transactional)
    (hc : ∀ value db', ¬connection.Committed callback db value db')
    (hr : ∀ error, ¬connection.Refused callback db error)
    (hp : ∀ panic left, callback connection.handle db ≠ .error (.panic panic) left) :
    ∃ message, connection.transaction callback db =
      .error (.err (FromError.fromError (.protocol message))) db := by
  cases transaction_transacts h callback db with
  | panicked panic left final hfinished =>
      exact absurd (attempt_eq_panic_iff.mp hfinished) (hp panic left)
  | notRan report hcall htransaction =>
      cases report with
      | ok u =>
          exact ⟨"the Durable Object storage transaction never ran its callback", htransaction⟩
      | error error =>
          exact ⟨s!"the Durable Object storage transaction failed: {error}", htransaction⟩
  | ran report result left hfinished hcall htransaction =>
      obtain ⟨houtcome, hleft⟩ := attempt_eq_ok_iff.mp hfinished
      cases result with
      | error error =>
          have hrefused : callback connection.handle db = .error (.err error) left :=
            result_ext houtcome hleft
          exact absurd ⟨⟨left, hrefused⟩, report, _, _, hcall⟩ (hr error)
      | ok value =>
          have hreturned : callback connection.handle db = .ok value left :=
            result_ext houtcome hleft
          cases report with
          | ok u => exact absurd ⟨hreturned, _, _, hcall⟩ (hc value left)
          | error error =>
              exact ⟨s!"the Durable Object storage transaction failed: {error}", htransaction⟩

/-- **A transaction is atomic**: it returns a value exactly when the callback
returned it and the commit succeeded, and then the database is what the
callback left; a callback's error is returned as it is; and whenever no value
is returned, the database is as it was -- unless the callback panics. -/
theorem transaction_atomic (connection : DoConnection DB)
    (h : connection.storage.Transactional)
    (callback : DoTransaction DB → EStateM (Stop E) DB T) (db : DB) :
    (∀ value db', connection.transaction callback db = .ok value db' ↔
        connection.Committed callback db value db') ∧
      (∀ error, connection.Refused callback db error →
        connection.transaction callback db = .error (.err error) db) ∧
      ((∀ value db', ¬connection.Committed callback db value db') →
        (∀ error, ¬connection.Refused callback db error) →
        (∀ panic left, callback connection.handle db ≠ .error (.panic panic) left) →
          ∃ message, connection.transaction callback db =
            .error (.err (FromError.fromError (.protocol message))) db) := by
  exact ⟨fun value db' => ⟨committed_of_transaction h, transaction_of_committed h⟩,
    fun error => transaction_of_refused h, transaction_otherwise h⟩

/-- A transaction whose callback does not panic leaves what that left, if it
returns a value, and nothing if it does not. -/
theorem attempt_transaction (h : connection.storage.Transactional) {r : Except E T} {left : DB}
    (hfinished : attempt (callback connection.handle) db = .ok r left) :
    ∃ result, attempt (connection.transaction callback) db =
      .ok result (if result.isOk then left else db) := by
  cases transaction_transacts h callback db with
  | notRan report hcall htransaction =>
      refine ⟨reconcile report none, ?_⟩
      have hfails : (reconcile report (none : Option (Except E T))).isOk = false := by
        cases report <;> rfl
      rw [attempt, htransaction, hfails]
      exact attempt_lift_returns _ db
  | panicked panic left' final hpanic =>
      rw [hfinished] at hpanic
      cases hpanic
  | ran report result left' hran hcall htransaction =>
      rw [hfinished] at hran
      cases hran
      refine ⟨reconcile report (some r), ?_⟩
      rw [isOk_reconcile, attempt, htransaction]
      exact attempt_lift_returns _ _

/-- The value a transaction returns is its callback's, and the database what
that left. -/
theorem finished_of_transaction (h : connection.storage.Transactional) {value : T}
    (hok : connection.transaction callback db = .ok value db') :
    callback connection.handle db = .ok value db' :=
  (committed_of_transaction h hok).finished

/-- Only a callback that panics makes its transaction panic. -/
theorem panic_of_transaction (h : connection.storage.Transactional) {panic : Panic}
    (hpanic : connection.transaction callback db = .error (.panic panic) db') :
    ∃ left, callback connection.handle db = .error (.panic panic) left := by
  cases transaction_transacts h callback db with
  | notRan report hcall htransaction =>
      rw [htransaction] at hpanic
      cases report <;> cases hpanic
  | ran report result left hfinished hcall htransaction =>
      rw [htransaction] at hpanic
      cases report <;> cases result <;> cases hpanic
  | panicked panic' left final hfinished hcall htransaction =>
      rw [htransaction] at hpanic
      cases hpanic
      exact ⟨left, attempt_eq_panic_iff.mp hfinished⟩

omit [FromError E] in
/-- The storage whose commits succeed, commits a callback that succeeds. -/
theorem transaction_ofSql {sql : SqlStorage DB} {tx : DoTransaction DB} {value : T}
    (h : callback tx db = .ok value db') :
    (Storage.ofSql sql).transaction (closure tx callback) none db =
      .ok ⟨.ok (), true, some (.ok value)⟩ db' := by
  have hclosure : closure tx callback none db = .ok (.ok (), some (.ok value)) db' :=
    closure_of_attempt none (run_attempt_of_ok h)
  simp only [Storage.ofSql, hclosure]

omit [FromError E] in
/-- It rolls back a callback that fails. -/
theorem transaction_ofSql_of_err {sql : SqlStorage DB} {tx : DoTransaction DB} {error : E}
    (h : callback tx db = .error (.err error) db') :
    (Storage.ofSql sql).transaction (closure tx callback) none db =
      .ok ⟨.error "the callback failed", true, some (.error error)⟩ db := by
  have hclosure : closure tx callback none db =
      .ok (.error "the callback failed", some (.error error)) db' :=
    closure_of_attempt none (run_attempt_of_err h)
  simp only [Storage.ofSql, hclosure]

/-- A callback that inserts one row, committed. -/
theorem transaction_atomic_insert :
    letI := JsDebug.describing
    ((new (.ofSql Memory.storage)).transaction (E := Error)
        (fun tx => Executor.execute tx.sql (Memory.query "INSERT INTO t VALUES (1)")) .empty) =
      .ok (Memory.insertResult Memory.one)
        (Memory.empty.inserted Memory.one) := by
  let := JsDebug.describing
  have hfinished : Executor.execute Memory.storage (Memory.query "INSERT INTO t VALUES (1)")
      .empty = .ok (Memory.insertResult Memory.one)
        (Memory.empty.inserted Memory.one) :=
    Memory.executor_execute_insert rfl (by decide) (by decide)
  exact ((transaction_atomic _ (Storage.transactional_ofSql _) _ _).1 _ _).mpr
    ⟨hfinished, _, _, transaction_ofSql hfinished⟩

end DoConnection

end SqlxCloudflare
