import SqlxCloudflare.Do.Transaction
import SqlxCloudflare.Ledger
import SqlxCloudflare.Machine

/-!
# SqlxCloudflare.Do.Requests

The futures of one request as a machine: a transaction whose callback awaits,
and the statements other futures run meanwhile.  Other requests are held off
while a transaction is open; futures of the same request are not, and
`sql.exec` runs inside whatever transaction is open at that moment.

A callback is a program (`Callback`), which may let its handle out, into its
value, its error or `'static` storage; whoever holds a handle or the
connection may run any statement through it whenever the callback awaits.  A
callback that holds another handle uses it while it awaits.  A panic ends the
request: no future is polled after it, so there is no step.

* `step` -- one step of the request, on a `Ledger` of the database;
* `Step`, `step_of_eq_some` -- what a step does, label by label;
* `run_alone` -- a transaction no other future interrupts is
  `DoConnection.transaction`.
-/

namespace SqlxCloudflare

open Executor Fallible

/-! ## callbacks -/

/-- A transaction's callback, as a program. -/
inductive Callback (T E : Type) where
  | ret (result : Except E T)
  /-- Awaits something that is not storage. -/
  | await (next : Callback T E)
  /-- Lets its handle out. -/
  | keep (next : Callback T E)
  /-- Runs a statement through its handle, and goes on with what it answers. -/
  | statement (method : Method) (query : Query)
      (next : Except Error Answer → Callback T E)

variable {DB T E : Type} [JsDebug]

/-- What a callback does when nothing else runs. -/
def Callback.run : Callback T E → DoTransaction DB → EStateM (Stop E) DB T
  | .ret (.ok value), _ => pure value
  | .ret (.error error), _ => throw (.err error)
  | .await next, tx => next.run tx
  | .keep next, tx => next.run tx
  | .statement method query next, tx => do
    let answer ← caught (call tx.sql method query)
    (next answer).run tx

section

variable {tx : DoTransaction DB} {method : Method} {query : Query}
  {next : Except Error Answer → Callback T E} {db : DB}

/-- The callback goes on with what its statement is told. -/
theorem run_statement {answer : Except Error Answer}
    (h : returned (outcome (call tx.sql method query db)) = .ok answer) :
    (Callback.statement method query next).run tx db =
      (next answer).run tx (stateOf (call tx.sql method query db)) := by
  rw [Callback.run, run_bind_of_ok (run_caught_of_ok h)]

theorem run_statement_of_panic {panic : Panic}
    (h : returned (outcome (call tx.sql method query db)) = .error panic) :
    (Callback.statement method query next).run tx db =
      .error (.panic panic) (stateOf (call tx.sql method query db)) := by
  rw [Callback.run, run_bind_of_error (run_caught_of_panic h)]

end

/-! ## statements, and whom they are run through -/

/-- The executor a statement is run through: the connection, or the handle of
a transaction. -/
inductive Via where
  | connection
  | handle (tx : ℕ)
deriving DecidableEq, Repr

/-- A statement that was run, and whether it was told to have succeeded. -/
structure Statement where
  via : Via
  method : Method
  query : Query
  succeeded : Bool

/-- The SQL handle behind an executor: they share one. -/
def DoConnection.sqlOf (connection : DoConnection DB) : Via → SqlStorage DB
  | .connection => connection.sql
  | .handle _ => connection.handle.sql

/-- What a statement is told, unless it panics. -/
def DoConnection.told (connection : DoConnection DB) (via : Via) (method : Method) (query : Query)
    (db : DB) : Except Panic (Except Error Answer) :=
  returned (outcome (call (connection.sqlOf via) method query db))

/-- Whether a statement is told to have succeeded. -/
def succeeds (connection : DoConnection DB) (via : Via) (method : Method) (query : Query)
    (db : DB) : Bool :=
  (outcome (call (connection.sqlOf via) method query db)).isOk

/-- What a statement leaves of the database. -/
def effect (connection : DoConnection DB) (statement : Statement) (db : DB) : DB :=
  stateOf (call (connection.sqlOf statement.via) statement.method statement.query db)

/-! ## the machine -/

/-- A request's futures. -/
structure Requests (DB T E : Type) where
  /-- The database, and what was written to it. -/
  ledger : Ledger Statement DB
  /-- What is left of the open transaction's callback. -/
  running : Option (Callback T E)
  /-- The transactions whose handles were let out. -/
  kept : List ℕ
  /-- What the calls of `transaction` resolved to. -/
  resolved : List (ℕ × Except E T)

/-- A request that has done nothing yet. -/
def Requests.start (db : DB) : Requests DB T E := ⟨.start db, none, [], []⟩

/-- One step of a request. -/
inductive Label (T E : Type) where
  /-- A future calls `transaction` when none is open, and the storage opens one.
  Its callback is queued: other futures may be polled before it is. -/
  | begin (callback : Callback T E)
  /-- The open transaction's callback goes on. -/
  | callback
  /-- The callback has returned, and the storage reports on the transaction. -/
  | finish (report : Except WorkerError Unit)
  /-- A statement through a handle that was let out. -/
  | handle (tx : ℕ) (method : Method) (query : Query)
  /-- A statement through the connection. -/
  | connection (method : Method) (query : Query)

namespace Requests

/-- Runs a statement, and records it. -/
def perform (connection : DoConnection DB) (via : Via) (method : Method) (query : Query)
    (s : Requests DB T E) : Requests DB T E :=
  let succeeded := succeeds connection via method query s.ledger.state
  { s with ledger := s.ledger.write (effect connection) ⟨via, method, query, succeeded⟩ }

@[simp] theorem history_perform (connection : DoConnection DB) (via : Via) (method : Method)
    (query : Query) (s : Requests DB T E) :
    (s.perform connection via method query).ledger.history = s.ledger.history ++
      [s.ledger.record ⟨via, method, query, succeeds connection via method query s.ledger.state⟩] :=
  rfl

@[simp] theorem journal_perform (connection : DoConnection DB) (via : Via) (method : Method)
    (query : Query) (s : Requests DB T E) :
    (s.perform connection via method query).ledger.journal = s.ledger.journal ++
      [s.ledger.record ⟨via, method, query, succeeds connection via method query s.ledger.state⟩] :=
  rfl

/-- The callback is not in the middle of a poll, so other futures may run. -/
def idle (s : Requests DB T E) : Bool :=
  match s.running with
  | none | some (.await _) | some (.ret _) => true
  | some (.keep _) | some (.statement ..) => false

/-- One step of the request, where it is enabled.  The storage reports `Ok`
only of a callback that returned `Ok`. -/
def step [FromError E] (connection : DoConnection DB) :
    Label T E → Requests DB T E → Option (Requests DB T E)
  | .begin callback, s =>
    match s.running with
    | none => some { s with ledger := s.ledger.begin, running := some (.await callback) }
    | some _ => none
  | .callback, s =>
    match s.running, s.ledger.opened with
    | some (.await next), _ => some { s with running := some next }
    | some (.keep next), some tx => some { s with running := some next, kept := tx :: s.kept }
    | some (.statement method query next), some tx =>
      match connection.told (.handle tx) method query s.ledger.state with
      | .ok answer =>
        some { s.perform connection (.handle tx) method query with running := some (next answer) }
      | .error _ => none
    | _, _ => none
  | .finish report, s =>
    match s.running, s.ledger.opened with
    | some (.ret result), some tx =>
      if report.isOk && !result.isOk then none
      else some { s with
        ledger := if DoConnection.commits result report then s.ledger.commit else s.ledger.rollback
        running := none
        resolved := (tx, reconcile report (some result)) :: s.resolved }
    | _, _ => none
  | .handle tx method query, s =>
    if tx ∈ s.kept ∧ s.idle ∧ (connection.told (.handle tx) method query s.ledger.state).isOk
    then some (s.perform connection (.handle tx) method query) else none
  | .connection method query, s =>
    if s.idle ∧ (connection.told .connection method query s.ledger.state).isOk
    then some (s.perform connection .connection method query) else none

/-! ## what a step does -/

/-- What a step does to the request. -/
inductive Step [FromError E] (connection : DoConnection DB) (s : Requests DB T E) :
    Label T E → Requests DB T E → Prop where
  | begin (callback : Callback T E) (h : s.running = none) :
      Step connection s (.begin callback)
        { s with ledger := s.ledger.begin, running := some (.await callback) }
  | await (next : Callback T E) (h : s.running = some (.await next)) :
      Step connection s .callback { s with running := some next }
  | keep (next : Callback T E) (tx : ℕ) (h : s.running = some (.keep next))
      (hopened : s.ledger.opened = some tx) :
      Step connection s .callback { s with running := some next, kept := tx :: s.kept }
  | statement (method : Method) (query : Query) (next : Except Error Answer → Callback T E)
      (answer : Except Error Answer) (tx : ℕ)
      (h : s.running = some (.statement method query next))
      (hopened : s.ledger.opened = some tx)
      (htold : connection.told (.handle tx) method query s.ledger.state = .ok answer) :
      Step connection s .callback
        { s.perform connection (.handle tx) method query with running := some (next answer) }
  | finish (report : Except WorkerError Unit) (result : Except E T) (tx : ℕ)
      (h : s.running = some (.ret result)) (hopened : s.ledger.opened = some tx) :
      Step connection s (.finish report) { s with
        ledger := if DoConnection.commits result report then s.ledger.commit else s.ledger.rollback
        running := none
        resolved := (tx, reconcile report (some result)) :: s.resolved }
  | handle (tx : ℕ) (method : Method) (query : Query) (hkept : tx ∈ s.kept)
      (hidle : s.idle = true)
      (htold : (connection.told (.handle tx) method query s.ledger.state).isOk = true) :
      Step connection s (.handle tx method query) (s.perform connection (.handle tx) method query)
  | connection (method : Method) (query : Query) (hidle : s.idle = true)
      (htold : (connection.told .connection method query s.ledger.state).isOk = true) :
      Step connection s (.connection method query) (s.perform connection .connection method query)

/-- A step that can be taken does one of these. -/
theorem step_of_eq_some [FromError E] {connection : DoConnection DB} {label : Label T E}
    {s t : Requests DB T E} (h : step connection label s = some t) :
    Step connection s label t := by
  cases label with
  | begin callback =>
      simp only [step] at h
      split at h
      · next hrunning =>
          cases h
          exact .begin callback hrunning
      · cases h
  | callback =>
      simp only [step] at h
      split at h
      · next next hrunning =>
          cases h
          exact .await next hrunning
      · next next tx hrunning hopened =>
          cases h
          exact .keep next tx hrunning hopened
      · next method query next tx hrunning hopened =>
          split at h
          · next answer htold =>
              cases h
              exact .statement method query next answer tx hrunning hopened htold
          · cases h
      · cases h
  | finish report =>
      simp only [step] at h
      split at h
      · next result tx hrunning hopened =>
          split at h
          · cases h
          · cases h
            exact .finish report result tx hrunning hopened
      · cases h
  | handle tx method query =>
      simp only [step] at h
      split at h
      · next henabled =>
          cases h
          exact .handle tx method query henabled.1 henabled.2.1 henabled.2.2
      · cases h
  | connection method query =>
      simp only [step] at h
      split at h
      · next henabled =>
          cases h
          exact .connection method query henabled.1 henabled.2
      · cases h

/-- A statement through the connection, which does not panic. -/
theorem step_connection [FromError E] {connection : DoConnection DB} {method : Method}
    {query : Query} {s : Requests DB T E} (hidle : s.idle = true) {answer : Except Error Answer}
    (htold : connection.told .connection method query s.ledger.state = .ok answer) :
    step connection (.connection method query) s =
      some (s.perform connection .connection method query) := by
  rw [step, if_pos ⟨hidle, by rw [htold]; rfl⟩]

/-- A statement through a handle that was let out, which does not panic. -/
theorem step_handle [FromError E] {connection : DoConnection DB} {tx : ℕ} {method : Method}
    {query : Query} {s : Requests DB T E} (hkept : tx ∈ s.kept) (hidle : s.idle = true)
    {answer : Except Error Answer}
    (htold : connection.told (.handle tx) method query s.ledger.state = .ok answer) :
    step connection (.handle tx method query) s =
      some (s.perform connection (.handle tx) method query) := by
  rw [step, if_pos ⟨hkept, hidle, by rw [htold]; rfl⟩]

/-- A statement of the open transaction's callback, which does not panic. -/
theorem step_statement [FromError E] {connection : DoConnection DB} {method : Method}
    {query : Query} {next : Except Error Answer → Callback T E} {tx : ℕ} {s : Requests DB T E}
    (hrunning : s.running = some (.statement method query next))
    (hopened : s.ledger.opened = some tx) {answer : Except Error Answer}
    (htold : connection.told (.handle tx) method query s.ledger.state = .ok answer) :
    step connection .callback s = some
      { s.perform connection (.handle tx) method query with running := some (next answer) } := by
  simp only [step, hrunning, hopened, htold]

/-- The database after a statement that succeeds. -/
theorem state_perform {connection : DoConnection DB} {via : Via} {method : Method}
    {query : Query} {s : Requests DB T E} {answer : Answer} {db' : DB}
    (h : call (connection.sqlOf via) method query s.ledger.state = .ok answer db') :
    (s.perform connection via method query).ledger.state = db' :=
  congrArg stateOf h

/-! ## the ledger of a run -/

/-- The invariant of every run: the ledger is sound, and a transaction is open
exactly while a callback is running. -/
structure Sound (connection : DoConnection DB) (db : DB) (s : Requests DB T E) : Prop where
  ledger : s.ledger.Sound (effect connection) db
  running_iff : s.running = none ↔ s.ledger.savepoint = none

variable {connection : DoConnection DB} {db : DB} {s t : Requests DB T E}

theorem sound_start (connection : DoConnection DB) (db : DB) :
    (start db : Requests DB T E).Sound connection db :=
  ⟨Ledger.sound_start _ _, iff_of_true rfl rfl⟩

variable [FromError E]

/-- Every step keeps the ledger sound. -/
theorem Sound.step (h : s.Sound connection db) {label : Label T E}
    (hstep : Requests.step connection label s = some t) : t.Sound connection db := by
  cases step_of_eq_some hstep with
  | begin callback hrunning =>
      exact ⟨Ledger.sound_begin h.ledger (h.running_iff.mp hrunning), by simp [Ledger.begin]⟩
  | await next hrunning =>
      have hiff := h.running_iff
      rw [hrunning] at hiff
      exact ⟨h.ledger, by simpa using hiff⟩
  | keep next tx hrunning hopened =>
      have hiff := h.running_iff
      rw [hrunning] at hiff
      exact ⟨h.ledger, by simpa using hiff⟩
  | statement method query next answer tx hrunning hopened htold =>
      have hiff := h.running_iff
      rw [hrunning] at hiff
      exact ⟨Ledger.sound_write h.ledger _, by simpa [perform, Ledger.write] using hiff⟩
  | finish report result tx hrunning hopened =>
      split
      · exact ⟨Ledger.sound_commit h.ledger, by simp [Ledger.savepoint_commit]⟩
      · exact ⟨Ledger.sound_rollback h.ledger, by simp [Ledger.savepoint_rollback]⟩
  | handle tx method query hkept hidle htold =>
      exact ⟨Ledger.sound_write h.ledger _, h.running_iff⟩
  | connection method query hidle htold =>
      exact ⟨Ledger.sound_write h.ledger _, h.running_iff⟩

/-- The ledger of every run is sound. -/
theorem sound_of_run {labels : List (Label T E)}
    (h : Machine.run (Requests.step connection) (start db) labels = some t) :
    t.Sound connection db :=
  Machine.invariant (fun _ _ _ hs hstep => hs.step hstep) (sound_start connection db) h

/-! ## a transaction nothing interrupts -/

/-- A callback that is not interrupted leaves what it leaves alone. -/
theorem run_callback (callback : Callback T E) {tx : ℕ} {result : Except E T}
    (hrunning : s.running = some callback) (hopened : s.ledger.opened = some tx)
    (hresult : outcome (callback.run connection.handle s.ledger.state) = returns result) :
    ∃ n t, Machine.run (Requests.step connection) s (List.replicate n .callback) = some t ∧
      t.running = some (.ret result) ∧
      t.ledger.state = stateOf (callback.run connection.handle s.ledger.state) ∧
      t.ledger.savepoint = s.ledger.savepoint ∧ t.resolved = s.resolved := by
  induction callback generalizing s with
  | ret result' =>
      cases result' with
      | ok value =>
          obtain rfl : result = .ok value := returns_eq_ok_iff.mp hresult.symm
          exact ⟨0, s, rfl, hrunning, rfl, rfl, rfl⟩
      | error error =>
          obtain rfl : result = .error error := returns_eq_err_iff.mp hresult.symm
          exact ⟨0, s, rfl, hrunning, rfl, rfl, rfl⟩
  | await next ih =>
      have hstep : Requests.step connection .callback s = some { s with running := some next } := by
        simp only [Requests.step, hrunning]
      obtain ⟨n, t, hrun, hrest⟩ := ih (s := { s with running := some next }) rfl hopened hresult
      exact ⟨n + 1, t, (Machine.run_cons_of_step hstep).trans hrun, hrest⟩
  | keep next ih =>
      have hstep : Requests.step connection .callback s =
          some { s with running := some next, kept := tx :: s.kept } := by
        simp only [Requests.step, hrunning, hopened]
      obtain ⟨n, t, hrun, hrest⟩ :=
        ih (s := { s with running := some next, kept := tx :: s.kept }) rfl hopened hresult
      exact ⟨n + 1, t, (Machine.run_cons_of_step hstep).trans hrun, hrest⟩
  | statement method query next ih =>
      cases htold : connection.told (.handle tx) method query s.ledger.state with
      | error panic =>
          rw [run_statement_of_panic htold] at hresult
          exact absurd hresult.symm (returns_ne_panic result panic)
      | ok answer =>
          rw [run_statement htold] at hresult ⊢
          obtain ⟨n, t, hrun, hrest⟩ := ih answer
            (s := { s.perform connection (.handle tx) method query with
              running := some (next answer) }) rfl hopened hresult
          have hstep := step_statement hrunning hopened htold
          exact ⟨n + 1, t, (Machine.run_cons_of_step hstep).trans hrun, hrest⟩

/-- **The machine runs the driver's transaction**: a transaction that is opened
and ends with no other future in between leaves the database, and resolves to,
what `DoConnection::transaction` does. -/
theorem run_alone (hstorage : connection.storage.Transactional) (hnone : s.running = none)
    (callback : Callback T E) {report : Except WorkerError Unit} {slot : Option (Except E T)}
    {left : DB}
    (hcall : connection.storage.transaction (closure connection.handle callback.run) none
      s.ledger.state = .ok ⟨report, true, slot⟩ left)
    (hreport : report.isOk → (outcome (callback.run connection.handle s.ledger.state)).isOk) :
    ∃ n t result, Machine.run (Requests.step connection) s (.begin callback ::
        (List.replicate n .callback ++ [.finish report])) = some t ∧
      outcome (connection.transaction callback.run s.ledger.state) = returns result ∧
      t.running = none ∧ t.resolved = (s.ledger.next, result) :: s.resolved ∧
      t.ledger.state = stateOf (connection.transaction callback.run s.ledger.state) := by
  cases DoConnection.transaction_transacts hstorage callback.run s.ledger.state with
  | notRan report' hcall' =>
      rw [hcall] at hcall'
      cases hcall'
  | panicked panic left' final hfinished hcall' =>
      rw [hcall] at hcall'
      cases hcall'
  | ran report' result left' hfinished hcall' htransaction =>
      rw [hcall] at hcall'
      cases hcall'
      obtain ⟨hresult, hleft'⟩ := attempt_eq_ok_iff.mp hfinished
      have hopen : Requests.step connection (.begin callback) s =
          some { s with ledger := s.ledger.begin, running := some (.await callback) } := by
        simp only [Requests.step, hnone]
      obtain ⟨n, t, hrun, hret, hleft, hpoint, hresolved⟩ :
          ∃ n t, Machine.run (Requests.step connection)
              { s with ledger := s.ledger.begin, running := some (.await callback) }
              (List.replicate n .callback) = some t ∧
            t.running = some (.ret result) ∧
            t.ledger.state = stateOf (callback.run connection.handle s.ledger.state) ∧
            t.ledger.savepoint = s.ledger.begin.savepoint ∧ t.resolved = s.resolved :=
        run_callback (.await callback) rfl rfl hresult
      have hopened : t.ledger.opened = some s.ledger.next := by
        rw [Ledger.opened, hpoint]
        rfl
      have hfinish : Requests.step connection (.finish report) t = some { t with
          ledger := if DoConnection.commits result report then t.ledger.commit
            else t.ledger.rollback
          running := none
          resolved := (s.ledger.next, reconcile report (some result)) :: t.resolved } := by
        simp only [Requests.step, hret, hopened]
        rw [hresult] at hreport
        have hisOk : (returns result).isOk = result.isOk := by cases result <;> rfl
        grind
      have hall := (Machine.run_cons_of_step hopen).trans
        ((Machine.run_append [.finish report] hrun).trans (Machine.run_cons_of_step hfinish))
      refine ⟨n, _, reconcile report (some result), hall, ?_, rfl, ?_, ?_⟩
      · rw [htransaction, outcome_lift]
      · rw [hresolved]
      · rw [htransaction, stateOf_lift]
        split
        · rw [Ledger.commit_of_savepoint hpoint]
          exact hleft.trans hleft'
        · rw [Ledger.rollback_of_savepoint hpoint]

end Requests

/-! ## on the storage of one table -/

/-- A connection to it. -/
def Memory.connection : DoConnection Memory := .new (.ofSql Memory.storage)

section

variable {sql : String} {id : I64} {db : Memory}

/-- An insert of a new row, through the connection and every handle: they have
the one SQL handle. -/
theorem Memory.call_insert (hsql : Memory.statements.lookup sql = some (.insert id))
    (hid : id ∉ db.rows) (hsafe : Safe id.val) (via : Via) :
    call (Memory.connection.sqlOf via) .execute (Memory.query sql) db =
      .ok (.executed (Memory.insertResult id)) (db.inserted id) := by
  have hinsert := Memory.executor_execute_insert hsql hid hsafe
  cases via <;> exact run_map_of_ok hinsert

theorem told_of_call {connection : DoConnection DB} {via : Via} {method : Method} {query : Query}
    {answer : Answer} {db db' : DB}
    (h : call (connection.sqlOf via) method query db = .ok answer db') :
    connection.told via method query db = .ok (.ok answer) := by
  rw [DoConnection.told, h]
  rfl

theorem Memory.told_insert (hsql : Memory.statements.lookup sql = some (.insert id))
    (hid : id ∉ db.rows) (hsafe : Safe id.val) (via : Via) :
    Memory.connection.told via .execute (Memory.query sql) db =
      .ok (.ok (.executed (Memory.insertResult id))) :=
  told_of_call (Memory.call_insert hsql hid hsafe via)

theorem Memory.succeeds_insert (hsql : Memory.statements.lookup sql = some (.insert id))
    (hid : id ∉ db.rows) (hsafe : Safe id.val) (via : Via) :
    succeeds Memory.connection via .execute (Memory.query sql) db = true := by
  rw [succeeds, Memory.call_insert hsql hid hsafe]
  rfl

end

end SqlxCloudflare
