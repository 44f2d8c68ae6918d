import SqlxCloudflare.Do.Requests

/-!
# SqlxCloudflare.Do.Interleaving

What a rollback undoes.  The connection and a transaction's handle share one
SQL handle, and the driver does not track whether a transaction is open: what
another future of the request writes while a callback awaits is written inside
that callback's transaction.

* `othersKept_step` -- one step loses another future's write exactly when it
  rolls back a transaction that write was made in;
* `others_kept_iff` -- so for every interleaving, at every state of it.

Which statements count as writes is a parameter.
-/

namespace SqlxCloudflare

open Executor

namespace Requests

section

variable {DB T E : Type} [JsDebug]

/-- Another future ran the statement, through the connection, and was told it
succeeded. -/
def Acknowledged (r : Ledger.Record Statement) : Prop :=
  r.write.via = .connection ∧ r.write.method = .execute ∧ r.write.succeeded = true

/-- Every write another future was told succeeded is present. -/
def OthersKept (writes : Statement → Prop) (s : Requests DB T E) : Prop :=
  ∀ r ∈ s.ledger.history, Acknowledged r → writes r.write → r ∈ s.ledger.journal

/-- No other future has been told that a write succeeded while the transaction
was open that the step rolls back. -/
def UndoesNoOther (writes : Statement → Prop) (label : Label T E) (s : Requests DB T E) : Prop :=
  ∀ report result, label = .finish report → s.running = some (.ret result) →
    DoConnection.commits result report = false →
      ∀ r ∈ s.ledger.history, Acknowledged r → writes r.write → r.during ≠ s.ledger.opened

variable {connection : DoConnection DB} {db : DB} {writes : Statement → Prop}
  {s t : Requests DB T E} {label : Label T E}

/-- A statement more: it is present at once. -/
theorem othersKept_perform (h : s.OthersKept writes) (via : Via) (method : Method)
    (query : Query) : (s.perform connection via method query).OthersKept writes := by
  intro r hr hacknowledged hwrites
  rw [history_perform, List.mem_append] at hr
  rw [journal_perform, List.mem_append]
  exact hr.imp_left fun hold => h r hold hacknowledged hwrites

/-- A rollback loses exactly the other futures' writes made while the
transaction was open. -/
theorem othersKept_rollback_iff (hsound : s.Sound connection db) (h : s.OthersKept writes)
    {tx : ℕ} (hopened : s.ledger.opened = some tx) :
    (∀ r ∈ s.ledger.history, Acknowledged r → writes r.write → r ∈ s.ledger.rollback.journal) ↔
      ∀ r ∈ s.ledger.history, Acknowledged r → writes r.write → r.during ≠ some tx := by
  constructor
  · intro hall r hr hacknowledged hwrites
    have hkept := hall r hr hacknowledged hwrites
    exact ((hsound.ledger.mem_journal_rollback_iff hopened hr).mp hkept).2
  · intro hall r hr hacknowledged hwrites
    rw [hsound.ledger.mem_journal_rollback_iff hopened hr]
    exact ⟨h r hr hacknowledged hwrites, hall r hr hacknowledged hwrites⟩

variable [FromError E]

/-- What one step makes of the other futures' writes. -/
theorem othersKept_step (hsound : s.Sound connection db) (h : s.OthersKept writes)
    (hstep : Requests.step connection label s = some t) :
    t.OthersKept writes ↔ UndoesNoOther writes label s := by
  cases step_of_eq_some hstep with
  | begin callback hrunning => exact iff_of_true h (by simp [UndoesNoOther])
  | await next hrunning => exact iff_of_true h (by simp [UndoesNoOther])
  | keep next tx hrunning hopened => exact iff_of_true h (by simp [UndoesNoOther])
  | statement method query next answer tx hrunning hopened htold =>
      have hkept : (s.perform connection (.handle tx) method query).OthersKept writes :=
        othersKept_perform h _ _ _
      exact iff_of_true hkept (by simp [UndoesNoOther])
  | handle tx method query hkept hidle htold =>
      exact iff_of_true (othersKept_perform h _ _ _) (by simp [UndoesNoOther])
  | connection method query hidle htold =>
      exact iff_of_true (othersKept_perform h _ _ _) (by simp [UndoesNoOther])
  | finish report result tx hrunning hopened =>
      cases hcommits : DoConnection.commits result report with
      | true =>
          refine iff_of_true ?_ ?_
          · simpa [OthersKept] using h
          · intro report' result' heq hrunning' hrefused
            cases heq
            rw [hrunning] at hrunning'
            cases hrunning'
            rw [hcommits] at hrefused
            cases hrefused
      | false =>
          -- a rollback: what it undoes decides
          have hundoes : UndoesNoOther writes (.finish report) s ↔
              ∀ r ∈ s.ledger.history, Acknowledged r → writes r.write → r.during ≠ some tx := by
            rw [← hopened]
            refine ⟨fun hall => hall report result rfl hrunning hcommits, ?_⟩
            intro hall report' result' _ _ _
            exact hall
          rw [hundoes, ← othersKept_rollback_iff hsound h hopened]
          simp [OthersKept]

/-- **A rollback keeps the other futures' writes** throughout an interleaving
exactly when no step of it rolls back a transaction that another future was
told a write had succeeded in. -/
theorem others_kept_iff (connection : DoConnection DB) (writes : Statement → Prop) (db : DB)
    (labels : List (Label T E)) (t : Requests DB T E)
    (h : Machine.run (Requests.step connection) (start db) labels = some t) :
    (Machine.Always (Requests.step connection) (OthersKept writes) (start db) labels ↔
        Machine.Along (Requests.step connection) (UndoesNoOther writes) (start db) labels) ∧
      t.ledger.state = Ledger.replay (effect connection) db t.ledger.journal := by
  have hstart : (start db : Requests DB T E).OthersKept writes := by
    simp [OthersKept, start, Ledger.start]
  have hsound : t.Sound connection db := sound_of_run h
  refine ⟨?_, hsound.ledger.replays⟩
  exact Machine.always_iff_along (I := fun s => s.Sound connection db)
    (fun label s t hs hstep => hs.step hstep)
    (fun label s t hs hkept hstep => othersKept_step hs hkept hstep)
    (sound_start connection db) hstart h

end

/-- An insert made while a callback awaits, kept by the commit. -/
theorem others_kept_insert :
    letI := JsDebug.describing
    Machine.Always (Requests.step Memory.connection) (OthersKept fun _ => True)
      (start .empty : Requests Memory Unit Error)
      [.begin (.ret (.ok ())), .connection .execute (Memory.query "INSERT INTO t VALUES (1)"),
        .callback, .finish (.ok ())] := by
  let := JsDebug.describing
  let s : Requests Memory Unit Error :=
    ⟨(Ledger.start .empty).begin, some (.await (.ret (.ok ()))), [], []⟩
  have hbegin : Requests.step Memory.connection (.begin (.ret (.ok ()))) (start .empty) =
      some s := rfl
  have hinsert : Requests.step Memory.connection
      (.connection .execute (Memory.query "INSERT INTO t VALUES (1)")) s = some _ :=
    step_connection rfl (Memory.told_insert rfl (by decide) (by decide) _)
  have hrun : Machine.run (Requests.step Memory.connection) (start .empty) [.begin (.ret (.ok ())),
      .connection .execute (Memory.query "INSERT INTO t VALUES (1)"), .callback,
      .finish (.ok ())] = some _ :=
    (Machine.run_cons_of_step hbegin).trans ((Machine.run_cons_of_step hinsert).trans rfl)
  refine (others_kept_iff Memory.connection _ .empty _ _ hrun).1.mpr ?_
  refine (Machine.along_cons_iff hbegin).mpr ⟨by simp [UndoesNoOther], ?_⟩
  refine (Machine.along_cons_iff hinsert).mpr ⟨by simp [UndoesNoOther], ?_⟩
  refine (Machine.along_cons_iff rfl).mpr ⟨by simp [UndoesNoOther], ?_⟩
  refine (Machine.along_cons_iff rfl).mpr ⟨?_, trivial⟩
  intro report result heq hrunning hrefused
  cases heq
  cases hrunning
  cases hrefused

/-- An insert made while a callback awaits, undone with the callback's own
writes. -/
theorem not_others_kept :
    letI := JsDebug.describing
    ¬∀ (labels : List (Label Unit Error)) (t : Requests Memory Unit Error),
      Machine.run (Requests.step Memory.connection) (start .empty) labels = some t →
        t.OthersKept fun _ => True := by
  let := JsDebug.describing
  intro h
  let s : Requests Memory Unit Error :=
    ⟨(Ledger.start .empty).begin, some (.await (.ret (.error (.protocol "refused")))), [], []⟩
  have hbegin : Requests.step Memory.connection (.begin (.ret (.error (.protocol "refused"))))
      (start .empty) = some s := rfl
  have hinsert : Requests.step Memory.connection
      (.connection .execute (Memory.query "INSERT INTO t VALUES (1)")) s = some _ :=
    step_connection rfl (Memory.told_insert rfl (by decide) (by decide) _)
  have hrun : Machine.run (Requests.step Memory.connection)
      (start .empty : Requests Memory Unit Error) [.begin (.ret (.error (.protocol "refused"))),
        .connection .execute (Memory.query "INSERT INTO t VALUES (1)"), .callback,
        .finish (.error "the callback failed")] = some _ :=
    (Machine.run_cons_of_step hbegin).trans ((Machine.run_cons_of_step hinsert).trans rfl)
  have hkept := h _ _ hrun
  have hpresent := hkept _ List.mem_cons_self
    ⟨rfl, rfl, Memory.succeeds_insert rfl (by decide) (by decide) .connection⟩ trivial
  cases hpresent

end Requests

end SqlxCloudflare
