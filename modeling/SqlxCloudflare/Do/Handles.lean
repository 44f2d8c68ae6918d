import SqlxCloudflare.Do.Requests

/-!
# SqlxCloudflare.Do.Handles

Whether every query run through a `DoTransaction` is part of its transaction.
A handle is an owned value over the connection's SQL handle, and nothing ties
it to the transaction: one that was let out still runs statements when the
transaction has ended, in whatever is open then.

* `handleWrites_iff` -- being part of a transaction is having been run while it
  was open;
* `handle_writes` -- so every statement is part of its handle's transaction in
  the runs that use a handle only while its transaction is open, and in no
  others but those whose late statements fail.
-/

namespace SqlxCloudflare

open Executor

namespace Requests

section

variable {DB T E : Type} [JsDebug]

/-- A statement that succeeded through a handle is part of the handle's
transaction: it ran while that was open, and once that has ended, its write is
kept exactly if that committed. -/
def PartOfTransaction (s : Requests DB T E) (r : Ledger.Record Statement) : Prop :=
  ∀ tx, r.write.via = .handle tx → r.write.succeeded = true →
    r.during = some tx ∧
      (s.ledger.opened ≠ some tx → (r ∈ s.ledger.journal ↔ tx ∈ s.ledger.committed))

/-- So is every statement run so far. -/
def HandleWrites (s : Requests DB T E) : Prop := ∀ r ∈ s.ledger.history, s.PartOfTransaction r

/-- A handle that was let out is used while its transaction is open. -/
def InScope (label : Label T E) (s : Requests DB T E) : Prop :=
  ∀ tx method query, label = .handle tx method query → s.ledger.opened = some tx

/-- The same, but for statements that fail. -/
def InScopeOrFails (connection : DoConnection DB) (label : Label T E) (s : Requests DB T E) :
    Prop :=
  ∀ tx method query, label = .handle tx method query →
    succeeds connection (.handle tx) method query s.ledger.state = true →
      s.ledger.opened = some tx

/-- Every statement that succeeded through a handle was run while the handle's
transaction was open. -/
def RunInside (s : Requests DB T E) : Prop :=
  ∀ r ∈ s.ledger.history, ∀ tx, r.write.via = .handle tx → r.write.succeeded = true →
    r.during = some tx

variable {connection : DoConnection DB} {db : DB} {s t : Requests DB T E} {label : Label T E}

/-- What the transaction makes of a statement follows from when it was run. -/
theorem handleWrites_iff (h : s.Sound connection db) : s.HandleWrites ↔ s.RunInside := by
  constructor
  · intro hall r hr tx hvia hsucceeded
    exact (hall r hr tx hvia hsucceeded).1
  · intro hall r hr tx hvia hsucceeded
    have hduring := hall r hr tx hvia hsucceeded
    exact ⟨hduring, h.ledger.mem_journal_iff_committed hr hduring⟩

/-- A statement more. -/
theorem runInside_perform (via : Via) (method : Method) (query : Query) :
    (s.perform connection via method query).RunInside ↔
      s.RunInside ∧ ∀ tx, via = .handle tx →
        succeeds connection via method query s.ledger.state = true →
          s.ledger.opened = some tx := by
  simp only [RunInside, history_perform, List.forall_mem_append, List.forall_mem_singleton]
  rfl

variable [FromError E]

/-- A step keeps statements inside exactly when it does not use a handle
late. -/
theorem runInside_step (hs : s.RunInside) (hstep : Requests.step connection label s = some t) :
    t.RunInside ↔ InScopeOrFails connection label s := by
  cases step_of_eq_some hstep with
  | begin callback hrunning => exact iff_of_true hs (by simp [InScopeOrFails])
  | await next hrunning => exact iff_of_true hs (by simp [InScopeOrFails])
  | keep next tx hrunning hopened => exact iff_of_true hs (by simp [InScopeOrFails])
  | statement method query next answer tx hrunning hopened htold =>
      -- the callback's own handle, whose transaction is the one open
      have hinside : (s.perform connection (.handle tx) method query).RunInside := by
        refine (runInside_perform _ _ _).mpr ⟨hs, fun tx' htx' _ => ?_⟩
        cases htx'
        exact hopened
      exact iff_of_true hinside (by simp [InScopeOrFails])
  | finish report result tx hrunning hopened =>
      refine iff_of_true ?_ (by simp [InScopeOrFails])
      unfold RunInside
      split
      · rw [Ledger.history_commit]
        exact hs
      · rw [Ledger.history_rollback]
        exact hs
  | handle tx method query hkept hidle htold =>
      rw [runInside_perform]
      constructor
      · rintro ⟨_, hnew⟩ tx' method' query' heq hsucceeds
        cases heq
        exact hnew tx rfl hsucceeds
      · intro hscope
        refine ⟨hs, fun tx' htx' hsucceeds => ?_⟩
        cases htx'
        exact hscope tx method query rfl hsucceeds
  | connection method query hidle htold =>
      have hinside : (s.perform connection .connection method query).RunInside :=
        (runInside_perform _ _ _).mpr ⟨hs, by simp⟩
      exact iff_of_true hinside (by simp [InScopeOrFails])

/-- **Every query run through a handle is part of the handle's transaction**,
at every state of a run that uses a handle only while its transaction is open.
The runs in which it always is are those and the ones whose late statements
fail; the database is what the kept writes make of it. -/
theorem handle_writes (connection : DoConnection DB) (db : DB) (labels : List (Label T E))
    (t : Requests DB T E)
    (h : Machine.run (Requests.step connection) (start db) labels = some t) :
    (Machine.Along (Requests.step connection) InScope (start db) labels →
        Machine.Always (Requests.step connection) HandleWrites (start db) labels) ∧
      (Machine.Always (Requests.step connection) HandleWrites (start db) labels ↔
        Machine.Along (Requests.step connection) (InScopeOrFails connection) (start db)
          labels) ∧
      t.ledger.state = Ledger.replay (effect connection) db t.ledger.journal := by
  have hstart : (start db : Requests DB T E).RunInside := by simp [RunInside, start, Ledger.start]
  have hiff : Machine.Always (Requests.step connection) HandleWrites (start db) labels ↔
      Machine.Along (Requests.step connection) (InScopeOrFails connection) (start db) labels := by
    refine Machine.always_iff_along (I := fun s => s.Sound connection db)
      (fun label s t hs hstep => hs.step hstep) (fun label s t hs hp hstep => ?_)
      (sound_start connection db) ((handleWrites_iff (sound_start connection db)).mpr hstart) h
    rw [handleWrites_iff (hs.step hstep)]
    exact runInside_step ((handleWrites_iff hs).mp hp) hstep
  have hsound : t.Sound connection db := sound_of_run h
  refine ⟨fun hscope => hiff.mpr (hscope.mono ?_), hiff, hsound.ledger.replays⟩
  exact fun label s hin tx method query heq _ => hin tx method query heq

end

/-- A handle another future uses while the callback awaits. -/
theorem handle_writes_insert :
    letI := JsDebug.describing
    Machine.Always (Requests.step Memory.connection) HandleWrites
      (start .empty : Requests Memory Unit Error)
      [.begin (.keep (.await (.ret (.ok ())))), .callback, .callback,
        .handle 0 .execute (Memory.query "INSERT INTO t VALUES (1)"), .callback,
        .finish (.ok ())] := by
  let := JsDebug.describing
  let s : Requests Memory Unit Error :=
    ⟨(Ledger.start .empty).begin, some (.await (.ret (.ok ()))), [0], []⟩
  have hkept : Machine.run (Requests.step Memory.connection) (start .empty)
      [.begin (.keep (.await (.ret (.ok ())))), .callback, .callback] = some s := rfl
  have hinsert : Requests.step Memory.connection
      (.handle 0 .execute (Memory.query "INSERT INTO t VALUES (1)")) s = some _ :=
    step_handle List.mem_cons_self rfl (Memory.told_insert rfl (by decide) (by decide) _)
  have hrun := (Machine.run_append [.handle 0 .execute (Memory.query "INSERT INTO t VALUES (1)"),
    .callback, .finish (.ok ())] hkept).trans ((Machine.run_cons_of_step hinsert).trans rfl)
  refine (handle_writes Memory.connection .empty _ _ hrun).1 ?_
  refine (Machine.along_cons_iff rfl).mpr ⟨by simp [InScope], ?_⟩
  refine (Machine.along_cons_iff rfl).mpr ⟨by simp [InScope], ?_⟩
  refine (Machine.along_cons_iff rfl).mpr ⟨by simp [InScope], ?_⟩
  refine (Machine.along_cons_iff hinsert).mpr ⟨?_, ?_⟩
  · intro tx method query heq
    cases heq
    rfl
  refine (Machine.along_cons_iff rfl).mpr ⟨by simp [InScope], ?_⟩
  exact (Machine.along_cons_iff rfl).mpr ⟨by simp [InScope], trivial⟩

/-- A handle used after its transaction was rolled back: the insert is kept. -/
theorem not_handle_writes :
    letI := JsDebug.describing
    ¬∀ (labels : List (Label Unit Error)) (t : Requests Memory Unit Error),
      Machine.run (Requests.step Memory.connection) (start .empty) labels = some t →
        t.HandleWrites := by
  let := JsDebug.describing
  intro h
  let s : Requests Memory Unit Error :=
    ⟨(Ledger.start .empty).begin.rollback, none, [0], [(0, .error (.protocol "refused"))]⟩
  have hended : Machine.run (Requests.step Memory.connection) (start .empty)
      [.begin (.keep (.ret (.error (.protocol "refused")))), .callback, .callback,
        .finish (.error "the callback failed")] = some s := rfl
  have hinsert : Requests.step Memory.connection
      (.handle 0 .execute (Memory.query "INSERT INTO t VALUES (1)")) s = some _ :=
    step_handle List.mem_cons_self rfl (Memory.told_insert rfl (by decide) (by decide) _)
  have hwrites := h _ _ ((Machine.run_append [_] hended).trans (Machine.run_cons_of_step hinsert))
  have hpart := hwrites _ List.mem_cons_self 0 rfl
    (Memory.succeeds_insert rfl (by decide) (by decide) (.handle 0))
  have hduring : none = some 0 := hpart.1
  cases hduring

end Requests

end SqlxCloudflare
